import DiagramProse.Text.Basic

/-!
Phrases with places to fill in, phrases that depend on a count, and names joined by a conjunction.
-/

namespace DiagramProse.Text

/-- The place in a template where the value called `key` goes. -/
def placeholder (key : Text) : Text := '{' :: key ++ ['}']

/-- Fills in the values in the given order, each wherever its place stands in the text so far. -/
def fill (template : Text) (values : List (Text × Text)) : Text :=
  values.foldl (fun s (key, value) => replace (placeholder key) value s) template

def ofNat (n : Nat) : Text := (toString n).toList

def ofInt (n : Int) : Text := (toString n).toList

/-- The phrase for `n` things, with the number filled in. -/
def countPhrase (n : Nat) (singular plural : Text) : Text :=
  fill (if n = 1 then singular else plural) [("count", ofNat n)]

/-- The names with commas between them, and `conjunction` before the last one. -/
def joinNames (names : List Text) (conjunction : Text) : Text :=
  match names.reverse with
  | [] => []
  | [only] => only
  | last :: before => join ", " before.reverse ++ [' '] ++ conjunction ++ [' '] ++ last

end DiagramProse.Text
