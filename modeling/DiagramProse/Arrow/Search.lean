import DiagramProse.Text.Alphanumeric
import DiagramProse.Text.Blank

/-!
Finding the arrow of a line. Of all places outside double quotes the leftmost one at which a token is
admitted counts, and there the longest token, so that `--|>` is never taken for `--`. A token that
begins with a letter or digit (`o--`) does not begin within a word.
-/

namespace DiagramProse.Arrow

/-- Tokens and what they stand for. -/
abbrev Table (α : Type) := List (Text × α)

/-- A line, taken apart at its arrow. -/
structure Split (α : Type) where
  left : Text
  right : Text
  token : Text
  value : α
deriving DecidableEq, Repr

variable {α : Type}

/-- Whether `token` may be read where `rest` begins, after the character `previous`. -/
def admits (accept : Text → Text → Bool) (previous : Option Char) (rest token : Text) : Bool :=
  token.isPrefixOf rest &&
    (!token.head?.any Text.isAlphanumeric || !previous.any Text.isAlphanumeric) &&
    accept token (rest.drop token.length)

/-- The entry with the longest token, the last such if there are several. -/
def longest (entries : Table α) : Option (Text × α) :=
  entries.foldl (fun best e =>
    match best with
    | none => some e
    | some b => if b.1.length ≤ e.1.length then some e else some b) none

/-- Searches `rest`, which follows the reversed text `before`; `quoted` tells whether it begins
inside double quotes. -/
def search (table : Table α) (accept : Text → Text → Bool) :
    (quoted : Bool) → (before : Text) → (rest : Text) → Option (Split α)
  | _, _, [] => none
  | quoted, before, c :: rest =>
    if c = '"' then search table accept (!quoted) (c :: before) rest
    else if quoted then search table accept quoted (c :: before) rest
    else
      match longest (table.filter fun e => admits accept before.head? (c :: rest) e.1) with
      | some (token, value) =>
        some {
          left := Text.trim before.reverse
          right := Text.trim ((c :: rest).drop token.length)
          token
          value }
      | none => search table accept quoted (c :: before) rest

/-- The leftmost arrow of the line; `accept token after` may refuse a token for the text after it. -/
def findWhere? (line : Text) (table : Table α) (accept : Text → Text → Bool) : Option (Split α) :=
  search table accept false [] line

def find? (line : Text) (table : Table α) : Option (Split α) := findWhere? line table fun _ _ => true

end DiagramProse.Arrow
