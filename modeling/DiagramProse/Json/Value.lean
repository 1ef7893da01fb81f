import DiagramProse.Decimal.Shortest
import DiagramProse.Text.Template

/-!
JSON values and their text over several lines: two spaces for each level, the fields of an object in
the order of the code points of their names, empty lists and objects on one line.
-/

namespace DiagramProse

inductive JsonValue where
  | null
  | bool (b : Bool)
  | natural (n : Nat)
  | number (x : Float)
  | string (s : Text)
  | list (items : List JsonValue)
  | object (fields : List (Text × JsonValue))

namespace JsonValue

open Text

def optional {α : Type} (f : α → JsonValue) : Option α → JsonValue
  | some a => f a
  | none => null

/-! ## Text in quotes -/

def hexDigit (n : Nat) : Char := Nat.digitChar (n % 16)

/-- Quotes, backslashes and control characters are escaped, nothing else is. -/
def quoteChar (c : Char) : Text :=
  if c = '"' then "\\\""
  else if c = '\\' then "\\\\"
  else if c = '\x08' then "\\b"
  else if c = '\x0c' then "\\f"
  else if c = '\n' then "\\n"
  else if c = '\r' then "\\r"
  else if c = '\t' then "\\t"
  else if c.toNat < 32 then "\\u00".toList ++ [hexDigit (c.toNat / 16), hexDigit c.toNat]
  else [c]

def quote (s : Text) : Text := '"' :: s.flatMap quoteChar ++ ['"']

/-! ## Numbers -/

/-- Between the fifth place behind the point and the sixteenth before it all places are written, and
the exponent elsewhere. -/
def numberText (x : Float) : Text :=
  let d := Decimal.ofFloat .even x
  if -5 ≤ d.leadingExponent && d.leadingExponent ≤ 15 then d.positionalWithPoint else d.scientific

/-! ## Layout -/

/-- Whether a name comes before another or is the same, by code points. -/
def nameLe : Text → Text → Bool
  | [], _ => true
  | _ :: _, [] => false
  | c :: s, d :: t => c < d || (c = d && nameLe s t)

def newLine (level : Nat) : Text := '\n' :: List.replicate (2 * level) ' '

/-- Items between brackets, each on a line of its own one level deeper. -/
def bracketed (opening closing : Char) (level : Nat) (items : List Text) : Text :=
  if items.isEmpty then [opening, closing]
  else
    opening :: join [','] (items.map fun item => newLine (level + 1) ++ item)
      ++ newLine level ++ [closing]

mutual

/-- The text of a value that stands at the given level. -/
def pretty (level : Nat) : JsonValue → Text
  | null => "null"
  | bool true => "true"
  | bool false => "false"
  | natural n => ofNat n
  | number x => numberText x
  | string s => quote s
  | list items => bracketed '[' ']' level (prettyItems (level + 1) items)
  | object fields =>
    let sorted := (prettyFields (level + 1) fields).mergeSort fun a b => nameLe a.1 b.1
    bracketed '\x7b' '\x7d' level (sorted.map fun (name, value) => quote name ++ ": " ++ value)

def prettyItems (level : Nat) : List JsonValue → List Text
  | [] => []
  | v :: vs => pretty level v :: prettyItems level vs

def prettyFields (level : Nat) : List (Text × JsonValue) → List (Text × Text)
  | [] => []
  | (name, v) :: rest => (name, pretty level v) :: prettyFields level rest

end

end JsonValue

end DiagramProse
