import DiagramProse.ClassDiagram.Basic
import DiagramProse.Dialect

/-!
Reading one member of a class. A member with parentheses is a method, any other an attribute, unless
the modifier for fields says so. A line of dashes, dots, equals signs or underscores only separates.
-/

namespace DiagramProse

open Text

def fieldModifier : Text := "\x7bfield\x7d"

def memberModifiers : List Text :=
  ["\x7bstatic\x7d", "\x7babstract\x7d", "\x7bclassifier\x7d", fieldModifier, "\x7bmethod\x7d"]

/-- Takes the modifiers out, one kind after the other, and tells whether a field is asked for. -/
def dropModifiers (text : Text) : Bool × Text :=
  memberModifiers.foldl (fun (field, t) modifier =>
    if t.contains modifier then (field || modifier == fieldModifier, replace modifier [' '] t)
    else (field, t)) (false, text)

def memberSeparators : List Text := ["--", "..", "==", "__"]

/-- The signs for static and abstract members, which follow them in Mermaid. -/
def isClassifierSign (c : Char) : Bool := c == '$' || c == '*'

/-! ## Parameters -/

/-- Whether a bracket opens or closes at `c`. -/
def bracketStep (c : Char) : Int :=
  if c = '<' ∨ c = '[' ∨ c = '\x7b' then 1
  else if c = '>' ∨ c = ']' ∨ c = '\x7d' then -1
  else 0

/-- The pieces between the commas and semicolons outside brackets; `depth` brackets are open. -/
def splitParameters : (depth : Int) → Text → List Text
  | _, [] => [[]]
  | depth, c :: s =>
    if (c = ',' ∨ c = ';') ∧ depth ≤ 0 then [] :: splitParameters depth s
    else
      match splitParameters (depth + bracketStep c) s with
      | [] => [[c]]
      | w :: ws => (c :: w) :: ws

/-- A parameter is written with its type behind a colon, or in front of its name. -/
def Parameter.read? (text : Text) : Option Parameter :=
  let t := text.trim
  if t.isEmpty then none
  else
    match cutAt? (· == ':') t with
    | some (name, type) => some ⟨trim name, nonempty? (trim type)⟩
    | none =>
      match cutAtLast? isBlank t with
      | some (type, name) => some ⟨trim name, some (trim type)⟩
      | none => some ⟨t, none⟩

def readParameters (text : Text) : List Parameter := (splitParameters 0 text).filterMap Parameter.read?

/-! ## Members -/

/-- A method, taken apart before its parameters, between the parentheses and after them. -/
def Method.ofParts (visibility : Visibility) (before inner after : Text) : Method :=
  let head := before.trim
  let (typeBefore, name) :=
    match cutAtLast? isBlank head with
    | some (type, name) => (some (trim type), trim name)
    | none => (none, head)
  let tail := trim (after.trim.dropWhile isClassifierSign)
  let typeAfter := trim ((dropPrefix? tail [':']).getD tail)
  { visibility
    name
    parameters := readParameters inner
    returnType := if typeAfter.isEmpty then typeBefore else some typeAfter }

/-- The type of an attribute stands behind a colon; in Mermaid it may also stand before the name. -/
def Attribute.ofBody (visibility : Visibility) (body : Text) (dialect : Dialect) : Attribute :=
  match cutAt? (· == ':') body with
  | some (name, type) => ⟨visibility, trim name, nonempty? (trim type)⟩
  | none =>
    match dialect, words body with
    | .mermaid, [type, name] => ⟨visibility, name, some type⟩
    | _, _ => ⟨visibility, body, none⟩

/-- The text before the first opening parenthesis, the text up to the last closing one behind it, and
what follows. -/
def parenthesised? (body : Text) : Option (Text × Text × Text) := do
  let (before, rest) ← cutAt? (· == '(') body
  let (inner, after) ← cutAtLast? (· == ')') rest
  return (before, inner, after)

/-- Reads a line of a class body; nothing comes of a separator and of a line without a name. -/
def Member.read? (text : Text) (dialect : Dialect) : Option Member :=
  let (isField, plain) := dropModifiers text.trim
  let line := plain.trim
  if line.startsWithAny memberSeparators then none
  else
    let (visibility, rest) := Visibility.split line
    let body := trim ((trim rest).dropEndWhile isClassifierSign)
    if body.isEmpty then none
    else
      match isField, parenthesised? body with
      | false, some (before, inner, after) =>
        some (.method (Method.ofParts visibility before inner after))
      | _, _ => some (.field (Attribute.ofBody visibility body dialect))

end DiagramProse
