import DiagramProse.Toml.Literal

/-!
Documents in TOML. Every line is blank, a header, or a key and its value; arrays and inline tables go
over several lines.
-/

namespace DiagramProse.Toml

open Text

/-! ## Between the statements -/

/-- What follows blanks, line ends and comments. -/
def afterFiller? : (inComment : Bool) → Text → Option Text
  | _, [] => some []
  | _, '\n' :: s => afterFiller? false s
  | _, '\r' :: '\n' :: s => afterFiller? false s
  | true, c :: s => if isControl c then none else afterFiller? true s
  | false, c :: s =>
    if c = '#' then afterFiller? true s
    else if isGap c then afterFiller? false s
    else some (c :: s)

/-- What follows a line that holds nothing more than blanks and a comment. -/
def afterRestOfLine? (s : Text) : Option Text :=
  match s.dropWhile isGap with
  | [] => some []
  | '#' :: r => afterFiller? true r
  | t => afterNewLine? t

/-! ## Keys -/

def isKeyChar (c : Char) : Bool := c.isAlphanum || c == '_' || c == '-'

/-- One part of a key, without quotes or in quotes on one line. -/
def keyPart? (s : Text) : Option (Text × Text) :=
  match s with
  | '"' :: rest => basicString? (s.length + 1) rest
  | '\'' :: rest => literalString? rest
  | _ =>
    let key := s.takeWhile isKeyChar
    if key.isEmpty then none else some (key, s.drop key.length)

/-- How many parts a key may have, and how many arrays and inline tables may stand in each other. -/
def deepest : Nat := 80

/-- One part of a key or several with dots between them, no more than `most`. -/
def keyParts? : (most : Nat) → Text → Option (List Text × Text)
  | 0, _ => none
  | most + 1, s => do
    let (part, rest) ← keyPart? (s.dropWhile isGap)
    match rest.dropWhile isGap with
    | '.' :: rest => do
      let (parts, rest) ← keyParts? most rest
      return (part :: parts, rest)
    | rest => return ([part], rest)

/-- A key and the text behind it and the blanks that follow it. -/
def key? (s : Text) : Option (List Text × Text) := keyParts? deepest s

/-! ## Values -/

/-- The items behind an opening bracket or a comma, up to the closing bracket, and the text behind it. A
comma may follow the last item. -/
def items? {α : Type} (closing : Char) (item? : Text → Option (α × Text)) :
    (fuel : Nat) → Text → Option (List α × Text)
  | 0, _ => none
  | fuel + 1, s => do
    let first ← afterFiller? false s
    match dropPrefix? first [closing] with
    | some rest => return ([], rest)
    | none => do
      let (item, rest) ← item? first
      match ← afterFiller? false rest with
      | [] => none
      | c :: rest =>
        if c = closing then return ([item], rest)
        else if c = ',' then do
          let (items, rest) ← items? closing item? fuel rest
          return (item :: items, rest)
        else none

/-- A key, an equals sign and a value; `skip?` goes over what may stand around the sign. -/
def pair? {α : Type} (skip? : Text → Option Text) (value? : Text → Option (α × Text)) (s : Text) :
    Option ((List Text × α) × Text) := do
  let (key, rest) ← key? s
  let (value, rest) ← value? (← skip? (← dropPrefix? (← skip? rest) ['=']))
  return ((key, value), rest)

/-- A value other than an array or an inline table, and the text behind it. -/
def scalar? (s : Text) : Option (TomlValue × Text) :=
  if s.head?.any fun c => c == '"' || c == '\'' then
    (string? s).map fun (t, rest) => (.string t, rest)
  else
    let bare := bareText s
    (bareValue? bare).map fun value => (value, s.drop bare.length)

/-- A value, and the text behind it. Up to `depth` arrays and inline tables stand in each other. -/
def value? : (depth : Nat) → Text → Option (TomlValue × Text)
  | 0, s => scalar? s
  | depth + 1, s =>
    match s with
    | '[' :: rest =>
      (items? ']' (value? depth) (rest.length + 1) rest).map fun (items, rest) => (.array items, rest)
    | '\x7b' :: rest => do
      let (entries, rest) ←
        items? '\x7d' (pair? (afterFiller? false) (value? depth)) (rest.length + 1) rest
      return (.table .inline (← TomlTable.ofEntries? entries), rest)
    | _ => scalar? s

/-! ## Statements -/

/-- The path in a header and the text behind its closing brackets. -/
def headerPath? (closing : Text) (s : Text) : Option (List Text × Text × Text) := do
  let (path, rest) ← key? s
  return (path.dropLast, ← path.getLast?, ← dropPrefix? rest closing)

/-- A statement that begins here, and the text behind it. -/
def statement? (s : Text) : Option (TomlStatement × Text) :=
  match s with
  | '[' :: '[' :: rest =>
    (headerPath? [']', ']'] rest).map fun (path, key, rest) => (.appending path key, rest)
  | '[' :: rest => (headerPath? [']'] rest).map fun (path, key, rest) => (.header path key, rest)
  | _ =>
    (pair? (fun r => some (r.dropWhile isGap)) (value? deepest) s).map fun ((path, value), rest) =>
      (.entry path value, rest)

/-- All statements from the beginning of a line on. -/
def statements? : (fuel : Nat) → Text → Option (List TomlStatement)
  | 0, _ => none
  | fuel + 1, s => do
    match ← afterFiller? false s with
    | [] => return []
    | first => do
      let (statement, rest) ← statement? first
      return statement :: (← statements? fuel (← afterRestOfLine? rest))

/-- Reads a document, which may begin with a byte order mark. -/
def read? (s : Text) : Option TomlTable := do
  let t := (dropPrefix? s ['\ufeff']).getD s
  TomlTable.ofStatements? (← statements? (t.length + 1) t)

end DiagramProse.Toml
