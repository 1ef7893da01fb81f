import DiagramProse.Decimal.Nearest
import DiagramProse.Text.Radix
import DiagramProse.Text.Template
import DiagramProse.Toml.Table

/-!
The literals of TOML: strings in four kinds of quotes, numbers, dates and times. A reader gives what it
read and the text behind it.
-/

namespace DiagramProse.Toml

open Text

/-- Control characters stand neither in strings nor in comments; a tab may. -/
def isControl (c : Char) : Bool := (c.toNat < 32 && c != '\t') || c.toNat == 127

def isGap (c : Char) : Bool := c == ' ' || c == '\t'

/-- The text behind a line end that stands here. -/
def afterNewLine? : Text → Option Text
  | '\n' :: s => some s
  | '\r' :: '\n' :: s => some s
  | _ => none

/-! ## Strings -/

/-- The character that is escaped by a backslash, which was read. -/
def escaped? : Text → Option (Char × Text)
  | 'b' :: s => some ('\x08', s)
  | 't' :: s => some ('\t', s)
  | 'n' :: s => some ('\n', s)
  | 'f' :: s => some ('\x0c', s)
  | 'r' :: s => some ('\r', s)
  | 'e' :: s => some ('\x1b', s)
  | '"' :: s => some ('"', s)
  | '\\' :: s => some ('\\', s)
  | 'x' :: s => codedChar? 2 s
  | 'u' :: s => codedChar? 4 s
  | 'U' :: s => codedChar? 8 s
  | _ => none

/-- A string on one line, of which the opening quote was read. -/
def basicString? : (fuel : Nat) → Text → Option (Text × Text)
  | 0, _ => none
  | fuel + 1, s =>
    match s with
    | [] => none
    | '"' :: rest => some ([], rest)
    | '\\' :: rest => do
      let (c, rest) ← escaped? rest
      let (t, rest) ← basicString? fuel rest
      return (c :: t, rest)
    | c :: rest => do
      guard (!isControl c)
      let (t, rest) ← basicString? fuel rest
      return (c :: t, rest)

/-- A string on one line without escapes, of which the opening quote was read. -/
def literalString? (s : Text) : Option (Text × Text) := do
  let (t, rest) ← cutAt? (· == '\'') s
  guard (!t.any isControl)
  return (t, rest)

/-- The end of a string over several lines: three quotes, in front of which two more belong to it. -/
def closingQuotes? (quote : Char) (s : Text) : Option (Text × Text) :=
  let count := (s.takeWhile (· == quote)).length
  if count < 3 then none
  else
    let kept := min (count - 3) 2
    some (List.replicate kept quote, s.drop (kept + 3))

/-- The text behind blanks and line ends. -/
def afterGapsAndLineEnds : Text → Text
  | '\n' :: s => afterGapsAndLineEnds s
  | '\r' :: '\n' :: s => afterGapsAndLineEnds s
  | c :: s => if isGap c then afterGapsAndLineEnds s else c :: s
  | [] => []

/-- The text behind a backslash that ends a line, and behind all blanks and line ends that follow it. -/
def afterLineEscape? (s : Text) : Option Text :=
  (afterNewLine? (s.dropWhile isGap)).map afterGapsAndLineEnds

/-- A string over several lines, of which the opening quotes were read. -/
def multiLineString? (quote : Char) : (fuel : Nat) → Text → Option (Text × Text)
  | 0, _ => none
  | fuel + 1, s =>
    match closingQuotes? quote s with
    | some closing => some closing
    | none =>
      match s with
      | [] => none
      | c :: rest =>
        if c = '\\' ∧ quote = '"' then
          match afterLineEscape? rest with
          | some rest => multiLineString? quote fuel rest
          | none => do
            let (d, rest) ← escaped? rest
            let (t, rest) ← multiLineString? quote fuel rest
            return (d :: t, rest)
        else do
          guard (!isControl c || (afterNewLine? s).isSome)
          let (t, rest) ← multiLineString? quote fuel rest
          return (c :: t, rest)

/-- A string in any kind of quotes. A line end behind three opening quotes is not part of it. -/
def string? (s : Text) : Option (Text × Text) :=
  let multiLine (quote : Char) (rest : Text) :=
    multiLineString? quote (s.length + 1) ((afterNewLine? rest).getD rest)
  match s with
  | '"' :: '"' :: '"' :: rest => multiLine '"' rest
  | '\'' :: '\'' :: '\'' :: rest => multiLine '\'' rest
  | '"' :: rest => basicString? (s.length + 1) rest
  | '\'' :: rest => literalString? rest
  | _ => none

/-! ## Numbers -/

/-- Digits of which each underscore stands between two, without the underscores. -/
def digits? (base : Nat) (s : Text) : Option Text :=
  let groups := s.splitBy (· == '_')
  if groups.all fun g => !g.isEmpty && g.all (isDigitOf base) then some groups.flatten else none

def withoutSign (s : Text) : Text :=
  match s with
  | '+' :: rest => rest
  | '-' :: rest => rest
  | _ => s

/-- Whole digits without zeros in front. -/
def wholeDigits? (s : Text) : Option Text :=
  (digits? 10 s).filter fun d => d.length = 1 || d.head? != some '0'

/-- Whether a text is an integer of at most 128 bits. -/
def isInteger (s : Text) : Bool :=
  let based (mark : Text) (base : Nat) : Bool :=
    ((dropPrefix? s mark).bind (digits? base)).any fun d => ofDigits base d < Nat.pow 2 128
  based "0x" 16 || based "0o" 8 || based "0b" 2
    || (wholeDigits? (withoutSign s)).any fun d =>
      ofDigits 10 d < Nat.pow 2 128 && (s.head? != some '-' || ofDigits 10 d ≤ Nat.pow 2 127)

/-- The power of ten that an exponent names. -/
def exponent? (s : Text) : Option Int :=
  (digits? 10 (withoutSign s)).map fun d =>
    if s.head? = some '-' then -(ofDigits 10 d : Int) else ofDigits 10 d

/-- The number behind its sign, with a fraction, an exponent, or both, as digits and a power of ten. -/
def unsignedFloat? (s : Text) : Option (Nat × Int) := do
  let (mantissa, exponent) := match cutAt? (fun c => c == 'e' || c == 'E') s with
    | some (m, e) => (m, some e)
    | none => (s, none)
  let (whole, fraction) := match cutAt? (· == '.') mantissa with
    | some (w, f) => (w, some f)
    | none => (mantissa, none)
  guard (exponent.isSome || fraction.isSome)
  let whole ← wholeDigits? whole
  let fraction ← fraction.elim (some []) (digits? 10)
  let power ← exponent.elim (some 0) exponent?
  return (ofDigits 10 (whole ++ fraction), power - fraction.length)

/-- Whether a text is a number with a fraction or an exponent that a double can hold, or one of the
numbers with a name. -/
def isFloat (s : Text) : Bool :=
  let unsigned := withoutSign s
  unsigned = "inf".toList || unsigned = "nan".toList
    || (unsignedFloat? unsigned).any fun (digits, power) => !Decimal.isTooLarge digits power

/-! ## Dates and times -/

/-- Two or more digits, as many as asked for, and the text behind them. -/
def fixedDigits? (n : Nat) (s : Text) : Option (Nat × Text) :=
  let digits := s.take n
  if digits.length = n && digits.all Char.isDigit then some (ofDigits 10 digits, s.drop n) else none

def isLeapYear (y : Nat) : Bool := y % 4 = 0 && (y % 100 != 0 || y % 400 = 0)

def daysIn (year month : Nat) : Nat :=
  if month = 2 then if isLeapYear year then 29 else 28
  else if month = 4 ∨ month = 6 ∨ month = 9 ∨ month = 11 then 30
  else 31

/-- A date, as it is written, and the text behind it. -/
def date? (s : Text) : Option (Text × Text) := do
  let (year, r) ← fixedDigits? 4 s
  let (month, r) ← fixedDigits? 2 (← dropPrefix? r ['-'])
  let (day, r) ← fixedDigits? 2 (← dropPrefix? r ['-'])
  guard (1 ≤ month && month ≤ 12 && 1 ≤ day && day ≤ daysIn year month)
  return (s.take 10, r)

/-- The fraction of a second, cut after nine digits, without zeros at its end. -/
def fraction? (s : Text) : Option (Text × Text) := do
  let r ← dropPrefix? s ['.']
  let digits := r.takeWhile Char.isDigit
  guard (!digits.isEmpty)
  let kept := dropEndWhile (· == '0') (digits.take 9)
  return (if kept.isEmpty then [] else '.' :: kept, r.drop digits.length)

/-- A time of day, as it is shown, and the text behind it. Seconds may be left out; they are shown all the
same. -/
def time? (s : Text) : Option (Text × Text) := do
  let (hour, r) ← fixedDigits? 2 s
  let (minute, r) ← fixedDigits? 2 (← dropPrefix? r [':'])
  guard (hour ≤ 23 && minute ≤ 59)
  match dropPrefix? r [':'] with
  | none => return (s.take 5 ++ ":00".toList, r)
  | some r => do
    let (second, r) ← fixedDigits? 2 r
    guard (second ≤ 60)
    let (fraction, r) := (fraction? r).getD ([], r)
    return (s.take 8 ++ fraction, r)

/-- The distance from universal time, as it is shown, and the text behind it. -/
def offset? (s : Text) : Option (Text × Text) :=
  match s with
  | 'Z' :: r => some (['Z'], r)
  | 'z' :: r => some (['Z'], r)
  | c :: r => do
    guard (c = '+' || c = '-')
    let (hours, q) ← fixedDigits? 2 r
    let (minutes, q) ← fixedDigits? 2 (← dropPrefix? q [':'])
    guard (hours ≤ 23 && minutes ≤ 59)
    return ((if hours = 0 ∧ minutes = 0 then '+' else c) :: r.take 5, q)
  | [] => none

/-- A date, a time, or both with a mark between them and perhaps the distance from universal time. -/
def moment? (s : Text) : Option Text :=
  let whole (r : Option (Text × Text)) : Option Text :=
    r.bind fun (t, rest) => if rest.isEmpty then some t else none
  match date? s with
  | none => whole (time? s)
  | some (date, []) => some date
  | some (date, c :: r) => do
    guard (c = 'T' || c = 't' || c = ' ')
    let (time, r) ← time? r
    let offset ← if r.isEmpty then some [] else whole (offset? r)
    return date ++ 'T' :: time ++ offset

/-! ## Literals without quotes -/

def isBareChar (c : Char) : Bool :=
  c.isAlphanum || c == '_' || c == '+' || c == '-' || c == '.' || c == ':'

/-- What is written without quotes; a date and a time may have a space between them. -/
def bareText (s : Text) : Text :=
  let first := s.takeWhile isBareChar
  match s.drop first.length with
  | ' ' :: c :: rest =>
    if (date? first).any (fun (_, r) => r.isEmpty) && c.isDigit then
      first ++ ' ' :: (c :: rest).takeWhile isBareChar
    else first
  | _ => first

def bareValue? (s : Text) : Option TomlValue :=
  if s = "true".toList then some (.boolean true)
  else if s = "false".toList then some (.boolean false)
  else if isInteger s || isFloat s then some .number
  else (moment? s).map .moment

end DiagramProse.Toml
