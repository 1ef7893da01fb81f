import DiagramProse.Decimal.Nearest
import DiagramProse.Dialect
import DiagramProse.PieChart.Basic
import DiagramProse.Text.Lines
import DiagramProse.Text.Quoted

/-!
Reading a pie chart line by line. What stands before the header is passed over; behind it a line is a
title or a segment, which is a label and a numeral with a colon between them. A segment counts if its
value is finite and not below zero.
-/

namespace DiagramProse

open Text

/-! ## Numerals -/

/-- A numeral with its sign, all its digits, and how many of them stand behind the point. -/
structure Numeral where
  negative : Bool
  digits : Text
  places : Nat
deriving DecidableEq, Repr

/-- Digits with a point among them, before them or behind them, and perhaps a minus sign in front. -/
def Numeral.read? (s : Text) : Option Numeral := do
  let (negative, unsigned) := match dropPrefix? s ['-'] with
    | some rest => (true, rest)
    | none => (false, s)
  let (whole, fraction) := (cutAt? (· == '.') unsigned).getD (unsigned, [])
  let digits := whole ++ fraction
  guard (!digits.isEmpty && digits.all Char.isDigit)
  return ⟨negative, digits, fraction.length⟩

def Numeral.value (n : Numeral) : Float :=
  Decimal.toFloat n.negative (Nat.ofDigitChars 10 n.digits 0) n.places

/-! ## Segments -/

/-- The label of a segment, in quotes or without any, and the text behind its colon. -/
def segmentParts? : Text → Option (Text × Text)
  | '"' :: s => do
    let (label, rest) ← cutAt? (· == '"') s
    return (label, ← dropPrefix? rest.trimStart [':'])
  | s => do
    let (label, value) ← cutAt? (· == ':') s
    guard (!label.contains ['"'])
    return (label, value)

/-- A label and a numeral, whatever its value. -/
def readSegment? (line : Text) : Option (Text × Numeral) := do
  let (label, value) ← segmentParts? line
  guard (!label.isEmpty)
  return (trim label, ← Numeral.read? (trim value))

/-! ## Statements -/

/-- What a line behind the header says. -/
inductive PieStatement where
  | title (title : Text)
  | segment (label : Text) (value : Numeral)
  | other
deriving DecidableEq, Repr

def PieStatement.read (line : Text) : PieStatement :=
  match dropPrefix? line "title " with
  | some t => title (unquote t)
  | none =>
    if line.startsWithAny ["accTitle", "accDescr"] then other
    else
      match readSegment? line with
      | some (label, value) => segment label value
      | none => other

namespace PieChart

/-- A segment with a negative or an infinite value is left out. -/
def addSegment (c : PieChart) (label : Text) (value : Float) : PieChart :=
  if 0 ≤ value && value.isFinite then { c with segments := c.segments ++ [⟨label, value⟩] } else c

def apply (c : PieChart) : PieStatement → PieChart
  | .title t => { c with title := some t }
  | .segment label value => c.addSegment label value.value
  | .other => c

/-- What the header says behind its keyword: whether data are shown, and a title. -/
def ofHeader (rest : Text) : PieChart :=
  let (showData, rest) := match dropPrefix? rest.trim "showData" with
    | some after => (true, trim after)
    | none => (false, rest.trim)
  ⟨(dropPrefix? rest "title").bind fun t => nonempty? (unquote t), showData, []⟩

/-- Reads a line; before the header there is no chart. -/
def step (chart : Option PieChart) (raw : Text) : Option PieChart :=
  let line := raw.trim
  if line.isEmpty || isComment line then chart
  else
    match chart with
    | none => (dropPrefix? line "pie").map ofHeader
    | some c => some (c.apply (.read line))

def ofLines (lines : List Text) : PieChart := (lines.foldl step none).getD .empty

def read (source : Text) : PieChart := ofLines source.lines

end PieChart

end DiagramProse
