import DiagramProse.Text.Basic

/-!
Digits and the numbers written with them in bases up to 16.
-/

namespace DiagramProse.Text

/-- The value of a digit; the letters A to F, in either case, are the digits from 10 on. -/
def digitValue? (c : Char) : Option Nat :=
  if '0' ≤ c ∧ c ≤ '9' then some (c.toNat - '0'.toNat)
  else if 'a' ≤ c ∧ c ≤ 'f' then some (c.toNat - 'a'.toNat + 10)
  else if 'A' ≤ c ∧ c ≤ 'F' then some (c.toNat - 'A'.toNat + 10)
  else none

def isDigitOf (base : Nat) (c : Char) : Bool := (digitValue? c).any (· < base)

/-- The number that the digits write. What is no digit counts as zero. -/
def ofDigits (base : Nat) (digits : Text) : Nat :=
  digits.foldl (fun n c => base * n + (digitValue? c).getD 0) 0

/-- The character with the given code point, unless it is no character. -/
def charOf? (n : Nat) : Option Char := if h : n.isValidChar then some (Char.ofNatAux n h) else none

/-- The character whose code point is written by the first `n` characters in base 16, and the text
behind them. -/
def codedChar? (n : Nat) (s : Text) : Option (Char × Text) := do
  let digits := s.take n
  guard (digits.length = n && digits.all (isDigitOf 16))
  return (← charOf? (ofDigits 16 digits), s.drop n)

end DiagramProse.Text
