import DiagramProse.Text.Template

/-!
Numbers in decimal notation: a sign, digits, and the power of ten that the digits are multiplied
with. `positional` writes all places, `scientific` one digit before the point and the exponent.
-/

namespace DiagramProse

/-- The number `digits · 10 ^ exponent`, negated if `negative`. -/
structure Decimal where
  negative : Bool
  digits : Nat
  exponent : Int
deriving DecidableEq, Repr

namespace Decimal

open Text

def digitTexts (d : Decimal) : Text := ofNat d.digits

/-- The exponent of the first digit. -/
def leadingExponent (d : Decimal) : Int := d.digitTexts.length + d.exponent - 1

def sign (d : Decimal) : Text := if d.negative then ['-'] else []

def zeros (n : Nat) : Text := List.replicate n '0'

/-- The digits with a point before the last `places` of them, filled up with zeros in front. -/
def withPoint (digits : Text) (places : Nat) : Text :=
  let padded := zeros (places + 1 - digits.length) ++ digits
  let front := padded.length - places
  padded.take front ++ '.' :: padded.drop front

/-- All places, with a point only where there is a fraction. -/
def positional (d : Decimal) : Text :=
  d.sign ++ match d.exponent with
    | .ofNat n => if d.digits = 0 then ['0'] else d.digitTexts ++ zeros n
    | .negSucc n => withPoint d.digitTexts (n + 1)

/-- All places, with a point and at least one place behind it. -/
def positionalWithPoint (d : Decimal) : Text :=
  match d.exponent with
  | .ofNat _ => d.positional ++ ".0"
  | .negSucc _ => d.positional

/-- One digit, the others behind a point, and the exponent with its sign. -/
def scientific (d : Decimal) : Text :=
  let mantissa := match d.digitTexts with
    | first :: second :: rest => first :: '.' :: second :: rest
    | few => few
  let e := d.leadingExponent
  d.sign ++ mantissa ++ ['e', if e < 0 then '-' else '+'] ++ ofNat e.natAbs

end Decimal

end DiagramProse
