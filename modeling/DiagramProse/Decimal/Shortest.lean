import DiagramProse.Decimal.Basic

/-!
The decimal with the fewest digits that reads back as a given double. A double stands for all numbers
nearer to it than to its neighbours; of the powers of ten of which a multiple lies in that interval
the largest is taken, and of two multiples the one nearer to the double. They differ from the double
alike only if it lies halfway between them; which one counts then is up to the format.
-/

namespace DiagramProse.Decimal

/-- Which of two equally near neighbours is taken. -/
inductive Tie where
  | up
  | even
deriving DecidableEq, Repr

/-- A positive double in quarters of its last place: it is `4 · mantissa` of them, and `unitUp` and
`unitDown` say that a quarter is `unitUp / unitDown`. -/
structure Quarters where
  mantissa : Nat
  unitUp : Nat
  unitDown : Nat
  /-- Whether the double below is half as far away as the double above. -/
  narrowBelow : Bool
deriving DecidableEq, Repr

namespace Quarters

/-- Takes the bits of a finite double apart, its sign aside. -/
def ofBits (bits : Nat) : Quarters :=
  let fraction := bits % Nat.pow 2 52
  let power := bits / Nat.pow 2 52 % Nat.pow 2 11
  let mantissa := if power = 0 then fraction else fraction + Nat.pow 2 52
  let e : Int := (if power = 0 then 1 else power : Nat) - 1077
  { mantissa
    unitUp := Nat.pow 2 e.toNat
    unitDown := Nat.pow 2 (-e).toNat
    narrowBelow := fraction = 0 && 1 < power }

/-- Whether `n / d` is read as the double. The ends of the interval count if the mantissa is even. -/
def contains (q : Quarters) (n d : Nat) : Bool :=
  let low := (4 * q.mantissa - if q.narrowBelow then 1 else 2) * q.unitUp * d
  let high := (4 * q.mantissa + 2) * q.unitUp * d
  let x := n * q.unitDown
  if q.mantissa % 2 = 0 then low ≤ x && x ≤ high else low < x && x < high

/-- The multiple of `n / d` to take, if there is one in the interval. -/
def multiple? (q : Quarters) (tie : Tie) (n d : Nat) : Option Nat :=
  let x := 4 * q.mantissa * q.unitUp * d
  let unit := n * q.unitDown
  let below := x / unit
  let rest := 2 * (x % unit)
  let nearAbove := unit < rest || (rest = unit && (tie = .up || below % 2 = 1))
  match q.contains (below * n) d, q.contains ((below + 1) * n) d with
  | true, true => some (if nearAbove then below + 1 else below)
  | true, false => some below
  | false, true => some (below + 1)
  | false, false => none

/-- Tries the powers of ten from `10 ^ exponent` downwards. -/
def shortest (q : Quarters) (tie : Tie) : (fuel : Nat) → (exponent : Int) → Nat × Int
  | 0, exponent => (0, exponent)
  | fuel + 1, exponent =>
    match q.multiple? tie (Nat.pow 10 exponent.toNat) (Nat.pow 10 (-exponent).toNat) with
    | some digits => (digits, exponent)
    | none => shortest q tie fuel (exponent - 1)

end Quarters

/-- The shortest decimal for a finite double. -/
def ofFloat (tie : Tie) (x : Float) : Decimal :=
  let bits := x.toBits.toNat
  let negative : Bool := Nat.pow 2 63 ≤ bits
  let q := Quarters.ofBits bits
  if q.mantissa = 0 then ⟨negative, 0, 0⟩
  else
    let whole := Nat.toDigits 10 (4 * q.mantissa * q.unitUp / q.unitDown) |>.length
    let (digits, exponent) := q.shortest tie (whole + 330) whole
    ⟨negative, digits, exponent⟩

end DiagramProse.Decimal
