/-!
The double nearest to a decimal. A quotient of naturals is rounded to 53 binary digits, or to the last
place that doubles have, with a tie going to the even neighbour; what is too large becomes infinity.
-/

namespace DiagramProse.Decimal

/-- The natural nearest to `n / d`, a tie going to the even one. -/
def roundHalfEven (n d : Nat) : Nat :=
  let q := n / d
  let rest := 2 * (n % d)
  if rest < d || (rest = d && q % 2 = 0) then q else q + 1

/-- The largest power of two, as an exponent, that `n / d` is not smaller than; for positive ones. -/
def floorLog2 (n d : Nat) : Int :=
  let guess : Int := (n.log2 : Int) - d.log2
  if d * Nat.pow 2 guess.toNat ≤ n * Nat.pow 2 (-guess).toNat then guess else guess - 1

/-- The bits of the double nearest to `n / d`. -/
def nearestBits (n d : Nat) : Nat :=
  if n = 0 then 0
  else
    let e := max (floorLog2 n d - 52) (-1074)
    let mantissa := roundHalfEven (n * Nat.pow 2 (-e).toNat) (d * Nat.pow 2 e.toNat)
    min ((e + 1074).toNat * Nat.pow 2 52 + mantissa) (0x7ff * Nat.pow 2 52)

/-- The first number that is rounded to infinity: half a last place above the largest double. -/
def infinityBound : Nat := Nat.pow 2 1024 - Nat.pow 2 970

/-- Whether `digits · 10 ^ power` is rounded to infinity. The bound has 309 digits, so it is looked at only
for a number with as many. -/
def isTooLarge (digits : Nat) (power : Int) : Bool :=
  let places := (Nat.toDigits 10 digits).length + power
  digits ≠ 0 && 309 ≤ places
    && (309 < places || infinityBound * Nat.pow 10 (-power).toNat ≤ digits * Nat.pow 10 power.toNat)

/-- The double nearest to `digits / 10 ^ places`, negated if asked for. -/
def toFloat (negative : Bool) (digits places : Nat) : Float :=
  Float.ofBits (UInt64.ofNat ((if negative then Nat.pow 2 63 else 0) + nearestBits digits (Nat.pow 10 places)))

end DiagramProse.Decimal
