/-!
Sets of characters written as the increasing list of code points at which membership changes: the
first one is in the set, the second one is the first that is out again, and so on.
-/

namespace DiagramProse.Text

/-- Whether `n` is in the set with the given changes, `inside` telling whether the code points before
the first change are. -/
def inside (inside₀ : Bool) : List Nat → Nat → Bool
  | [], _ => inside₀
  | b :: bs, n => if n < b then inside₀ else inside (!inside₀) bs n

def memRuns (bounds : List Nat) (c : Char) : Bool := inside false bounds c.toNat

end DiagramProse.Text
