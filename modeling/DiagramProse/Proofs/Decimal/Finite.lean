import DiagramProse.Decimal.Nearest
import Mathlib

/-!
Doubles that are finite and not negative. They are those with bits below the bits of infinity (`isFinite_ofBits`,
`zero_le_ofBits`), and the double nearest to a quotient below `2 ^ 50` is one of them (`nearestBits_lt`). So is that of
a numeral with up to fifteen digits before its point, whatever stands behind the point (`toFloat_ofDigitChars`).
-/

namespace DiagramProse.Decimal

open Float.Model UnpackedFloat

/-! ## Bits -/

/-- The bits of infinity. -/
def infinityBits : Nat := 0x7ff * 2 ^ 52

section Bits

variable {b : UInt64}

theorem unpackExponent_ne (h : b.toNat < infinityBits) :
    @unpackExponent Format.binary64 b.toBitVec ≠ -1#11 := by
  intro hones
  have hexponent : (b.toNat >>> 52) % 2 ^ 11 = 2 ^ 11 - 1 := congrArg BitVec.toNat hones
  rw [Nat.shiftRight_eq_div_pow] at hexponent
  unfold infinityBits at h
  omega

theorem unpackSign_eq (h : b.toNat < infinityBits) :
    Sign.ofBitVec (@unpackSign Format.binary64 b.toBitVec) = .positive := by
  have hsign : @unpackSign Format.binary64 b.toBitVec = 0#1 := by
    apply BitVec.eq_of_toNat_eq
    change (b.toNat >>> 63) % 2 ^ 1 = 0
    rw [Nat.shiftRight_eq_div_pow]
    unfold infinityBits at h
    omega
  rw [Sign.ofBitVec, if_pos hsign]

/-- Such bits stand for a finite number that is not negative. -/
theorem unpack_finite (h : b.toNat < infinityBits) :
    (UnpackedFloat.unpack Format.binary64 b.toBitVec).isFinite = true ∧
      UnpackedFloat.le (.zero .positive) (UnpackedFloat.unpack Format.binary64 b.toBitVec) = true := by
  rw [UnpackedFloat.unpack]
  dsimp only
  rw [if_neg (unpackExponent_ne h), unpackSign_eq h]
  split_ifs <;> exact ⟨rfl, rfl⟩

/-- Only the bits of what is not a number are not kept. -/
theorem unpack_ofBits (h : b.toNat < infinityBits) :
    (Float.ofBits b).toModel.unpack = UnpackedFloat.unpack Format.binary64 b.toBitVec := by
  have hpack := @pack_unpack Format.binary64 b.toBitVec (by decide)
  rw [isNaNBits, decide_eq_false (fun hnan => unpackExponent_ne h hnan.1), if_neg Bool.false_ne_true] at hpack
  exact congrArg (UnpackedFloat.unpack Format.binary64) hpack

theorem isFinite_ofBits (h : b.toNat < infinityBits) : (Float.ofBits b).isFinite = true :=
  (congrArg UnpackedFloat.isFinite (unpack_ofBits h)).trans (unpack_finite h).1

theorem zero_le_ofBits (h : b.toNat < infinityBits) : 0 ≤ Float.ofBits b := by
  have hle : UnpackedFloat.le (0 : Float).toModel.unpack (Float.ofBits b).toModel.unpack = true := by
    rw [unpack_ofBits h]
    exact (unpack_finite h).2
  exact decide_eq_true (p := (0 : Float).toModel ≤ (Float.ofBits b).toModel) hle

end Bits

/-! ## The nearest double -/

theorem roundHalfEven_le (n d : Nat) : roundHalfEven n d ≤ n / d + 1 := by
  unfold roundHalfEven
  dsimp only
  split <;> omega

theorem floorLog2_bounds (n d : Nat) :
    (n.log2 : Int) - d.log2 - 1 ≤ floorLog2 n d ∧ floorLog2 n d ≤ (n.log2 : Int) - d.log2 := by
  unfold floorLog2
  dsimp only
  split <;> omega

theorem log2_le_of_lt {n d k : Nat} (hn : n ≠ 0) (h : n < 2 ^ k * d) : n.log2 ≤ d.log2 + k := by
  have hlt : n < 2 ^ (d.log2 + k + 1) := by
    calc n < 2 ^ k * d := h
      _ < 2 ^ k * 2 ^ (d.log2 + 1) := Nat.mul_lt_mul_of_pos_left Nat.lt_log2_self (Nat.two_pow_pos k)
      _ = 2 ^ (d.log2 + k + 1) := by rw [← Nat.pow_add]; congr 1; omega
  exact Nat.lt_succ_iff.1 ((Nat.log2_lt hn).2 hlt)

theorem quotient_lt {n d s k : Nat} (hd : 0 < d) (h : n.log2 + 1 + s ≤ k + d.log2) : n * 2 ^ s / d < 2 ^ k := by
  rw [Nat.div_lt_iff_lt_mul hd]
  calc n * 2 ^ s < 2 ^ (n.log2 + 1) * 2 ^ s := Nat.mul_lt_mul_of_pos_right Nat.lt_log2_self (Nat.two_pow_pos s)
    _ = 2 ^ (n.log2 + 1 + s) := (Nat.pow_add ..).symm
    _ ≤ 2 ^ (k + d.log2) := Nat.pow_le_pow_right (by decide) h
    _ = 2 ^ k * 2 ^ d.log2 := Nat.pow_add ..
    _ ≤ 2 ^ k * d := Nat.mul_le_mul_left _ (Nat.log2_self_le hd.ne')

/-- A quotient below `2 ^ 50` is rounded to a finite double. -/
theorem nearestBits_lt {n d : Nat} (hd : 0 < d) (h : n < 2 ^ 50 * d) : nearestBits n d < infinityBits := by
  unfold nearestBits
  split
  · decide
  · next hn =>
    obtain ⟨hlow, hhigh⟩ := floorLog2_bounds n d
    have hlogs := log2_le_of_lt hn h
    generalize floorLog2 n d = f at hlow hhigh
    generalize he : max (f - 52) (-1074) = e
    -- the last place lies behind the point, so only the numerator is shifted
    have hpower : e.toNat = 0 := by omega
    have hmantissa : roundHalfEven (n * Nat.pow 2 (-e).toNat) (d * Nat.pow 2 e.toNat) ≤ 2 ^ 54 := by
      refine (roundHalfEven_le _ _).trans ?_
      rw [hpower, Nat.pow_eq, Nat.pow_eq, Nat.pow_zero, Nat.mul_one]
      exact quotient_lt hd (by omega)
    have hplace : (e + 1074).toNat * 2 ^ 52 ≤ 1074 * 2 ^ 52 := Nat.mul_le_mul_right _ (by omega)
    refine lt_of_le_of_lt (min_le_left _ _) ?_
    rw [infinityBits, Nat.pow_eq]
    omega

/-! ## Numerals -/

theorem ofDigitChars_lt {s : List Char} (h : s.all Char.isDigit = true) : Nat.ofDigitChars 10 s 0 < 10 ^ s.length := by
  induction s with
  | nil => decide
  | cons c s ih =>
    rw [List.all_cons, Bool.and_eq_true] at h
    have hdigit : c.toNat - '0'.toNat ≤ 9 := Nat.sub_le_iff_le_add.2 (Char.isDigit_iff_toNat.1 h.1).2
    rw [Nat.ofDigitChars_cons, Nat.ofDigitChars_eq_ofDigitChars_zero, List.length_cons, Nat.mul_zero, Nat.zero_add]
    calc 10 ^ s.length * (c.toNat - '0'.toNat) + Nat.ofDigitChars 10 s 0
        < 10 ^ s.length * 9 + 10 ^ s.length := Nat.add_lt_add_of_le_of_lt (Nat.mul_le_mul_left _ hdigit) (ih h.2)
      _ = 10 ^ (s.length + 1) := by rw [Nat.pow_succ]; omega

theorem toFloat_finite {digits places : Nat} (h : digits < 2 ^ 50 * 10 ^ places) :
    0 ≤ toFloat false digits places ∧ (toFloat false digits places).isFinite = true := by
  have hbits := nearestBits_lt (Nat.pow_pos (by decide)) h
  have hword : (UInt64.ofNat (0 + nearestBits digits (Nat.pow 10 places))).toNat < infinityBits := by
    rw [Nat.zero_add, UInt64.toNat_ofNat']
    exact lt_of_le_of_lt (Nat.mod_le _ _) hbits
  exact ⟨zero_le_ofBits hword, isFinite_ofBits hword⟩

/-- A numeral with up to fifteen digits before its point is a finite number that is not negative. -/
theorem toFloat_ofDigitChars {whole fraction : List Char} (h : (whole ++ fraction).all Char.isDigit = true)
    (hshort : whole.length ≤ 15) :
    0 ≤ toFloat false (Nat.ofDigitChars 10 (whole ++ fraction) 0) fraction.length ∧
      (toFloat false (Nat.ofDigitChars 10 (whole ++ fraction) 0) fraction.length).isFinite = true := by
  refine toFloat_finite ((ofDigitChars_lt h).trans_le ?_)
  calc 10 ^ (whole ++ fraction).length = 10 ^ whole.length * 10 ^ fraction.length := by
        rw [List.length_append, Nat.pow_add]
    _ ≤ 10 ^ 15 * 10 ^ fraction.length := Nat.mul_le_mul_right _ (Nat.pow_le_pow_right (by decide) hshort)
    _ ≤ 2 ^ 50 * 10 ^ fraction.length := Nat.mul_le_mul_right _ (by decide)

end DiagramProse.Decimal
