import DiagramProse.Text.Word
import DiagramProse.Proofs.Text.Cuts

/-!
Letters and digits are neither blank nor punctuation, and those of the ASCII range are the usual ones.
-/

namespace DiagramProse.Text

/-- The code points of white space. -/
def blankCodes : List Nat := [
  9, 10, 11, 12, 13, 32, 0x85, 0xa0, 0x1680, 0x2000, 0x2001, 0x2002, 0x2003, 0x2004, 0x2005, 0x2006,
  0x2007, 0x2008, 0x2009, 0x200a, 0x2028, 0x2029, 0x202f, 0x205f, 0x3000]

theorem mem_blankCodes {c : Char} (h : isBlank c = true) : c.toNat ∈ blankCodes := by
  simp only [isBlank, Bool.or_eq_true, Bool.and_eq_true, decide_eq_true_eq, beq_iff_eq] at h
  simp only [blankCodes, List.mem_cons, List.not_mem_nil, or_false]
  omega

theorem not_blank_of_isAlphanumeric {c : Char} (h : isAlphanumeric c = true) : isBlank c = false := by
  have hcodes : ∀ n ∈ blankCodes, (inside false alphabeticRuns n || inside false numericRuns n) = false := by
    decide +kernel
  by_contra hb
  have := hcodes _ (mem_blankCodes (by simpa using hb))
  rw [isAlphanumeric, isAlphabetic, isNumeric, memRuns, memRuns, this] at h
  cases h

/-- Letters, digits and underscores. -/
def isNameChar (c : Char) : Bool := isAlphanumeric c || c == '_'

theorem not_blank_of_isNameChar {c : Char} (h : isNameChar c = true) : isBlank c = false := by
  simp only [isNameChar, Bool.or_eq_true, beq_iff_eq] at h
  rcases h with h | rfl
  exacts [not_blank_of_isAlphanumeric h, rfl]

/-! ## The ASCII range -/

/-- Letters, digits and underscores of the ASCII range. -/
def isAsciiNameChar (c : Char) : Bool := c.isAlphanum || c == '_'

theorem toNat_lt_of_isAsciiNameChar {c : Char} (h : isAsciiNameChar c = true) : c.toNat < 128 := by
  delta isAsciiNameChar Char.isAlphanum Char.isAlpha Char.isUpper Char.isLower Char.isDigit at h
  simp only [Bool.or_eq_true, Bool.and_eq_true, decide_eq_true_eq, beq_iff_eq, ge_iff_le,
    UInt32.le_iff_toNat_le] at h
  change c.val.toNat < 128
  rcases h with ((⟨-, h⟩ | ⟨-, h⟩) | ⟨-, h⟩) | rfl
  · exact Nat.lt_of_le_of_lt h (by decide)
  · exact Nat.lt_of_le_of_lt h (by decide)
  · exact Nat.lt_of_le_of_lt h (by decide)
  · decide

theorem isNameChar_of_isAsciiNameChar {c : Char} (h : isAsciiNameChar c = true) :
    isNameChar c = true ∧ isWordChar c = true := by
  have hall : ∀ n < 128, isAsciiNameChar (Char.ofNat n) = true →
      isNameChar (Char.ofNat n) = true ∧ isWordChar (Char.ofNat n) = true := by decide +kernel
  have := hall c.toNat (toNat_lt_of_isAsciiNameChar h)
  rw [Char.ofNat_toNat] at this
  exact this h

/-- A character in lower case is the same, or the small letter that stands 32 places behind a capital one. -/
theorem toLower_cases (c : Char) :
    c.toLower = c ∨ 65 ≤ c.toNat ∧ c.toNat ≤ 90 ∧ c.toLower.toNat = c.toNat + 32 := by
  unfold Char.toLower
  split
  · next h =>
    obtain ⟨hlow, hhigh⟩ := h
    have hlow : 65 ≤ c.toNat := hlow
    have hhigh : c.val.toNat ≤ 90 := hhigh
    refine .inr ⟨hlow, hhigh, ?_⟩
    change (c.val + 32).toNat = c.val.toNat + 32
    rw [UInt32.toNat_add]
    simp only [UInt32.reduceToNat]
    omega
  · exact .inl rfl

/-- What is not a letter is no other character's lower case. -/
theorem toLower_eq_iff {c d : Char} (hd : d.toNat < 65) : c.toLower = d ↔ c = d := by
  rcases toLower_cases c with h | ⟨hlow, -, hnat⟩
  · rw [h]
  · have hc : c ≠ d := by rintro rfl; omega
    have hlower : c.toLower ≠ d := by intro h; rw [h] at hnat; omega
    simp [hc, hlower]

theorem isBlank_toLower (c : Char) : isBlank c.toLower = isBlank c := by
  have letter {d : Char} (h : 65 ≤ d.toNat) (h' : d.toNat < 123) : isBlank d = false := by
    simp [isBlank]
    omega
  rcases toLower_cases c with h | ⟨hlow, hhigh, hnat⟩
  · rw [h]
  · rw [letter (by omega) (by omega), letter hlow (by omega)]

end DiagramProse.Text
