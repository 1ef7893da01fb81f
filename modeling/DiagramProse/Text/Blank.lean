import DiagramProse.Text.Basic

/-!
White space, in the sense of the Unicode property White_Space, and what is cut at it: `trim` and
`words`. Every character that core calls white space is blank (`isBlank_of_isWhitespace`).
-/

namespace DiagramProse.Text

/-- The Unicode property White_Space. -/
def isBlank (c : Char) : Bool :=
  let n := c.toNat
  (9 ≤ n && n ≤ 13) || n == 32 || n == 0x85 || n == 0xa0 || n == 0x1680 ||
    (0x2000 ≤ n && n ≤ 0x200a) || n == 0x2028 || n == 0x2029 || n == 0x202f || n == 0x205f ||
    n == 0x3000

theorem isBlank_of_isWhitespace {c : Char} (h : c.isWhitespace = true) : isBlank c = true := by
  simp only [Char.isWhitespace, Bool.or_eq_true, decide_eq_true_eq, or_assoc] at h
  rcases h with rfl | rfl | rfl | rfl <;> rfl

def trimStart (s : Text) : Text := s.dropWhile isBlank

def trimEnd (s : Text) : Text := s.dropEndWhile isBlank

def trim (s : Text) : Text := trimEnd (trimStart s)

/-- The text after at least one blank and all that follow it. -/
def afterBlanks? : Text → Option Text
  | [] => none
  | c :: s => if isBlank c then some (trimStart s) else none

/-- The non-empty pieces between blanks. -/
def words (s : Text) : List Text := (s.splitBy isBlank).filter fun w => !w.isEmpty

/-- Words with one space between them. -/
def squeeze (s : Text) : Text := join [' '] s.words

def allBlank (s : Text) : Bool := s.all isBlank

end DiagramProse.Text
