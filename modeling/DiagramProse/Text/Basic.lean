/-!
Text as a list of characters, and the handful of operations that the diagram readers are built from:
affixes, leftmost and rightmost cuts, splitting, replacement and joining. All of them recurse on the
text itself. `cut?_eq_some` and `join_splitBy` say that cutting and splitting lose nothing but the
separators, `dropPrefix?_eq_some_iff` that a dropped prefix was there.
-/

namespace DiagramProse

/-- A text is its characters, in order. -/
abbrev Text := List Char

/-- A string literal stands for its characters. -/
instance : Coe String Text := ⟨String.toList⟩

namespace Text

/-! ## Affixes -/

def startsWith (s p : Text) : Bool := p.isPrefixOf s

def endsWith (s p : Text) : Bool := p.isSuffixOf s

/-- The text after the prefix `p`, if it starts with `p`. -/
def dropPrefix? : Text → Text → Option Text
  | s, [] => some s
  | [], _ :: _ => none
  | c :: s, d :: p => if c = d then dropPrefix? s p else none

/-- The text before the suffix `p`, if it ends with `p`. -/
def dropSuffix? (s p : Text) : Option Text := (dropPrefix? s.reverse p.reverse).map List.reverse

/-- Whether any of the texts in `ps` is a prefix. -/
def startsWithAny (s : Text) (ps : List Text) : Bool := ps.any (startsWith s)

theorem dropPrefix?_eq_some_iff {s p r : Text} : dropPrefix? s p = some r ↔ s = p ++ r := by
  fun_induction dropPrefix? s p with
  | case1 s => simp
  | case2 => simp
  | case3 s c p ih => simpa using ih
  | case4 c s d p h => simp [h]

theorem dropPrefix?_append (p r : Text) : dropPrefix? (p ++ r) p = some r :=
  dropPrefix?_eq_some_iff.2 rfl

/-! ## Cuts -/

/-- The text before and after the leftmost occurrence of `p`. -/
def cut? (p : Text) : Text → Option (Text × Text)
  | [] => if p.isEmpty then some ([], []) else none
  | c :: s =>
    match dropPrefix? (c :: s) p with
    | some r => some ([], r)
    | none => (cut? p s).map fun (a, b) => (c :: a, b)

theorem cut?_eq_some {p s a b : Text} (h : cut? p s = some (a, b)) : s = a ++ p ++ b := by
  induction s generalizing a b with
  | nil =>
    unfold cut? at h
    split at h
    · simp_all
    · cases h
  | cons c s ih =>
    unfold cut? at h
    split at h
    · next r hr => simp_all [dropPrefix?_eq_some_iff]
    · obtain ⟨⟨u, v⟩, huv, he⟩ := Option.map_eq_some_iff.1 h
      cases he
      simp [ih huv]

/-- The text before and after the rightmost occurrence of `p`. -/
def cutLast? (p s : Text) : Option (Text × Text) :=
  (cut? p.reverse s.reverse).map fun (a, b) => (b.reverse, a.reverse)

/-- Whether `p` occurs in the text. -/
def contains (s p : Text) : Bool := (cut? p s).isSome

/-- The text before and after the first character with property `f`; that character is dropped. -/
def cutAt? (f : Char → Bool) : Text → Option (Text × Text)
  | [] => none
  | c :: s => if f c then some ([], s) else (cutAt? f s).map fun (a, b) => (c :: a, b)

/-- The text before and after the last character with property `f`; that character is dropped. -/
def cutAtLast? (f : Char → Bool) (s : Text) : Option (Text × Text) :=
  (cutAt? f s.reverse).map fun (a, b) => (b.reverse, a.reverse)

/-- The longest end whose characters all have property `f` is taken away. -/
def dropEndWhile (f : Char → Bool) (s : Text) : Text := (s.reverse.dropWhile f).reverse

/-- All that can be taken away from the end in copies of `p`. -/
def dropEndRepeated (p : Text) (s : Text) : Text :=
  let rec go : Nat → Text → Text
    | 0, r => r
    | n + 1, r =>
      match dropPrefix? r p.reverse with
      | some r' => go n r'
      | none => r
  if p.isEmpty then s else (go s.length s.reverse).reverse

/-! ## Splitting, replacing, joining -/

/-- The pieces between the characters with property `f`: one more than there are such characters. -/
def splitBy (f : Char → Bool) : Text → List Text
  | [] => [[]]
  | c :: s =>
    if f c then [] :: splitBy f s
    else
      match splitBy f s with
      | [] => [[c]]
      | w :: ws => (c :: w) :: ws

/-- Each occurrence of the non-empty text `p`, found from left to right, becomes `r`. -/
def replace (p r : Text) (s : Text) : Text :=
  let rec go : Nat → Text → Text
    | _, [] => []
    | skip + 1, _ :: s => go skip s
    | 0, c :: s => if p.isPrefixOf (c :: s) then r ++ go (p.length - 1) s else c :: go 0 s
  go 0 s

/-- The pieces between the occurrences of the non-empty text `p`, found from left to right. -/
def splitOn (p : Text) (s : Text) : List Text :=
  let rec go : Nat → Text → List Text
    | _, [] => [[]]
    | skip + 1, _ :: s => go skip s
    | 0, c :: s =>
      if p.isPrefixOf (c :: s) then [] :: go (p.length - 1) s
      else
        match go 0 s with
        | [] => [[c]]
        | w :: ws => (c :: w) :: ws
  go 0 s

/-- An optional text, absent if empty. -/
def nonempty? (s : Text) : Option Text := if s.isEmpty then none else some s

def join (sep : Text) (parts : List Text) : Text := sep.intercalate parts

theorem splitBy_ne_nil (f : Char → Bool) (s : Text) : splitBy f s ≠ [] := by
  cases s with
  | nil => simp [splitBy]
  | cons c s =>
    unfold splitBy
    split
    · simp
    · split <;> simp

theorem join_splitBy (c : Char) (s : Text) : join [c] (splitBy (· == c) s) = s := by
  induction s with
  | nil => rfl
  | cons d s ih =>
    unfold splitBy
    split
    · next h =>
      obtain rfl : d = c := by simpa using h
      cases hs : splitBy (· == d) s with
      | nil => exact absurd hs (splitBy_ne_nil _ _)
      | cons w ws => simpa [join, List.intercalate, hs] using ih
    · split
      · next h => exact absurd h (splitBy_ne_nil _ _)
      · next w ws hs =>
        rw [hs] at ih
        cases ws <;> simpa [join, List.intercalate] using ih

/-- The number of bytes in the UTF-8 form of the text. -/
def utf8Size (s : Text) : Nat := (s.map Char.utf8Size).foldr (· + ·) 0

/-- Lower case for the letters A to Z; all else stays. -/
def lowerAscii (s : Text) : Text := s.map Char.toLower

/-- Whether two texts are equal up to the case of the letters A to Z. -/
def equalIgnoreAsciiCase (s t : Text) : Bool := s.lowerAscii == t.lowerAscii

end Text

end DiagramProse
