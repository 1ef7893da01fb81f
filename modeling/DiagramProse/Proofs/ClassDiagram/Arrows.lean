import DiagramProse.Proofs.ClassDiagram.Relations

/-!
The arrows of class diagrams from two sides. Between two words an arrow needs no spaces around it
(`Relation.read?_closeUp`), with one exception: two dashes and an `o` that begins the second word are another
arrow. And every arrow that points somewhere has a mirror image, with which the same relation is written from the
other side (`Relation.read?_mirror`).
-/

namespace DiagramProse

open Text

/-! ## Arrows without spaces around them -/

/-- Two letters or digits, or more. -/
structure LongWord (s : Text) : Prop where
  length : 2 ≤ s.length
  chars : ∀ c ∈ s, isAlphanumeric c = true

variable {left right token : Text} {sense : ArrowSense}

theorem isPlainName_of_isAlphanumeric {s : Text} (hne : s ≠ []) (h : ∀ c ∈ s, isAlphanumeric c = true) :
    isPlainName s = true := by
  have hchars : ∀ c ∈ s, isNameChar c = true := fun c hc => by simp [isNameChar, h c hc]
  simpa [isPlainName, hne] using hchars

theorem LongWord.isPlainName {s : Text} (h : LongWord s) : isPlainName s = true := by
  refine isPlainName_of_isAlphanumeric ?_ h.chars
  rintro rfl
  exact absurd h.length (by decide)

theorem classArrows_ne_nil : ∀ e ∈ classArrows, e.1 ≠ [] := by decide

/-- No arrow begins in a word of two or more letters. The one that begins with a letter goes on with a dash, so it
could begin only at the last letter, and there another one stands in front of it. -/
theorem passes_longWord (h : LongWord left) (rest : Text) :
    Arrow.Passes classArrows (fun _ _ => true) left rest := by
  obtain ⟨front, c, d, rfl⟩ : ∃ front c d, left = front ++ [c] ++ [d] := by
    have hlength := h.length
    rcases List.eq_nil_or_concat left with rfl | ⟨init, d, rfl⟩
    · simp at hlength
    · rcases List.eq_nil_or_concat init with rfl | ⟨front, c, rfl⟩
      · simp at hlength
      · exact ⟨front, c, d, by simp⟩
  have hc := h.chars c (by simp)
  have hd := h.chars d (by simp)
  have hq : d ≠ '"' := by
    rintro rfl
    exact absurd hd (by decide)
  have hinit : ∀ b ∈ front ++ [c], isNameChar b = true := fun b hb => by
    simp [isNameChar, h.chars b (List.mem_append_left _ hb)]
  have hnext : isNameChar d = true := by simp [isNameChar, hd]
  intro before
  have hpasses := passes_name hinit (.inl hnext) rest before
  rw [List.append_assoc, List.singleton_append, hpasses,
    Arrow.search_skip hq _ fun e he => Arrow.not_admits_within (by simp [hc]) hd (classArrows_ne_nil e he)]
  simp

/-- The characters of arrows, less the letter. -/
def arrowMarks : List Char := ['-', '.', '|', '<', '>', '*']

theorem mem_arrowMarks : ∀ e ∈ classArrows, ∀ c ∈ e.1, c.isAlpha = false → c ∈ arrowMarks := by decide

theorem arrowMarks_apart : ∀ c ∈ arrowMarks,
    isAlphanumeric c = false ∧ c ≠ '"' ∧ c.isLower = false ∧ c ≠ '[' := by decide

theorem isSign_of_arrowMarks (hne : token ≠ []) (ht : ∀ c ∈ token, c ∈ arrowMarks) :
    Arrow.isSign token = true := by
  cases token with
  | nil => exact absurd rfl hne
  | cons c t =>
    obtain ⟨hc, hquote, -⟩ := arrowMarks_apart c (ht c List.mem_cons_self)
    simp [Arrow.isSign, hc, hquote]

/-- Another arrow goes on with a mark where an arrow ends, except for one that goes on with a letter. -/
theorem classArrows_next_mark : ∀ e ∈ classArrows, ∀ x ∈ classArrows, e.1 <+: x.1 →
    x = e ∨ (x.1.drop e.1.length).head?.any (· ∈ arrowMarks) = true ∨ e.1 = "--" ∧ x.1 = "--o" := by
  decide +kernel

/-- Between words an arrow is found if it begins with a sign, except for two dashes in front of an `o`. -/
theorem find?_closeUp {c : Char} (h : (token, sense) ∈ classArrows) (hsign : Arrow.isSign token = true)
    (hl : LongWord left) (hc : isAlphanumeric c = true) (ho : ¬ (token = "--" ∧ c = 'o')) (rest : Text) :
    Arrow.find? (left ++ (token ++ c :: rest)) classArrows = some ⟨trim left, trim (c :: rest), token, sense⟩ := by
  refine Arrow.findWhere?_sign (e := (token, sense)) (passes_longWord hl _) h hsign rfl fun x hx =>
    Arrow.shorter_of_next fun hprefix => ?_
  rcases classArrows_next_mark _ h x hx hprefix with rfl | hmark | ⟨htoken, hx⟩
  · exact .inl rfl
  · obtain ⟨d, hd, hd'⟩ := (Option.any_eq_true _ _).1 hmark
    have hne : d ≠ c := by
      rintro rfl
      rw [(arrowMarks_apart d (by simpa using hd')).1] at hc
      cases hc
    exact .inr ((Option.any_eq_true _ _).2 ⟨d, hd, by simpa using hne⟩)
  · have hne : c ≠ 'o' := fun hco => ho ⟨htoken, hco⟩
    right
    dsimp only at htoken
    simp [htoken, hx, hne.symm]

/-- There are no hints in an arrow with words on both sides, if it has no letters itself. -/
theorem withoutHints_closeUp (hl : LongWord left) (ht : ∀ c ∈ token, c ∈ arrowMarks)
    (hr : ∀ c ∈ right, isAlphanumeric c = true) :
    Arrow.withoutHints (left ++ (token ++ right)) = left ++ (token ++ right) := by
  have hleft : Hintless left := hintless_name hl.isPlainName
  have hshaft : ∀ c ∈ right, Arrow.isShaft c = false := by
    intro c hc
    have hdash : c ≠ '-' := ne_of_apply_ne isAlphanumeric (by rw [hr c hc]; decide)
    have hdot : c ≠ '.' := ne_of_apply_ne isAlphanumeric (by rw [hr c hc]; decide)
    simp [Arrow.isShaft, hdash, hdot]
  have hrest := (Arrow.withoutHints_loses (token ++ right)).eq_self
    (Arrow.not_holdsHint_append (fun c hc => (arrowMarks_apart c (ht c hc)).2.2) hshaft)
  rw [Arrow.withoutHints] at hrest ⊢
  rw [hleft, hrest]

/-- A relation without label and multiplicities. -/
def Relation.plain (left right : Text) (sense : ArrowSense) : Relation :=
  Relation.between ⟨left, none, none⟩ ⟨right, none, none⟩ none sense

theorem Relation.read?_plain (hl : isPlainName left = true) (hr : isPlainName right = true) {line : Text}
    (hhints : Arrow.withoutHints line = line)
    (hfind : Arrow.find? line classArrows = some ⟨trim left, trim right, token, sense⟩) :
    Relation.read? line = some (Relation.plain left right sense) := by
  have hleft : ReadableEnd left none := ⟨hl, by simp⟩
  have hright : ReadableEnd right none := ⟨hr, by simp⟩
  have hends : Arrow.find? (Arrow.withoutHints line) classArrows =
      some ⟨leftEnd left none, trim (withColon (rightEnd none right) none), token, sense⟩ := by
    have htrim : trim left = left := trim_eq_self (leftEnd_tight hleft)
    rw [hhints, hfind, htrim]
    rfl
  exact Relation.read?_of_find? hleft hright hends

/-- Between two words an arrow without letters reads the same with spaces around it and without them, except that
two dashes take an `o` that follows them away from the second word. -/
theorem Relation.read?_closeUp (h : (token, sense) ∈ classArrows) (hletters : ∀ c ∈ token, c.isAlpha = false)
    (hl : LongWord left) (hr : LongWord right) :
    Relation.read? (left ++ " " ++ token ++ " " ++ right) = some (Relation.plain left right sense) ∧
      Relation.read? (left ++ token ++ right) =
        if token = "--" ∧ right.head? = some 'o' then some (Relation.plain left right.tail ⟨.aggregation, true⟩)
        else some (Relation.plain left right sense) := by
  have hleft := hl.isPlainName
  have hright := hr.isPlainName
  have hmarks : ∀ c ∈ token, c ∈ arrowMarks := fun c hc => mem_arrowMarks _ h c hc (hletters c hc)
  have hsign := isSign_of_arrowMarks (classArrows_ne_nil _ h) hmarks
  obtain ⟨c, d, s, rfl⟩ : ∃ c d s, right = c :: d :: s := by
    have hlength := hr.length
    rcases right with _ | ⟨c, _ | ⟨d, s⟩⟩
    · simp at hlength
    · simp at hlength
    · exact ⟨c, d, s, rfl⟩
  have htail : isPlainName (d :: s) = true :=
    isPlainName_of_isAlphanumeric (List.cons_ne_nil d s) fun b hb => hr.chars b (List.mem_cons_of_mem c hb)
  constructor
  · have hline : left ++ " " ++ token ++ " " ++ c :: d :: s =
        relationText left none token none (c :: d :: s) none := by
      simp [relationText, leftEnd, rightEnd, withColon]
    rw [hline, Relation.read?_relationText h ⟨hleft, by simp⟩ ⟨hright, by simp⟩]
    rfl
  · have hhints := withoutHints_closeUp hl hmarks hr.chars
    rw [List.append_assoc]
    split
    · next ho =>
      obtain ⟨rfl, hco⟩ := ho
      obtain rfl : c = 'o' := by simpa using hco
      have hline : left ++ ("--" ++ 'o' :: d :: s) = left ++ ("--o" ++ d :: s) := rfl
      have hfind := find?_closeUp (by decide : (("--o" : Text), (⟨.aggregation, true⟩ : ArrowSense)) ∈ classArrows)
        (by decide) hl (hr.chars d (by simp)) (fun hd => absurd hd.1 (by decide)) s
      exact Relation.read?_plain hleft htail hhints (hline ▸ hfind)
    · next ho =>
      have hfind := find?_closeUp h hsign hl (hr.chars c (by simp)) (by simpa using ho) (d :: s)
      exact Relation.read?_plain hleft hright hhints hfind

/-- The word in front of the dashes keeps the `o` that it ends with. -/
theorem Relation.read?_closeUp_zoo :
    Relation.read? "Zoo--Bar" = some ⟨"Zoo", "Bar", .association, none, none, none, false⟩ :=
  (Relation.read?_closeUp (by decide : (("--" : Text), (⟨.association, false⟩ : ArrowSense)) ∈ classArrows) (by decide)
    (⟨by decide, by decide⟩ : LongWord "Zoo") (⟨by decide, by decide⟩ : LongWord "Bar")).2

/-- The word behind the dashes does not keep the `o` that it begins with. -/
theorem Relation.read?_closeUp_order :
    Relation.read? "Foo--order" = some ⟨"rder", "Foo", .aggregation, none, none, none, true⟩ ∧
      Relation.read? "Foo -- order" = some ⟨"Foo", "order", .association, none, none, none, false⟩ := by
  decide +kernel

/-! ## Arrows from the other side -/

/-- What a character looks like from the other side. -/
def mirrorChar (c : Char) : Char := if c = '<' then '>' else if c = '>' then '<' else c

/-- What an arrow looks like from the other side. -/
def Arrow.mirror (arrow : Text) : Text := (arrow.map mirrorChar).reverse

/-- The mirror image of an arrow that is not its own says the same, with the ends exchanged. -/
theorem mirror_mem_classArrows : ∀ e ∈ classArrows, Arrow.mirror e.1 ≠ e.1 →
    (Arrow.mirror e.1, (⟨e.2.kind, !e.2.reverse⟩ : ArrowSense)) ∈ classArrows := by
  decide

example : (classArrows.filter fun e => Arrow.mirror e.1 = e.1).map Prod.fst = ["<-->", "--", ".."] := by decide

theorem Relation.between_swap (left right : RelationEnd) (label : Option Text) (sense : ArrowSense) :
    let r := Relation.between left right label sense
    Relation.between right left label ⟨sense.kind, !sense.reverse⟩ = { r with reverse := !r.reverse } := by
  rcases sense with ⟨kind, _ | _⟩ <;> rfl

/-- A relation is read the same from the other side, with the mirror image of its arrow, except that it says so. -/
theorem Relation.read?_mirror {lm rm : Option Text} (h : (token, sense) ∈ classArrows)
    (hmirror : Arrow.mirror token ≠ token) (hl : ReadableEnd left lm) (hr : ReadableEnd right rm)
    (label : Option Text) :
    let r := Relation.between ⟨left, lm.map trim, none⟩ ⟨right, rm.map trim, none⟩ (readLabel label) sense
    Relation.read? (relationText left lm token rm right label) = some r ∧
      Relation.read? (relationText right rm (Arrow.mirror token) lm left label) =
        some { r with reverse := !r.reverse } := by
  have hturned := mirror_mem_classArrows _ h hmirror
  refine ⟨Relation.read?_relationText h hl hr label, ?_⟩
  rw [Relation.read?_relationText hturned hr hl label, Relation.between_swap]

/-- A whole and its part from both sides, with a multiplicity of each. -/
theorem Relation.read?_mirror_whole :
    Relation.read? "Car \"1\" *-- \"1..*\" Wheel : owns >" =
        some ⟨"Car", "Wheel", .composition, some "owns", some "1", some "1..*", false⟩ ∧
      Relation.read? "Wheel \"1..*\" --* \"1\" Car : owns >" =
        some ⟨"Car", "Wheel", .composition, some "owns", some "1", some "1..*", true⟩ :=
  Relation.read?_mirror (by decide : (("*--" : Text), (⟨.composition, false⟩ : ArrowSense)) ∈ classArrows) (by decide)
    (⟨by decide, by decide⟩ : ReadableEnd "Car" (some "1"))
    (⟨by decide, by decide⟩ : ReadableEnd "Wheel" (some "1..*")) (some "owns >")

end DiagramProse
