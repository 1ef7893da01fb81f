import DiagramProse.Proofs.Arrow.Hints
import DiagramProse.Proofs.Arrow.Search
import DiagramProse.Proofs.ClassDiagram.Members
import Mathlib.Data.Option.Basic

/-!
Relations are read back from their lines (`Relation.read?_line`), with whichever arrow they are written.
The line goes through four readers. One takes hints out of arrows, and of what it does not copy
(`Hintless`) there is nothing in front of the label (`Relation.read?_relationText`); one looks for the arrow from
the left; one cuts the label off at a colon, up to which it copies as well (`Colonless`); and one takes the
two ends apart.
-/

namespace DiagramProse

open Text

/-! ## Multiplicities -/

/-- The characters that have a meaning around a multiplicity. -/
def relationMarks : List Char := ['-', '.', '"']

theorem not_mem_of_isMultiplicityBound {s : Text} (h : isMultiplicityBound s = true) :
    ∀ d ∈ relationMarks, d ∉ s := by
  simp only [isMultiplicityBound, Bool.and_eq_true, Bool.or_eq_true, beq_iff_eq] at h
  rcases h.2 with ((rfl | rfl) | rfl) | hdigit
  · decide
  · decide
  · decide
  · have hmarks : ∀ d ∈ relationMarks, d.isDigit = false := by decide
    exact fun d hd => not_mem_of_all hdigit (hmarks d hd)

theorem not_blank_of_mem_relationMarks : ∀ d ∈ relationMarks, isBlank d = false := by decide

/-- Trimmed, a multiplicity has no marks, or two dots in one place. -/
theorem multiplicity_cases {s : Text} (h : isMultiplicity s = true) :
    (∀ d ∈ relationMarks, d ∉ trim s) ∨ ∃ low high, trim s = low ++ ".." ++ high ∧
      (∀ d ∈ relationMarks, d ∉ low) ∧ ∀ d ∈ relationMarks, d ∉ high := by
  have hblank := not_blank_of_mem_relationMarks
  unfold isMultiplicity at h
  generalize trim s = t at h ⊢
  dsimp only at h
  split at h
  · cases h
  · split at h
    · next hmany =>
      left
      have hmarks : ∀ d ∈ relationMarks, d.toLower ∉ lowerAscii "many" := by decide
      intro d hd hm
      refine hmarks d hd ?_
      rw [equalIgnoreAsciiCase, beq_iff_eq] at hmany
      rw [← hmany]
      exact List.mem_map_of_mem hm
    · split at h
      · next low high hcut =>
        rw [Bool.and_eq_true] at h
        have hl := not_mem_of_isMultiplicityBound h.1
        have hr := not_mem_of_isMultiplicityBound h.2
        refine Or.inr ⟨low, high, cut?_eq_some hcut, fun d hd hm => ?_, fun d hd hm => ?_⟩
        · exact hl d hd (mem_trim_of_not_blank hm (hblank d hd))
        · exact hr d hd (mem_trim_of_not_blank hm (hblank d hd))
      · exact Or.inl (not_mem_of_isMultiplicityBound h)

theorem quote_not_mem_of_isMultiplicity {s : Text} (h : isMultiplicity s = true) : '"' ∉ s := by
  intro hm
  have ht : '"' ∈ trim s := mem_trim_of_not_blank hm (by decide)
  rcases multiplicity_cases h with hs | ⟨low, high, hs, hl, hr⟩
  · exact hs _ (by decide) ht
  · have hl := hl '"' (by decide)
    have hr := hr '"' (by decide)
    simp [hs, hl, hr] at ht

theorem isMultiplicity_trim (s : Text) : isMultiplicity (trim s) = isMultiplicity s := by
  rw [isMultiplicity, trim_eq_self (tight_trim s)]
  rfl

/-! ## Hints in arrows -/

theorem hintless_of_isMultiplicity {s : Text} (h : isMultiplicity s = true) : Hintless s := by
  have plain : ∀ {t : Text}, (∀ d ∈ relationMarks, d ∉ t) → Hintless t := fun hm =>
    hintless_of_not_mem (hm '-' (by decide)) (hm '.' (by decide))
  have hblanks : ∀ {t : Text}, (∀ c ∈ t, isBlank c = true) → Hintless t := fun ht =>
    plain fun d hd hm => absurd (ht d hm) (by simp [not_blank_of_mem_relationMarks d hd])
  have hdots : Hintless ".." := fun rest => by
    simp [Arrow.dropHints, Arrow.isShaft, Arrow.hint?, Arrow.afterStyle?]
  have htrim : Hintless (trim s) := by
    rcases multiplicity_cases h with hs | ⟨low, high, hs, hl, hr⟩
    · exact plain hs
    · exact hs ▸ ((plain hl).append hdots).append (plain hr)
  obtain ⟨before, after, hs, hbefore, hafter⟩ := exists_trim s
  exact hs ▸ ((hblanks hbefore).append htrim).append (hblanks hafter)

/-- Arrows have no hints. -/
theorem hintless_arrow : ∀ e ∈ classArrows, Hintless (e.1 ++ [' ']) := by
  simp only [classArrows, List.forall_mem_cons, List.not_mem_nil, false_implies, implies_true, and_true]
  and_intros
  all_goals
    intro rest
    simp [Arrow.dropHints, Arrow.isShaft, Arrow.hint?, Arrow.afterStyle?, Arrow.directionWords]

/-! ## The search for an arrow -/

/-- No arrow begins within a word, not even the one that begins with a letter. -/
theorem passes_name {w : Text} {next : Char} (h : ∀ c ∈ w, isNameChar c = true)
    (hnext : isNameChar next = true ∨ next = ' ') (rest : Text) :
    Arrow.Passes classArrows (fun _ _ => true) w (next :: rest) := by
  -- the second character of an arrow cannot be the one behind a letter of the word
  have hsecond : ∀ e ∈ classArrows, e.1.tail.head?.any
      (fun c => !isNameChar c && c != ' ') = true := by decide +kernel
  induction w with
  | nil => exact Arrow.passes_nil
  | cons c w ih =>
    obtain ⟨d, t, ht, hd⟩ : ∃ d t, w ++ next :: rest = d :: t ∧ (isNameChar d = true ∨ d = ' ') := by
      cases w with
      | nil => exact ⟨next, rest, rfl, hnext⟩
      | cons d w => exact ⟨d, w ++ next :: rest, rfl, Or.inl (h d (by simp))⟩
    have hq : c ≠ '"' := by
      rintro rfl
      exact absurd (h '"' (by simp)) (by decide)
    refine Arrow.passes_cons hq (fun previous e he => Arrow.not_admits ?_) (ih fun d hd => h d (by simp [hd]))
    rw [ht]
    rintro ⟨u, hu⟩
    have hs := hsecond e he
    rcases he' : e.1 with _ | ⟨a, _ | ⟨b, v⟩⟩
    · simp [he'] at hs
    · simp [he'] at hs
    · obtain rfl : b = d := by
        rw [he'] at hu
        simpa using congrArg (fun s : Text => s.tail.head?) hu
      rcases hd with hd | rfl <;> simp_all

/-- Of the arrows that begin at a place the longest is found: none goes on with a space. -/
theorem classArrows_next : ∀ e ∈ classArrows, ∀ x ∈ classArrows,
    e.1 <+: x.1 → x = e ∨ (x.1.drop e.1.length).head?.any (· != ' ') = true := by
  decide +kernel

/-- Behind a space an arrow is found that has a space behind it, even if others begin at its place. -/
theorem find?_classArrow {left arrow : Text} {sense : ArrowSense} (h : (arrow, sense) ∈ classArrows) (rest : Text)
    (hleft : Arrow.Passes classArrows (fun _ _ => true) (left ++ [' ']) (arrow ++ ' ' :: rest)) :
    Arrow.find? (left ++ [' '] ++ (arrow ++ ' ' :: rest)) classArrows =
      some ⟨trim (left ++ [' ']), trim (' ' :: rest), arrow, sense⟩ := by
  have hquote : ∀ e ∈ classArrows, e.1.head?.any (· != '"') = true := by decide
  have hadmits : Arrow.admits (fun _ _ => true) (left ++ [' ']).getLast? (arrow ++ ' ' :: rest) arrow = true := by
    have hb : isAlphanumeric ' ' = false := by decide
    have hprefix : arrow.isPrefixOf (arrow ++ ' ' :: rest) = true :=
      List.isPrefixOf_iff_prefix.2 (List.prefix_append _ _)
    simp [Arrow.admits, hprefix, hb]
  exact Arrow.findWhere?_eq_some (e := (arrow, sense)) hleft h (hquote _ h) hadmits fun x hx =>
    Arrow.shorter_of_next (classArrows_next _ h x hx)

/-! ## Ends of a relation -/

/-- A name and a multiplicity that can be written next to each other. -/
structure EndTexts (name : Text) (multiplicity : Option Text) : Prop where
  name : isPlainName name = true
  multiplicity : multiplicity.all isPlainMultiplicity = true

/-- A name and a multiplicity that are read from an end, in which blanks may stand around the multiplicity. -/
structure ReadableEnd (name : Text) (multiplicity : Option Text) : Prop where
  name : isPlainName name = true
  multiplicity : ∀ m ∈ multiplicity, isMultiplicity m = true

/-- What is known of a multiplicity that can be written. -/
structure MultiplicityText (m : Text) : Prop where
  isMultiplicity : isMultiplicity m = true
  tight : Tight m
  noLineFeed : '\n' ∉ m

theorem multiplicityText {m : Text} (h : isPlainMultiplicity m = true) : MultiplicityText m := by
  simp only [isPlainMultiplicity, Bool.and_eq_true, beq_iff_eq] at h
  exact ⟨h.1.1, trim_eq_self_iff.1 h.1.2, not_mem_of_all h.2 rfl⟩

variable {name : Text} {multiplicity : Option Text}

theorem EndTexts.multiplicityText (h : EndTexts name multiplicity) : ∀ m ∈ multiplicity, MultiplicityText m :=
  fun m hm => DiagramProse.multiplicityText ((Option.all_eq_true ..).1 h.multiplicity m hm)

theorem EndTexts.readable (h : EndTexts name multiplicity) : ReadableEnd name multiplicity :=
  ⟨h.name, fun m hm => (h.multiplicityText m hm).isMultiplicity⟩

theorem EndTexts.map_trim (h : EndTexts name multiplicity) : multiplicity.map trim = multiplicity := by
  cases multiplicity with
  | none => rfl
  | some m => exact congrArg some (trim_eq_self (h.multiplicityText m rfl).tight)

theorem leftEnd_tight (h : ReadableEnd name multiplicity) : Tight (leftEnd name multiplicity) := by
  have hn := tight_of_not_blank (not_blank_of_isPlainName h.name)
  cases multiplicity with
  | none => exact hn
  | some m =>
    rw [leftEnd, List.append_assoc name]
    exact tight_append hn (by decide) (ne_nil_of_isPlainName h.name) (by decide)

theorem passes_leftEnd (h : ReadableEnd name multiplicity) (rest : Text) :
    Arrow.Passes classArrows (fun _ _ => true) (leftEnd name multiplicity ++ [' ']) rest := by
  have hspace : ∀ rest, Arrow.Passes classArrows (fun _ _ => true) [' '] rest := fun rest =>
    Arrow.passes_of_heads (by decide) (by decide)
  have hn := passes_name (isNameChar_of_isPlainName h.name) (.inr rfl)
  cases multiplicity with
  | none => exact (hn rest).append (hspace rest)
  | some m =>
    have hm := quote_not_mem_of_isMultiplicity (h.multiplicity m rfl)
    have hquoted := (Arrow.passes_quoted hm).append (hspace rest)
    have := (hn _).append ((hspace _).append hquoted)
    simpa [leftEnd] using this

theorem hintless_quoted {m : Text} (h : isMultiplicity m = true) : Hintless ("\"" ++ m ++ "\"") := by
  have hquote : Hintless "\"" := hintless_of_not_mem (by decide) (by decide)
  exact (hquote.append (hintless_of_isMultiplicity h)).append hquote

theorem hintless_name (h : isPlainName name = true) : Hintless name :=
  hintless_of_not_mem (not_mem_of_isPlainName h (by decide)) (not_mem_of_isPlainName h (by decide))

theorem hintless_leftEnd (h : ReadableEnd name multiplicity) : Hintless (leftEnd name multiplicity) := by
  cases multiplicity with
  | none => exact hintless_name h.name
  | some m =>
    have := (hintless_name h.name).append (hintless_space.append (hintless_quoted (h.multiplicity m rfl)))
    simpa [leftEnd] using this

theorem hintless_rightEnd (h : ReadableEnd name multiplicity) : Hintless (rightEnd multiplicity name) := by
  cases multiplicity with
  | none => exact hintless_name h.name
  | some m =>
    have := (hintless_quoted (h.multiplicity m rfl)).append (hintless_space.append (hintless_name h.name))
    simpa [rightEnd] using this

theorem rightEnd_tight (h : ReadableEnd name multiplicity) : Tight (rightEnd multiplicity name) := by
  have hn := tight_of_not_blank (not_blank_of_isPlainName h.name)
  cases multiplicity with
  | none => exact hn
  | some m =>
    have := tight_append (m := m ++ "\" ") (by decide : Tight "\"") hn (by decide)
      (ne_nil_of_isPlainName h.name)
    simpa [rightEnd] using this

theorem leftEnd_ne_nil (h : ReadableEnd name multiplicity) : leftEnd name multiplicity ≠ [] := by
  have := ne_nil_of_isPlainName h.name
  cases multiplicity <;> simp [leftEnd, this]

theorem rightEnd_ne_nil (h : ReadableEnd name multiplicity) : rightEnd multiplicity name ≠ [] := by
  have := ne_nil_of_isPlainName h.name
  cases multiplicity <;> simp [rightEnd, this]

/-! ## Parts of an end -/

theorem endParts?_space (rest : Text) : endParts? none (' ' :: rest) = endParts? none rest := by
  rw [endParts?, if_neg (by decide), if_pos (by decide)]

theorem endParts?_nameChars {w : Text} (h : ∀ c ∈ w, isNameChar c = true) (acc rest : Text) :
    endParts? (some (.name acc)) (w ++ rest) = endParts? (some (.name (w.reverse ++ acc))) rest := by
  induction w generalizing acc with
  | nil => rfl
  | cons c w ih =>
    have hc := h c (by simp)
    have hq : c ≠ '"' := by
      rintro rfl
      exact absurd hc (by decide)
    rw [List.cons_append, endParts?, if_neg hq, if_neg (by simp [not_blank_of_isNameChar hc]),
      ih fun d hd => h d (by simp [hd])]
    simp

theorem endParts?_append_name (h : isPlainName name = true) (rest : Text) :
    endParts? none (name ++ rest) = endParts? (some (.name name.reverse)) rest := by
  have hn := isNameChar_of_isPlainName h
  cases name with
  | nil => exact absurd rfl (ne_nil_of_isPlainName h)
  | cons c w =>
    have hc := hn c (by simp)
    have hq : c ≠ '"' := by
      rintro rfl
      exact absurd hc (by decide)
    rw [List.cons_append, endParts?, if_neg hq, if_neg (by simp [not_blank_of_isNameChar hc]),
      endParts?_nameChars fun d hd => hn d (by simp [hd])]
    simp

/-- A name is read up to a space. -/
theorem endParts?_name_space (h : isPlainName name = true) (rest : Text) :
    endParts? none (name ++ ' ' :: rest) = (endParts? none rest).map (.name name :: ·) := by
  rw [endParts?_append_name h, endParts?, if_neg (by decide), if_pos (by decide), List.reverse_reverse]

/-- A name is read up to the end. -/
theorem endParts?_name (h : isPlainName name = true) : endParts? none name = some [.name name] := by
  have := endParts?_append_name h []
  rw [List.append_nil] at this
  rw [this, endParts?, List.reverse_reverse]

theorem endParts?_quoted {m : Text} (h : '"' ∉ m) (rest : Text) :
    endParts? none ('"' :: (m ++ '"' :: rest)) = (endParts? none rest).map (.quoted (trim m) :: ·) := by
  have inside : ∀ (w acc : Text), '"' ∉ w → endParts? (some (.quoted acc)) (w ++ '"' :: rest) =
      (endParts? none rest).map (.quoted (trim (w.reverse ++ acc).reverse) :: ·) := by
    intro w
    induction w with
    | nil =>
      intro acc _
      rw [List.nil_append, endParts?, if_pos rfl]
      rfl
    | cons c w ih =>
      intro acc hw
      have hq : c ≠ '"' := fun e => hw (by simp [e])
      rw [List.cons_append, endParts?, if_neg hq, ih _ fun hm => hw (by simp [hm])]
      simp
  rw [endParts?, if_pos rfl, inside m [] h, List.append_nil, List.reverse_reverse]

theorem isClassName_of_isPlainName (h : isPlainName name = true) : isClassName name = true := by
  simp only [isClassName, Bool.and_eq_true, List.all_eq_true]
  refine ⟨by simpa using ne_nil_of_isPlainName h, fun c hc => ?_⟩
  have := isNameChar_of_isPlainName h c hc
  simp only [isNameChar, Bool.or_eq_true] at this
  rcases this with hc | hc <;> simp [hc]

theorem RelationEnd.read?_leftEnd (h : ReadableEnd name multiplicity) :
    RelationEnd.read? (leftEnd name multiplicity) true = some ⟨name, multiplicity.map trim, none⟩ := by
  have hc := isClassName_of_isPlainName h.name
  cases multiplicity with
  | none => simp [read?, leftEnd, endParts?_name h.name, hc, readQuoted]
  | some m =>
    have hm := h.multiplicity m rfl
    have hl : leftEnd name (some m) = name ++ ' ' :: '"' :: (m ++ '"' :: []) := by simp [leftEnd]
    have hparts : endParts? none (leftEnd name (some m)) = some [.name name, .quoted (trim m)] := by
      rw [hl, endParts?_name_space h.name, endParts?_quoted (quote_not_mem_of_isMultiplicity hm)]
      rfl
    simp [read?, hparts, hc, readQuoted, isMultiplicity_trim, hm]

theorem RelationEnd.read?_rightEnd (h : ReadableEnd name multiplicity) :
    RelationEnd.read? (rightEnd multiplicity name) false = some ⟨name, multiplicity.map trim, none⟩ := by
  have hc := isClassName_of_isPlainName h.name
  cases multiplicity with
  | none => simp [read?, rightEnd, endParts?_name h.name, hc, readQuoted]
  | some m =>
    have hm := h.multiplicity m rfl
    have hl : rightEnd (some m) name = '"' :: (m ++ '"' :: ' ' :: name) := by simp [rightEnd]
    have hparts : endParts? none (rightEnd (some m) name) = some [.quoted (trim m), .name name] := by
      rw [hl, endParts?_quoted (quote_not_mem_of_isMultiplicity hm), endParts?_space, endParts?_name h.name]
      rfl
    simp [read?, hparts, hc, readQuoted, isMultiplicity_trim, hm]

/-! ## Labels -/

/-- A text that is copied in the search for the colon of a label. -/
def Colonless (s : Text) : Prop := ∀ rest,
  cutUnquotedColon? false (s ++ rest) = (cutUnquotedColon? false rest).map fun (a, b) => (s ++ a, b)

theorem Colonless.append {s t : Text} (hs : Colonless s) (ht : Colonless t) : Colonless (s ++ t) := by
  intro rest
  rw [List.append_assoc, hs, ht]
  cases cutUnquotedColon? false rest <;> simp

theorem colonless_of_not_mem {s : Text} (hc : ':' ∉ s) (hq : '"' ∉ s) : Colonless s := by
  intro rest
  induction s with
  | nil => cases h : cutUnquotedColon? false rest <;> simp [h]
  | cons c s ih =>
    have hc' : c ≠ ':' := fun e => hc (by simp [e])
    have hq' : c ≠ '"' := fun e => hq (by simp [e])
    rw [List.cons_append, cutUnquotedColon?, if_neg (by simp [hc'])]
    have hquoted : (false != (c == '"')) = false := by simp [hq']
    rw [hquoted, ih (fun h => hc (by simp [h])) fun h => hq (by simp [h])]
    cases cutUnquotedColon? false rest <;> simp

theorem colonless_space : Colonless " " := colonless_of_not_mem (by decide) (by decide)

theorem colonless_quoted {m : Text} (h : '"' ∉ m) : Colonless ("\"" ++ m ++ "\"") := by
  intro rest
  have inside : cutUnquotedColon? true (m ++ '"' :: rest) =
      (cutUnquotedColon? false rest).map fun (a, b) => (m ++ '"' :: a, b) := by
    induction m with
    | nil => rfl
    | cons c m ih =>
      have hc : (true != (c == '"')) = true := by
        have : c ≠ '"' := fun e => h (by simp [e])
        simp [this]
      rw [List.cons_append, cutUnquotedColon?, if_neg (by simp), hc, ih fun hm => h (by simp [hm])]
      cases cutUnquotedColon? false rest <;> simp
  have hl : "\"" ++ m ++ "\"" ++ rest = '"' :: (m ++ '"' :: rest) := by simp
  rw [hl, cutUnquotedColon?, if_neg (by decide)]
  have hq : (false != ('"' == '"')) = true := rfl
  rw [hq, inside]
  cases cutUnquotedColon? false rest <;> simp

theorem colonless_rightEnd (h : ReadableEnd name multiplicity) :
    Colonless (rightEnd multiplicity name) := by
  have hn : Colonless name := colonless_of_not_mem (not_mem_of_isPlainName h.name (by decide))
    (not_mem_of_isPlainName h.name (by decide))
  cases multiplicity with
  | none => exact hn
  | some m =>
    have hm := quote_not_mem_of_isMultiplicity (h.multiplicity m rfl)
    have := (colonless_quoted hm).append (colonless_space.append hn)
    simpa [rightEnd] using this

/-- What is known of a label that can be written. -/
structure LabelText (s : Text) : Prop where
  ne_nil : s ≠ []
  tight : Tight s
  chars : s.all (fun c => isAlphanumeric c || c == ' ') = true

theorem labelText {s : Text} (h : isPlainLabel s = true) : LabelText s := by
  simp only [isPlainLabel, Bool.and_eq_true, beq_iff_eq] at h
  exact ⟨by simpa using h.1.1, trim_eq_self_iff.1 h.1.2, h.2⟩

/-- A label of free text: it is trimmed and not empty, has no quotes, and neither begins nor ends with a sign
for the direction in which it is read. -/
structure FreeLabel (s : Text) : Prop where
  ne_nil : s ≠ []
  tight : Tight s
  noQuote : '"' ∉ s
  first : ∀ c ∈ s.head?, isReadingSign c = false
  last : ∀ c ∈ s.getLast?, isReadingSign c = false

theorem freeLabel_of_isPlainLabel {s : Text} (h : isPlainLabel s = true) : FreeLabel s := by
  have hs := labelText h
  have hsign : ∀ c ∈ s, isReadingSign c = false := by
    intro c hc
    have hl : c ≠ '<' := fun e => not_mem_of_all hs.chars (by decide) (e ▸ hc)
    have hr : c ≠ '>' := fun e => not_mem_of_all hs.chars (by decide) (e ▸ hc)
    simp [isReadingSign, hl, hr]
  exact ⟨hs.ne_nil, hs.tight, not_mem_of_all hs.chars (by decide), fun c hc => hsign c (List.mem_of_mem_head? hc),
    fun c hc => hsign c (List.mem_of_getLast? hc)⟩

/-- Without its hints a label is one still: its ends are where they were. -/
theorem FreeLabel.withoutHints {s : Text} (h : FreeLabel s) : FreeLabel (Arrow.withoutHints s) := by
  have hlose := Arrow.withoutHints_loses s
  have hhead := hlose.head?_eq
  have hlast := hlose.getLast?_eq
  exact ⟨fun e => h.ne_nil (hlose.eq_nil_iff.1 e), ⟨hhead ▸ h.tight.head, hlast ▸ h.tight.last⟩,
    fun hm => h.noQuote (hlose.sublist.mem hm), hhead ▸ h.first, hlast ▸ h.last⟩

theorem cleanLabel_eq_self {s : Text} (h : FreeLabel s) : cleanLabel s = s := by
  rw [cleanLabel, trim_eq_self h.tight, dropWhile_eq_self h.first, dropEndWhile_eq_self h.last,
    trim_eq_self h.tight, unquote_of_not_mem h.tight h.noQuote]

/-- A label is trimmed before all else. -/
theorem cleanLabel_congr {s t : Text} (h : trim s = trim t) : cleanLabel s = cleanLabel t := by
  rw [cleanLabel, cleanLabel, h]

/-- Whatever stands behind the colon is the label, if anything is left of it. -/
theorem splitLabel_withColon (h : ReadableEnd name multiplicity) (label : Option Text) :
    splitLabel (trim (withColon (rightEnd multiplicity name) label)) =
      (rightEnd multiplicity name, label.bind fun t => nonempty? (cleanLabel t)) := by
  have hend := colonless_rightEnd h
  have htight := rightEnd_tight h
  cases label with
  | none =>
    have hcut := hend []
    rw [List.append_nil] at hcut
    rw [withColon, trim_eq_self htight, splitLabel, hcut, trim_eq_self htight]
    rfl
  | some t =>
    have hcolon : Tight (rightEnd multiplicity name ++ " " ++ ":") :=
      tight_append htight (by decide) (rightEnd_ne_nil h) (by decide)
    have hline : withColon (rightEnd multiplicity name) (some t) =
        rightEnd multiplicity name ++ " " ++ ":" ++ ' ' :: t := by simp [withColon]
    have hcut : cutUnquotedColon? false (rightEnd multiplicity name ++ " " ++ ":" ++ trimEnd (' ' :: t)) =
        some (rightEnd multiplicity name ++ [' '], trimEnd (' ' :: t)) := by
      rw [List.append_assoc, hend.append colonless_space]
      simp [cutUnquotedColon?]
    have hlabel : cleanLabel (trimEnd (' ' :: t)) = cleanLabel t :=
      cleanLabel_congr (by rw [trim_trimEnd, trim_space_cons])
    rw [hline, trim_append hcolon (by simp), splitLabel, hcut]
    simp [trim_append_space htight, hlabel]

/-! ## Relations -/

theorem withLabel_tight {s : Text} {label : Option Text} (hs : Tight s) (hne : s ≠ [])
    (hlabel : ∀ t ∈ label, FreeLabel t) : Tight (withColon s label) :=
  withColon_tight hs hne fun t hm => ⟨(hlabel t hm).tight, (hlabel t hm).ne_nil⟩

/-- Of a text without hints and a label, only the label can lose hints. -/
theorem withoutHints_withColon {s : Text} (hs : Hintless s) (label : Option Text) :
    Arrow.withoutHints (withColon s label) = withColon s (label.map Arrow.withoutHints) := by
  have hcolon : Hintless " : " := hintless_of_not_mem (by decide) (by decide)
  cases label with
  | none => exact hs.eq_self
  | some t => exact (hs.append hcolon) t

/-- What a relation is read from is the arrow, the end in front of it, and the end and the label behind it. -/
theorem Relation.read?_of_find? {line left right arrow : Text} {sense : ArrowSense} {lm rm label : Option Text}
    (hl : ReadableEnd left lm) (hr : ReadableEnd right rm)
    (hfind : Arrow.find? (Arrow.withoutHints line) classArrows =
      some ⟨leftEnd left lm, trim (withColon (rightEnd rm right) label), arrow, sense⟩) :
    Relation.read? line =
      some (Relation.between ⟨left, lm.map trim, none⟩ ⟨right, rm.map trim, none⟩
        (label.bind fun t => nonempty? (cleanLabel t)) sense) := by
  rw [Relation.read?, hfind]
  simp [splitLabel_withColon hr, RelationEnd.read?_leftEnd hl, RelationEnd.read?_rightEnd hr]

/-- What is read of a label: the hints in it and the signs and quotes around it go, and it may be that nothing is
left. -/
def readLabel (label : Option Text) : Option Text :=
  label.bind fun t => nonempty? (cleanLabel (Arrow.withoutHints t))

/-- A relation is read with the sense of its arrow, whatever its label is. The blanks around its multiplicities
go. -/
theorem Relation.read?_relationText {left right arrow : Text} {sense : ArrowSense} {lm rm : Option Text}
    (h : (arrow, sense) ∈ classArrows) (hl : ReadableEnd left lm) (hr : ReadableEnd right rm) (label : Option Text) :
    Relation.read? (relationText left lm arrow rm right label) =
      some (Relation.between ⟨left, lm.map trim, none⟩ ⟨right, rm.map trim, none⟩ (readLabel label) sense) := by
  have hhints : Arrow.withoutHints (relationText left lm arrow rm right label) =
      relationText left lm arrow rm right (label.map Arrow.withoutHints) := by
    have hends := ((hintless_leftEnd hl).append hintless_space).append
      ((hintless_arrow _ h).append (hintless_rightEnd hr))
    refine withoutHints_withColon ?_ label
    simpa using hends
  have hbind : readLabel label = (label.map Arrow.withoutHints).bind fun t => nonempty? (cleanLabel t) := by
    rw [Option.bind_map]
    simp only [readLabel, Function.comp_def]
  have hfind : ∀ label', Arrow.find? (relationText left lm arrow rm right label') classArrows =
      some ⟨leftEnd left lm, trim (withColon (rightEnd rm right) label'), arrow, sense⟩ := by
    intro label'
    have hline : relationText left lm arrow rm right label' =
        leftEnd left lm ++ [' '] ++ (arrow ++ ' ' :: withColon (rightEnd rm right) label') := by
      cases label' <;> simp [relationText, withColon]
    rw [hline, find?_classArrow h _ (passes_leftEnd hl _), trim_append_space (leftEnd_tight hl), trim_space_cons]
  rw [hbind, Relation.read?_of_find? hl hr (hhints ▸ hfind _)]

/-- A relation is read with the sense of its arrow, and with its label less the hints in it. -/
theorem Relation.read?_text {left right arrow : Text} {sense : ArrowSense} {lm rm label : Option Text}
    (h : (arrow, sense) ∈ classArrows) (hl : EndTexts left lm) (hr : EndTexts right rm)
    (hlabel : ∀ t ∈ label, FreeLabel t) :
    Relation.read? (relationText left lm arrow rm right label) =
      some (Relation.between ⟨left, lm, none⟩ ⟨right, rm, none⟩ (label.map Arrow.withoutHints) sense) := by
  have hclean : readLabel label = label.map Arrow.withoutHints := by
    cases label with
    | none => rfl
    | some t =>
      have ht := (hlabel t rfl).withoutHints
      simp [readLabel, cleanLabel_eq_self ht, nonempty?, ht.ne_nil]
  rw [Relation.read?_relationText h hl.readable hr.readable, hl.map_trim, hr.map_trim, hclean]

/-- A relation is read back from its line. -/
theorem Relation.read?_line {r : Relation} {arrow : Text} (h : (arrow, ⟨r.kind, r.reverse⟩) ∈ classArrows)
    (hs : EndTexts r.source r.sourceMultiplicity) (ht : EndTexts r.target r.targetMultiplicity)
    (hlabel : r.label.all isPlainLabel = true) : Relation.read? (r.line arrow) = some r := by
  rcases r with ⟨source, target, kind, label, sm, tm, reverse⟩
  have hfree : ∀ t ∈ label, FreeLabel t := fun t ht =>
    freeLabel_of_isPlainLabel ((Option.all_eq_true ..).1 hlabel t ht)
  -- there are no dashes and dots in the label, so there is no hint in it
  have hkept : label.map Arrow.withoutHints = label := by
    cases label with
    | none => rfl
    | some t =>
      have hchars := (labelText (s := t) (by simpa using hlabel)).chars
      have := hintless_of_not_mem (not_mem_of_all hchars (by decide)) (not_mem_of_all hchars (by decide))
      exact congrArg some this.eq_self
  cases reverse with
  | false =>
    have := Relation.read?_text h hs ht hfree
    rwa [hkept] at this
  | true =>
    have := Relation.read?_text h ht hs hfree
    rwa [hkept] at this

end DiagramProse
