import DiagramProse.Proofs.ClassDiagram.Statements
import DiagramProse.Proofs.Text.Beginnings
import DiagramProse.Proofs.Text.Reads
import DiagramProse.Proofs.Text.Replacement

/-!
The lines of a written diagram are lines indeed, and none is taken for a comment, a directive or a closing
brace (`Readable`). What a reader does with such a line depends on nothing but the innermost block.
-/

namespace DiagramProse

open Text

/-! ## Lines that are read -/

/-- A line as it stands in a source, and without the blanks around it. -/
structure Readable (raw line : Text) : Prop where
  isLine : IsLine raw
  trim : trim raw = line
  passes : (line.isEmpty || isComment line || isClassDirective line) = false
  noBrace : line.startsWith ['\x7d'] = false

theorem ClassReader.step_of_readable {r : ClassReader} {raw line : Text} (h : Readable raw line)
    (hn : r.note = none) (dialect : Dialect) (number : Nat) :
    r.step dialect number raw = match r.blocks with
      | .body name :: _ => r.bodyLine dialect name line
      | _ => r.apply dialect number (.read line) := by
  rw [step, h.trim, hn]
  simp only [h.passes, h.noBrace]
  rfl

/-- Outside class bodies a line is a statement. -/
theorem ClassReader.step_statement {r : ClassReader} {raw line : Text} (h : Readable raw line) (hnote : r.note = none)
    (hblocks : ∀ other, r.blocks.head? ≠ some (.body other)) (dialect : Dialect) (number : Nat) :
    r.step dialect number raw = r.apply dialect number (.read line) := by
  rw [step_of_readable h hnote]
  split
  · next other _ hbody => exact absurd (by rw [hbody]; rfl) (hblocks other)
  · rfl

/-- How comments, directives and closing braces begin. -/
def skippedHeads : List Char := "'%/@!cdhstl\x7d".toList

/-- A line that begins otherwise. -/
theorem readable_of_head {raw s : Text} {c : Char} (hc : c ∉ skippedHeads) (hl : IsLine raw)
    (ht : Text.trim raw = c :: s) : Readable raw (c :: s) := by
  have hc' : (!skippedHeads.contains c) = true := by simp [hc]
  have hcomment : isComment (c :: s) = false :=
    startsWithAny_of_head (f := fun d => !skippedHeads.contains d) hc' (by decide) s
  have hdirective : isClassDirective (c :: s) = false :=
    startsWithAny_of_head (f := fun d => !skippedHeads.contains d) hc' (by decide) s
  have hbrace : startsWith (c :: s) ['\x7d'] = false :=
    startsWith_of_head (f := fun d => !skippedHeads.contains d) hc' (by decide) s
  exact ⟨hl, ht, by simp [hcomment, hdirective], hbrace⟩

theorem readable_of_tight {c : Char} {s : Text} (hc : c ∉ skippedHeads) (ht : Tight (c :: s)) (hn : '\n' ∉ c :: s) :
    Readable (c :: s) (c :: s) :=
  readable_of_head hc (isLine_of_tight (List.cons_ne_nil c s) ht hn) (trim_eq_self ht)

/-- A line that begins with a keyword, and not with what is taken for something else. -/
theorem readable_of_keyword {raw w s : Text} (hw : w = "class " ∨ w = "note ") (hl : IsLine raw)
    (ht : Text.trim raw = w ++ s) : Readable raw (w ++ s) := by
  obtain ⟨hcomment, hdirective, hbrace⟩ : isComment (w ++ s) = false ∧
      isClassDirective (w ++ s) = false ∧ startsWith (w ++ s) ['\x7d'] = false := by
    rcases hw with rfl | rfl
    all_goals exact ⟨startsWithAny_of_apart (by decide) s, startsWithAny_of_apart (by decide) s,
      startsWith_of_apart (by decide) s⟩
  have hne : (w ++ s).isEmpty = false := by rcases hw with rfl | rfl <;> rfl
  refine ⟨hl, ht, ?_, hbrace⟩
  rw [hne, hcomment, hdirective]
  rfl

/-! ## Classes -/

theorem classLine_readable {rest : Text} (ht : Tight rest) (hne : rest ≠ []) (hn : '\n' ∉ rest) :
    Readable ("class " ++ rest) ("class " ++ rest) := by
  have htight : Tight ("class " ++ rest) :=
    tight_append (m := [' ']) (by decide : Tight "class") ht (by decide) hne
  have hfeed : '\n' ∉ ("class " ++ rest : Text) := by simp [hn]
  exact readable_of_keyword (.inl rfl) (isLine_of_tight (by simp) htight hfeed) (trim_eq_self htight)

theorem tight_opening {name : Text} (h : isClassName name = true) : Tight (name ++ " \x7b") := by
  have := tight_append (m := [' ']) (tight_of_not_blank (not_blank_of_isClassName h)) (by decide : Tight ['\x7b'])
    (ne_nil_of_isClassName h) (by decide)
  simpa using this

theorem declaration_readable {name : Text} (h : isClassName name = true) :
    Readable ("class " ++ name ++ " \x7b") ("class " ++ name ++ " \x7b") := by
  have hn : '\n' ∉ name := not_mem_of_isClassName h (by decide)
  rw [List.append_assoc]
  exact classLine_readable (tight_opening h) (by simp) (by simp [hn])

theorem Stereotype.ofLabel_eq_custom {s : Text} (ht : Text.trim s = s)
    (h : reservedLabels.contains s.lowerAscii = false) : Stereotype.ofLabel s = .custom s := by
  have hne : ∀ t ∈ reservedLabels, s.lowerAscii ≠ t := by
    rintro t hm rfl
    simp [hm] at h
  simp only [ofLabel, ht]
  rw [if_neg (hne _ (by decide)), if_neg (not_or.2 ⟨hne _ (by decide), hne _ (by decide)⟩),
    if_neg (not_or.2 ⟨hne _ (by decide), hne _ (by decide)⟩)]

/-- A stereotype is read back from its line. -/
theorem Stereotype.read_line {s : Stereotype} (h : s.isWritable = true) :
    Readable s.line s.line ∧
      ∃ label, readStereotypeLine? s.line = some label ∧ Stereotype.ofLabel label = s := by
  have hlabel : Tight s.label ∧ '\n' ∉ s.label ∧ Stereotype.ofLabel s.label = s := by
    cases s with
    | custom label =>
      simp only [isWritable, Bool.and_eq_true, beq_iff_eq] at h
      obtain ⟨⟨ht, hn⟩, hreserved⟩ := h
      have hr : reservedLabels.contains label.lowerAscii = false := by simpa using hreserved
      exact ⟨trim_eq_self_iff.1 ht, not_mem_of_all hn rfl, ofLabel_eq_custom ht hr⟩
    | _ => exact ⟨by decide, by decide, by decide⟩
  obtain ⟨ht, hn, hof⟩ := hlabel
  have htight : Tight s.line := tight_append (by decide) (by decide) (by decide) (by decide)
  have hline : s.line = '<' :: ('<' :: s.label ++ ['>', '>']) := by simp [line]
  refine ⟨?_, s.label, ?_, hof⟩
  · rw [hline] at htight ⊢
    exact readable_of_tight (by decide) htight (by simp [hn])
  · rw [hline]
    simp [readStereotypeLine?, dropPrefix?, dropSuffix?, trim_eq_self ht]

theorem closing_isLine : IsLine "\x7d" := by decide

/-! ## Members -/

theorem sign_readable {v : Visibility} (hv : v ≠ .unspecified) {s : Text} (h : MemberBody s) :
    Readable (v.sign ++ s) (v.sign ++ s) ∧ readStereotypeLine? (v.sign ++ s) = none := by
  have ht := tight_sign_append hv h
  have hn : '\n' ∉ s := h.chars _ (by decide)
  cases v with
  | unspecified => exact absurd rfl hv
  | _ =>
    refine ⟨readable_of_tight (by decide) ht (by simp [hn]), ?_⟩
    simp [Visibility.sign, readStereotypeLine?, dropPrefix?]

theorem Member.readable_line {m : Member} (h : m.isWritable = true) :
    Readable m.line m.line ∧ readStereotypeLine? m.line = none := by
  cases m with
  | field a => exact sign_readable (a.visibility_ne h) (a.memberBody h)
  | method m => exact sign_readable (m.visibility_ne h) (m.memberBody h)

/-! ## Relations and notes -/

theorem leftEnd_eq (name : Text) (multiplicity : Option Text) :
    ∃ rest, leftEnd name multiplicity = name ++ rest := by
  cases multiplicity with
  | none => exact ⟨[], (List.append_nil name).symm⟩
  | some m => exact ⟨" \"" ++ m ++ "\"", by simp [leftEnd]⟩

theorem not_mem_end {name : Text} {multiplicity : Option Text} (h : EndTexts name multiplicity) :
    '\n' ∉ leftEnd name multiplicity ∧ '\n' ∉ rightEnd multiplicity name := by
  have hn : '\n' ∉ name := not_mem_of_isPlainName h.name (by decide)
  cases multiplicity with
  | none => exact ⟨hn, hn⟩
  | some m =>
    have hm := (h.multiplicityText m rfl).noLineFeed
    simp [leftEnd, rightEnd, hn, hm]

theorem relationText_readable {left right arrow : Text} {sense : ArrowSense} {lm rm label : Option Text}
    (harrow : (arrow, sense) ∈ classArrows) (hcap : isCapitalised left = true) (hl : EndTexts left lm)
    (hr : EndTexts right rm) (hlabel : label.all isPlainLabel = true) :
    ∃ c s, relationText left lm arrow rm right label = c :: s ∧ c.isUpper = true ∧
      Readable (c :: s) (c :: s) := by
  have ht : Tight (relationText left lm arrow rm right label) := by
    refine withLabel_tight ?_ (by simp) fun t ht =>
      freeLabel_of_isPlainLabel ((Option.all_eq_true ..).1 hlabel t ht)
    have := tight_append (m := " " ++ arrow ++ " ") (leftEnd_tight hl.readable) (rightEnd_tight hr.readable)
      (leftEnd_ne_nil hl.readable) (rightEnd_ne_nil hr.readable)
    simpa using this
  have hn : '\n' ∉ relationText left lm arrow rm right label := by
    have hlines : ∀ e ∈ classArrows, '\n' ∉ e.1 := by decide
    have ha : '\n' ∉ arrow := hlines _ harrow
    refine not_mem_withColon ?_ (by decide) fun t hm => ?_
    · simp [(not_mem_end hl).1, (not_mem_end hr).2, ha]
    · exact not_mem_of_all (labelText ((Option.all_eq_true ..).1 hlabel t hm)).chars (by decide)
  obtain ⟨c, t, rfl, hc⟩ := head_of_isCapitalised hcap
  obtain ⟨rest, hrest⟩ := leftEnd_eq (c :: t) lm
  obtain ⟨s, hs⟩ : ∃ s, relationText (c :: t) lm arrow rm right label = c :: s := by
    rw [relationText, hrest, withColon_eq]
    exact ⟨_, rfl⟩
  rw [hs] at ht hn
  have hheads : ∀ d ∈ skippedHeads, d.isUpper = false := by decide
  have hskipped : c ∉ skippedHeads := by
    intro hm
    rw [hheads c hm] at hc
    cases hc
  exact ⟨c, s, hs, hc, readable_of_tight hskipped ht hn⟩

/-- A relation is read back from its line. -/
theorem Relation.readable_line {names : List Text} {r : Relation} {arrow : Text} (h : r.isWritable names = true)
    (harrow : (arrow, ⟨r.kind, r.reverse⟩) ∈ classArrows) (hnames : ∀ n ∈ names, isCapitalised n = true) :
    Readable (r.line arrow) (r.line arrow) ∧ ClassStatement.read (r.line arrow) = .relation r := by
  simp only [isWritable, Bool.and_eq_true, List.contains_iff_mem] at h
  obtain ⟨⟨⟨⟨hs, ht⟩, hsm⟩, htm⟩, hlabel⟩ := h
  have hsource : EndTexts r.source r.sourceMultiplicity :=
    ⟨isPlainName_of_isCapitalised (hnames _ hs), hsm⟩
  have htarget : EndTexts r.target r.targetMultiplicity :=
    ⟨isPlainName_of_isCapitalised (hnames _ ht), htm⟩
  have hread := Relation.read?_line harrow hsource htarget hlabel
  obtain ⟨c, s, hline, hc, hreadable⟩ : ∃ c s, r.line arrow = c :: s ∧ c.isUpper = true ∧
      Readable (c :: s) (c :: s) := by
    rw [line]
    split
    · exact relationText_readable harrow (hnames _ ht) htarget hsource hlabel
    · exact relationText_readable harrow (hnames _ hs) hsource htarget hlabel
  rw [hline] at hread ⊢
  exact ⟨hreadable, ClassStatement.read_relation hc hread⟩

theorem note_readable {raw line : Text} (hl : IsLine raw) (ht : Text.trim raw = line)
    (hline : ∃ s, line = "note " ++ s) : Readable raw line := by
  obtain ⟨s, rfl⟩ := hline
  exact readable_of_keyword (.inr rfl) hl ht

/-- A line that reads as a note with a text is one. -/
theorem ClassStatement.read_note {line name text : Text} (h : readClassNote? line = some (name, some text)) :
    ClassStatement.read line = .note name text := by
  rw [ClassStatement.read, h]
  rfl

theorem NoteSide.opening_text {name : Text} (h : isCapitalised name = true) (side : NoteSide) :
    Tight (side.opening name) ∧ '\n' ∉ side.opening name ∧ ∃ s, side.opening name = "note " ++ s := by
  have hn : '\n' ∉ name := not_mem_of_isPlainName (isPlainName_of_isCapitalised h) (by decide)
  have hs : '\n' ∉ side.word := by cases side <;> decide
  refine ⟨?_, by simp [opening_eq, hn, hs], side.word ++ " of " ++ name ++ " :", by simp [opening_eq]⟩
  have := tight_append (m := ' ' :: side.word ++ " of " ++ name ++ [' ']) (by decide : Tight "note")
    (by decide : Tight ":") (by decide) (by decide)
  simpa [opening_eq] using this

/-- What is known of the text of a note that can be written. -/
structure NoteText (s : Text) : Prop where
  clean : cleanNote s = s
  tight : Tight s
  noLineFeed : '\n' ∉ s

theorem noteText {s : Text} (hs : squeeze s = s) (hb : contains s "\\n" = false) : NoteText s := by
  have hreplace : replace "\\n" [' '] s = s := by
    have hcut : cut? "\\n" s = none := by simpa [contains] using hb
    rw [replace_eq_cut (by decide), hcut]
  refine ⟨by rw [cleanNote, hreplace, hs], hs ▸ tight_squeeze s, fun hn => ?_⟩
  rw [← hs] at hn
  have : '\n' = ' ' := eq_space_of_mem_squeeze hn rfl
  simp at this

theorem ClassNote.readable_beside {name text : Text} (hname : isCapitalised name = true)
    (htext : NoteText text) (side : NoteSide) :
    ∃ line, Readable (side.opening name ++ ' ' :: text) line ∧ ClassStatement.read line = .note name text := by
  obtain ⟨ht, hn, s, hs⟩ := side.opening_text hname
  obtain ⟨hclean, htight, hfeed⟩ := htext
  have hne : side.opening name ≠ [] := by simp [hs]
  -- the line of an empty note ends at the colon once it is trimmed
  cases text with
  | nil =>
    have hread := readClassNote?_beside hname side []
    rw [hclean, List.append_nil] at hread
    refine ⟨_, ?_, ClassStatement.read_note hread⟩
    exact note_readable (isLine_append hn (by decide)) (trim_append_space ht) ⟨s, hs⟩
  | cons c t =>
    have hread := readClassNote?_beside hname side (' ' :: c :: t)
    rw [cleanNote_space, hclean] at hread
    have hline : Tight (side.opening name ++ ' ' :: c :: t) := by
      have := tight_append (m := [' ']) ht htight hne (by simp)
      simpa using this
    refine ⟨side.opening name ++ ' ' :: c :: t, ?_, ClassStatement.read_note hread⟩
    have hfeed' : '\n' ∉ side.opening name ++ ' ' :: c :: t := by
      intro hm
      rcases List.mem_append.1 hm with hm | hm
      · exact hn hm
      · simp_all
    have hwords : side.opening name ++ ' ' :: c :: t = "note " ++ (s ++ ' ' :: c :: t) := by
      rw [hs, List.append_assoc]
    exact note_readable (isLine_of_tight (by simp) hline hfeed') (trim_eq_self hline) ⟨_, hwords⟩

/-- A note is read back from its line. -/
theorem ClassNote.readable_line {n : ClassNote} (h : n.isWritable = true) (place : NotePlace) :
    ∃ line, Readable (n.line place) line ∧ ClassStatement.read line = .note n.className n.text := by
  rcases n with ⟨name, text⟩
  simp only [isWritable, Bool.and_eq_true, beq_iff_eq, Bool.not_eq_true'] at h
  obtain ⟨⟨hname, hsqueeze⟩, hbreak⟩ := h
  have htext := noteText hsqueeze hbreak
  cases place with
  | beside side => exact ClassNote.readable_beside hname htext side
  | quoted =>
    have hn : '\n' ∉ name := not_mem_of_isPlainName (isPlainName_of_isCapitalised hname) (by decide)
    have hfeed := htext.noLineFeed
    have hread := readClassNote?_quoted hname text
    rw [htext.clean] at hread
    have ht : Tight ("note for " ++ name ++ " \"" ++ text ++ "\"") := by
      have := tight_append (m := " for " ++ name ++ " \"" ++ text) (by decide : Tight "note")
        (by decide : Tight "\"") (by decide) (by decide)
      simpa using this
    have hfeed' : '\n' ∉ ("note for " ++ name ++ " \"" ++ text ++ "\"" : Text) := by simp [hn, hfeed]
    change ∃ line, Readable ("note for " ++ name ++ " \"" ++ text ++ "\"") line ∧ _
    exact ⟨_, note_readable (isLine_of_tight (by simp) ht hfeed') (trim_eq_self ht)
      ⟨"for " ++ name ++ " \"" ++ text ++ "\"", by simp⟩, ClassStatement.read_note hread⟩

end DiagramProse
