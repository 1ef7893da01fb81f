import DiagramProse.Proofs.Kind.Places
import DiagramProse.Proofs.Text.Letters

/-!
The header of a Mermaid source and its kind. The keyword with which the first line begins decides what kind the
source has, whatever the other lines are, unless there is a sign of C4 in it (`detect_header`): C4 is looked for
first (`detect_header_c4`). The signs of C4 are those of `looksLikeC4_iff`.
-/

namespace DiagramProse

open Text

variable {source line : Text} {kind : DiagramKind}

/-! ## Signs of C4 -/

/-- The call of a C4 element, with blanks in front of its parenthesis or without. -/
def IsC4Call (s : Text) : Prop :=
  ∃ word ∈ c4ElementWords, ∃ form ∈ c4ElementForms, ∃ blanks rest : Text,
    s = word ++ form ++ blanks ++ '(' :: rest ∧ blanks.allBlank = true

/-- A source with a marker of C4 somewhere, in any letter case, or with the call of an element behind the blanks at
the beginning of a line. -/
def ShowsC4 (source : Text) : Prop :=
  (∃ marker ∈ c4Markers, marker <:+: source.lowerAscii) ∨
    ∃ front blanks call : Text, source = front ++ blanks ++ call ∧
      (front = [] ∨ front.getLast? = some '\n') ∧ blanks.allBlank = true ∧ IsC4Call call

theorem startsWith_trimStart_iff {s : Text} : s.trimStart.startsWith ['('] = true ↔
    ∃ blanks rest : Text, s = blanks ++ '(' :: rest ∧ blanks.allBlank = true := by
  rw [startsWith_eq_isSome, Option.isSome_iff_exists]
  constructor
  · rintro ⟨rest, hrest⟩
    have hsplit : s.takeWhile isBlank ++ s.trimStart = s := List.takeWhile_append_dropWhile
    rw [dropPrefix?_eq_some_iff.1 hrest] at hsplit
    exact ⟨s.takeWhile isBlank, rest, hsplit.symm, List.all_takeWhile⟩
  · rintro ⟨blanks, rest, rfl, hblanks⟩
    rw [trimStart_append_of_blank hblanks]
    exact ⟨rest, dropPrefix?_append ['('] rest⟩

theorem beginsC4Element_iff {s : Text} : beginsC4Element s = true ↔ IsC4Call s := by
  simp only [beginsC4Element, List.any_eq_true, Option.any_eq_true, startsWith_trimStart_iff, dropPrefix?_eq_some_iff,
    IsC4Call]
  constructor
  · rintro ⟨word, hword, rest, rfl, form, hform, behind, rfl, blanks, inside, rfl, hblanks⟩
    exact ⟨word, hword, form, hform, blanks, inside, by simp, hblanks⟩
  · rintro ⟨word, hword, form, hform, blanks, inside, rfl, hblanks⟩
    exact ⟨word, hword, form ++ blanks ++ '(' :: inside, by simp, form, hform, blanks ++ '(' :: inside, by simp,
      blanks, inside, rfl, hblanks⟩

/-- A call has no blanks in front of it. -/
theorem IsC4Call.trimStart_append {blanks call : Text} (h : IsC4Call call) (hblanks : blanks.allBlank = true) :
    trimStart (blanks ++ call) = call := by
  obtain ⟨word, hword, form, hform, rest, inside, rfl, -⟩ := h
  have hwords : ∀ word ∈ c4ElementWords, word ≠ [] ∧ ∀ c ∈ word.head?, isBlank c = false := by decide +kernel
  obtain ⟨hne, hhead⟩ := hwords word hword
  rw [trimStart_append_of_blank hblanks]
  refine dropWhile_eq_self fun c hc => hhead c ?_
  simpa only [List.append_assoc, List.head?_append_of_ne_nil _ hne] using hc

theorem showsC4_iff : ShowsC4 source ↔
    (c4Markers.any source.lowerAscii.contains || (lineBeginnings source).any beginsC4Element) = true := by
  rw [Bool.or_eq_true, List.any_eq_true, any_lineBeginnings_iff]
  simp only [contains_iff, beginsC4Element_iff]
  refine or_congr Iff.rfl ⟨?_, ?_⟩
  · rintro ⟨front, blanks, call, rfl, hfront, hblanks, hcall⟩
    exact ⟨front, blanks ++ call, by simp, hfront, by rwa [hcall.trimStart_append hblanks]⟩
  · rintro ⟨front, u, rfl, hfront, hcall⟩
    refine ⟨front, u.takeWhile isBlank, trimStart u, ?_, hfront, List.all_takeWhile, hcall⟩
    rw [List.append_assoc, trimStart, List.takeWhile_append_dropWhile]

instance (source : Text) : Decidable (ShowsC4 source) := decidable_of_iff _ showsC4_iff.symm

/-! ## Headers -/

/-- What may stand in front of the header: blank lines, comments, and front matter between lines of dashes. -/
inductive Preamble : List Text → Prop where
  | nil : Preamble []
  | skip {line : Text} {ls : List Text} (h : line.trim = [] ∨ isComment line.trim = true) (rest : Preamble ls) :
      Preamble (line :: ls)
  | frontMatter {first last : Text} {inner ls : List Text} (hfirst : first.trim = "---")
      (hinner : ∀ line ∈ inner, line.trim ≠ "---") (hlast : last.trim = "---") (rest : Preamble ls) :
      Preamble (first :: (inner ++ last :: ls))

/-- A line whose first word is the keyword of a kind, in any letter case. -/
def IsHeader (line : Text) (kind : DiagramKind) : Prop :=
  ∃ blanks word rest keyword : Text, line = blanks ++ word ++ rest ∧ blanks.allBlank = true ∧
    (∀ c ∈ rest.head?, isBlank c = true) ∧ word.equalIgnoreAsciiCase keyword = true ∧
      (keyword, kind) ∈ mermaidHeaders

/-- A source whose first line that is neither blank, nor a comment, nor front matter, is a header. -/
def HasHeader (source : Text) (kind : DiagramKind) : Prop :=
  ∃ before header after, source.lines = before ++ header :: after ∧ Preamble before ∧ IsHeader header kind

theorem firstTellingLine_dashes {first : Text} (h : first.trim = "---") (inside : Bool) (ls : List Text) :
    firstTellingLine inside (first :: ls) = firstTellingLine (!inside) ls := by
  rw [firstTellingLine, if_pos h]

theorem firstTellingLine_inner {inner : List Text} (h : ∀ line ∈ inner, line.trim ≠ "---") (ls : List Text) :
    firstTellingLine true (inner ++ ls) = firstTellingLine true ls := by
  induction inner with
  | nil => rfl
  | cons l inner ih =>
    rw [List.cons_append, firstTellingLine, if_neg (h l List.mem_cons_self), Bool.true_or, Bool.true_or, if_pos rfl,
      ih fun line hl => h line (List.mem_cons_of_mem l hl)]

theorem Preamble.firstTellingLine_append {ls : List Text} (h : Preamble ls) (ms : List Text) :
    firstTellingLine false (ls ++ ms) = firstTellingLine false ms := by
  induction h with
  | nil => rfl
  | skip h _ ih => rw [List.cons_append, firstTellingLine_skip h, ih]
  | frontMatter hfirst hinner hlast _ ih =>
    rw [List.cons_append, firstTellingLine_dashes hfirst, List.append_assoc, Bool.not_false,
      firstTellingLine_inner hinner, List.cons_append, firstTellingLine_dashes hlast, Bool.not_true, ih]

/-- Keywords are words in lower case. -/
theorem mermaidHeaders_words : ∀ header ∈ mermaidHeaders,
    header.1.lowerAscii = header.1 ∧ header.1 ≠ [] ∧ ∀ c ∈ header.1, isBlank c = false := by
  decide +kernel

/-- A header in lower case and without blanks around it begins with its keyword. -/
theorem IsHeader.lowerAscii_trim (h : IsHeader line kind) :
    ∃ keyword rest : Text, line.trim.lowerAscii = keyword ++ rest ∧ (∀ c ∈ rest.head?, isBlank c = true) ∧
      (keyword, kind) ∈ mermaidHeaders := by
  obtain ⟨blanks, word, rest, keyword, rfl, hblanks, hrest, hword, hkind⟩ := h
  obtain ⟨hlower, hne, hclear⟩ := mermaidHeaders_words _ hkind
  have hword : word.lowerAscii = keyword := by simpa [equalIgnoreAsciiCase, hlower] using hword
  have hclear : ∀ c ∈ word, isBlank c = false := by
    intro c hc
    rw [← isBlank_toLower]
    exact hclear _ (hword ▸ List.mem_map_of_mem hc)
  have hne : word ≠ [] := by
    rintro rfl
    exact hne hword.symm
  have htrim : trim (blanks ++ word ++ rest) = word ++ trimEnd rest := by
    have hstart : trimStart (word ++ rest) = word ++ rest := by
      refine dropWhile_eq_self fun c hc => hclear c (List.mem_of_mem_head? ?_)
      rwa [List.head?_append_of_ne_nil _ hne] at hc
    rw [trim, List.append_assoc, trimStart_append_of_blank hblanks, hstart,
      trimEnd_append fun c hc => hclear c (List.mem_of_getLast? hc)]
  refine ⟨keyword, lowerAscii (trimEnd rest), ?_, ?_, hkind⟩
  · rw [htrim, ← hword]
    exact List.map_append
  · intro c hc
    obtain ⟨d, hd, rfl⟩ := Option.map_eq_some_iff.1 (List.head?_map ▸ hc)
    rw [isBlank_toLower]
    refine hrest d ?_
    obtain ⟨b, hb⟩ : trimEnd rest <+: rest := dropEndWhile_prefix isBlank rest
    rw [← hb, List.head?_append, Option.mem_def, hd]
    rfl

/-- What no keyword begins with: the marks of comments and of front matter, and the letters of a C4 header. -/
def headerStops : List Text := ["'", "%%", "//", "---", "c4"]

theorem IsHeader.startsWith_stop (h : IsHeader line kind) {p : Text} (hp : p ∈ headerStops) :
    line.trim.startsWith p = false ∧ line.trim.lowerAscii.startsWith p = false := by
  have hapart : ∀ header ∈ mermaidHeaders, ∀ p ∈ headerStops, apart header.1 p = true := by decide +kernel
  have hstops : ∀ p ∈ headerStops, p.lowerAscii = p := by decide +kernel
  obtain ⟨keyword, rest, htrim, -, hkind⟩ := h.lowerAscii_trim
  have hlower : line.trim.lowerAscii.startsWith p = false := by
    rw [htrim, startsWith_of_apart (hapart _ hkind p hp)]
  refine ⟨?_, hlower⟩
  by_contra hstarts
  rw [Bool.not_eq_false, startsWith, List.isPrefixOf_iff_prefix] at hstarts
  have hmoved := hstarts.map Char.toLower
  rw [← lowerAscii, ← lowerAscii, hstops p hp, ← List.isPrefixOf_iff_prefix, ← startsWith, hlower] at hmoved
  cases hmoved

/-- A header is the first line that tells something. -/
theorem IsHeader.firstTellingLine (h : IsHeader line kind) (ls : List Text) :
    firstTellingLine false (line :: ls) = some line.trim := by
  have hstop : ∀ p ∈ headerStops, line.trim.startsWith p = false := fun p hp => (h.startsWith_stop hp).1
  have hdashes : line.trim ≠ "---" := by
    intro he
    have := hstop "---" (by decide +kernel)
    rw [he] at this
    exact absurd this (by decide +kernel)
  have hempty : line.trim.isEmpty = false := by
    obtain ⟨keyword, rest, htrim, -, hkind⟩ := h.lowerAscii_trim
    rw [List.isEmpty_eq_false_iff]
    intro he
    rw [he] at htrim
    exact (mermaidHeaders_words _ hkind).2.1 (List.append_eq_nil_iff.1 htrim.symm).1
  have hcomment : isComment line.trim = false := by
    rw [isComment, startsWithAny, List.any_eq_false]
    intro p hp
    rw [hstop p (List.mem_append_left ["---".toList, "c4".toList] hp)]
    exact Bool.false_ne_true
  rw [DiagramProse.firstTellingLine, if_neg hdashes, hempty, hcomment, Bool.false_or, Bool.false_or,
    if_neg Bool.false_ne_true]

theorem IsHeader.lookup (h : IsHeader line kind) :
    mermaidHeaders.lookup (line.trim.lowerAscii.words.headD []) = some kind := by
  have hlookup : ∀ header ∈ mermaidHeaders, mermaidHeaders.lookup header.1 = some header.2 := by decide +kernel
  obtain ⟨keyword, rest, htrim, hrest, hkind⟩ := h.lowerAscii_trim
  obtain ⟨-, hne, hclear⟩ := mermaidHeaders_words _ hkind
  rw [htrim, words_headD hne hclear hrest, hlookup _ hkind]

/-! ## The kind -/

/-- The keyword of its header decides the kind of a Mermaid source, unless the source shows a sign of C4. -/
theorem detect_header (h : HasHeader source kind) :
    DiagramKind.detect source none (some .mermaid) = if ShowsC4 source then .c4 else kind := by
  obtain ⟨before, header, after, hlines, hbefore, hheader⟩ := h
  have hfirst : firstLine? source = some header.trim := by
    rw [firstLine?, hlines, hbefore.firstTellingLine_append, hheader.firstTellingLine]
  have hkind : kindOfHeader? source = some kind := by
    rw [kindOfHeader?, hfirst]
    exact hheader.lookup
  have hc4 : looksLikeC4 source source.lowerAscii = true ↔ ShowsC4 source := by
    have hword : header.trim.lowerAscii.startsWith "c4" = false :=
      (hheader.startsWith_stop (by decide +kernel)).2
    rw [looksLikeC4, hfirst, Option.any_some, hword, Bool.or_false, showsC4_iff]
  rw [DiagramKind.detect, kindOfSource, Option.getD_some, hkind]
  simp [hc4]

theorem detect_header_sequence :
    HasHeader "---\ntitle: Order\n---\n%% Person(a) asks\nSequenceDiagram\nA->>B: Person(a)" .sequence
      ∧ DiagramKind.detect "---\ntitle: Order\n---\n%% Person(a) asks\nSequenceDiagram\nA->>B: Person(a)" none
        (some .mermaid) = .sequence := by
  have hfront : Preamble ("---".toList :: (["title: Order".toList] ++ "---".toList :: ["%% Person(a) asks".toList])) :=
    .frontMatter (by decide +kernel) (by decide +kernel) (by decide +kernel) (.skip (.inr (by decide +kernel)) .nil)
  have hline : IsHeader "SequenceDiagram" .sequence :=
    ⟨[], "SequenceDiagram", [], "sequencediagram", rfl, rfl, by simp, by decide +kernel, by decide +kernel⟩
  have h : HasHeader "---\ntitle: Order\n---\n%% Person(a) asks\nSequenceDiagram\nA->>B: Person(a)" .sequence :=
    ⟨_, "SequenceDiagram", ["A->>B: Person(a)"], by decide +kernel, hfront, hline⟩
  exact ⟨h, (detect_header h).trans (if_neg (by decide +kernel))⟩

/-- A message can hold a sign of C4. -/
theorem detect_header_c4 : ¬ ∀ (source : Text) (kind : DiagramKind), HasHeader source kind →
    DiagramKind.detect source none (some .mermaid) = kind := by
  intro h
  have hline : IsHeader "sequenceDiagram" .sequence :=
    ⟨[], "sequenceDiagram", [], "sequencediagram", rfl, rfl, by simp, by decide +kernel, by decide +kernel⟩
  have hkind := h "sequenceDiagram\nA->>B: see c4_context" .sequence
    ⟨[], "sequenceDiagram", ["A->>B: see c4_context"], by decide +kernel, .nil, hline⟩
  exact absurd hkind (by decide +kernel)

end DiagramProse
