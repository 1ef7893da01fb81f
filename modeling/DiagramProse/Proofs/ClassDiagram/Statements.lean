import DiagramProse.Proofs.ClassDiagram.Relations
import Mathlib.Data.List.TakeWhile

/-!
What the lines of a written diagram say: each of them passes the readers that are asked before its own.
-/

namespace DiagramProse

open Text

/-! ## Names of classes -/

theorem isPlainName_of_isCapitalised {s : Text} (h : isCapitalised s = true) : isPlainName s = true := by
  simp only [isCapitalised, Bool.and_eq_true, List.all_eq_true] at h
  simp only [isPlainName, Bool.and_eq_true, List.all_eq_true]
  refine ⟨?_, fun c hc => (isNameChar_of_isAsciiNameChar (h.2 c hc)).1⟩
  cases s with
  | nil => simp at h
  | cons c s => rfl

/-- A capitalised name begins with a letter in upper case, as no word of a diagram does. -/
theorem head_of_isCapitalised {s : Text} (h : isCapitalised s = true) :
    ∃ c t, s = c :: t ∧ c.isUpper = true := by
  simp only [isCapitalised, Bool.and_eq_true] at h
  cases s with
  | nil => simp at h
  | cons c t => exact ⟨c, t, rfl, by simpa using h.1⟩

/-! ## Relations -/

/-- How the words for notes, groups and declarations begin, and how markings do. -/
def wordHeads : List Char := ['n', 'p', 't', 'a', 'c', 'i', 'e', '<']

/-- A line that begins otherwise is a relation, or else a member. -/
theorem ClassStatement.read_wordless {c : Char} {s : Text} (hc : c ∉ wordHeads) :
    ClassStatement.read (c :: s) = ((Relation.read? (c :: s)).map relation <|>
      (readOneLineMember? (c :: s)).map fun (name, text) => member name text).getD other := by
  simp only [wordHeads, List.mem_cons, List.not_mem_nil, or_false, not_or] at hc
  obtain ⟨hn, hp, ht, ha, hc, hi, he, hangle⟩ := hc
  have hnote : readClassNote? (c :: s) = none := by
    simp [readClassNote?, dropPrefix?, hn]
  have hnote' : startsWith (c :: s) "note " = false := by
    simp [startsWith, List.isPrefixOf_cons_cons, Ne.symm hn]
  have hgroup : readGroup? (c :: s) = none := by
    simp [readGroup?, List.findSome?, dropPrefix?, hp, hn, ht]
  have hdecl : ClassDeclaration.read? (c :: s) = none := by
    simp [ClassDeclaration.read?, classKeywords, List.findSome?, dropPrefix?, ha, hc, hi, he]
  have hmarking : readMarking? (c :: s) = none := by
    simp [readMarking?, dropPrefix?, hangle]
  rw [ClassStatement.read, hnote, hnote', hgroup, hdecl, hmarking]
  rfl

/-- A line that begins with a capital letter and that reads as a relation is one. -/
theorem ClassStatement.read_relation {c : Char} {s : Text} {r : Relation} (hc : c.isUpper = true)
    (h : Relation.read? (c :: s) = some r) : ClassStatement.read (c :: s) = .relation r := by
  have hheads : ∀ d ∈ wordHeads, d.isUpper = false := by decide
  have hc : c ∉ wordHeads := by
    intro hm
    rw [hheads c hm] at hc
    cases hc
  rw [ClassStatement.read_wordless hc, h]
  rfl

/-! ## Declarations -/

theorem splitStereotype_of_not_mem {s : Text} (h : '<' ∉ s) : splitStereotype s = (none, s) := by
  rw [splitStereotype, cut?_eq_none (d := '<') (by decide) h]

theorem upTo_of_not_contains {p s : Text} (h : contains s p = false) : upTo p s = s := by
  rw [contains, Option.isSome_eq_false_iff, Option.isNone_iff_eq_none] at h
  rw [upTo, h]
  rfl

/-- What is read of a declaration: the name up to three colons, with nothing behind it but a body. -/
theorem ClassDeclaration.read?_class {rest name label : Text} {opens : Bool} {texts : List Text} (hrest : Tight rest)
    (hbody : splitBody rest = (name, opens, texts)) (hname : '<' ∉ name) (hcolons : upTo ":::" name = label)
    (h : isClassName label = true) :
    ClassDeclaration.read? ("class " ++ rest) = some ⟨label, none, [], opens, texts⟩ := by
  have hblank := not_blank_of_isClassName h
  have hne := ne_nil_of_isClassName h
  have hquote : '"' ∉ label := not_mem_of_isClassName h (by decide)
  have hangle : '<' ∉ label := not_mem_of_isClassName h (by decide)
  have htilde : '~' ∉ label := not_mem_of_isClassName h (by decide)
  have hbracket : upTo ['['] label = label :=
    upTo_of_not_contains (not_contains (d := '[') (by decide) (not_mem_of_isClassName h (by decide)))
  have hsplit : splitName? label = some (label, []) := by
    have htake : label.takeWhile (fun c => !(isBlank c || c == '<' || c == '~')) = label := by
      refine List.takeWhile_eq_self_iff.2 fun c hc => ?_
      have hl : c ≠ '<' := fun e => hangle (e ▸ hc)
      have ht : c ≠ '~' := fun e => htilde (e ▸ hc)
      simp [hblank c hc, hl, ht]
    unfold splitName?
    split
    · simp at hquote
    · simp only [htake, List.drop_length]
      rfl
  rw [ClassDeclaration.read?]
  refine Option.bind_eq_some_iff.2 ⟨(rest, none), ?_, ?_⟩
  · simp [classKeywords, List.findSome?, dropPrefix?, trim_eq_self hrest]
  simp only [Option.bind_eq_bind, Option.bind_some, hbody, splitStereotype_of_not_mem hname, hcolons, hbracket,
    trim_eq_self (tight_of_not_blank hblank), hsplit]
  simp [h, hne, readClauses, words, splitBy]

/-- A line with the keyword that reads as a declaration is one. -/
theorem ClassStatement.read_class {rest : Text} {d : ClassDeclaration}
    (h : ClassDeclaration.read? ("class " ++ rest) = some d) :
    ClassStatement.read ("class " ++ rest) = .declaration d := by
  have hnote : readClassNote? ("class " ++ rest) = none := by
    simp [readClassNote?, dropPrefix?]
  have hnote' : startsWith ("class " ++ rest) "note " = false := by
    simp [startsWith, List.isPrefixOf_cons_cons]
  have hgroup : readGroup? ("class " ++ rest) = none := by
    simp [readGroup?, List.findSome?, dropPrefix?]
  rw [ClassStatement.read, hnote, hnote', hgroup, h]
  rfl

theorem splitBody_open {name : Text} (ht : Tight name) : splitBody (name ++ " \x7b") = (name, true, []) := by
  have hsuffix : dropSuffix? (name ++ " \x7b") ['\x7b'] = some (name ++ [' ']) := by
    simp [dropSuffix?, dropPrefix?]
  rw [splitBody, hsuffix]
  simp [trim_append_space ht]

/-- A line that opens the body of a class. Three colons would end the name. -/
theorem ClassDeclaration.read?_line {name : Text} (h : isClassName name = true)
    (hcolons : contains name ":::" = false) :
    ClassDeclaration.read? ("class " ++ name ++ " \x7b") = some ⟨name, none, [], true, []⟩ := by
  have htight := tight_of_not_blank (not_blank_of_isClassName h)
  have hrest : Tight (name ++ " \x7b") := by
    have := tight_append (m := [' ']) htight (by decide : Tight ['\x7b']) (ne_nil_of_isClassName h) (by decide)
    simpa using this
  rw [List.append_assoc]
  exact ClassDeclaration.read?_class hrest (splitBody_open htight) (not_mem_of_isClassName h (by decide))
    (upTo_of_not_contains hcolons) h

theorem ClassStatement.read_declaration {name : Text} (h : isClassName name = true)
    (hcolons : contains name ":::" = false) :
    ClassStatement.read ("class " ++ name ++ " \x7b") = .declaration ⟨name, none, [], true, []⟩ := by
  have hread := ClassDeclaration.read?_line h hcolons
  rw [List.append_assoc] at hread ⊢
  exact ClassStatement.read_class hread

/-! ## Notes -/

/-- The name that a note is attached to ends at a space. -/
theorem noteTarget?_name {name : Text} (h : isCapitalised name = true) (rest : Text) :
    noteTarget? (name ++ ' ' :: rest) = some (name, ' ' :: rest) := by
  have hn := ne_nil_of_isPlainName (isPlainName_of_isCapitalised h)
  simp only [isCapitalised, Bool.and_eq_true, List.all_eq_true] at h
  have htake : (name ++ ' ' :: rest).takeWhile (fun c => isWordChar c || c == '.') = name := by
    have hspace : isWordChar ' ' = false := by decide +kernel
    rw [List.takeWhile_append_of_pos fun c hc => by simp [(isNameChar_of_isAsciiNameChar (h.2 c hc)).2],
      List.takeWhile_cons_of_neg (by simp [hspace]), List.append_nil]
  simp [noteTarget?, htake, hn]

theorem afterBlanks?_space {s : Text} (h : ∀ c ∈ s.head?, isBlank c = false) :
    afterBlanks? (' ' :: s) = some s := by
  rw [afterBlanks?, if_pos (by decide), trimStart, dropWhile_eq_self h]

theorem cleanNote_space (s : Text) : cleanNote (' ' :: s) = cleanNote s := by
  have hreplace : replace "\\n" [' '] (' ' :: s) = ' ' :: replace "\\n" [' '] s := by
    simp [replace, replace.go, List.isPrefixOf_cons_cons]
  have hwords : words (' ' :: replace "\\n" [' '] s) = words (replace "\\n" [' '] s) := by
    simp [words, splitBy, isBlank]
  rw [cleanNote, hreplace, squeeze, hwords]
  rfl

theorem head_not_blank {name : Text} (h : isCapitalised name = true) (rest : Text) :
    ∀ c ∈ (name ++ rest).head?, isBlank c = false := by
  have hid := isPlainName_of_isCapitalised h
  intro c hc
  rw [List.head?_append_of_ne_nil _ (ne_nil_of_isPlainName hid)] at hc
  exact not_blank_of_isPlainName hid c (List.mem_of_mem_head? hc)

/-- A note whose text is quoted. -/
theorem readClassNote?_quoted {name : Text} (h : isCapitalised name = true) (text : Text) :
    readClassNote? ("note for " ++ name ++ " \"" ++ text ++ "\"") = some (name, some (cleanNote text)) := by
  have hquoted : readQuotedNote? ("for " ++ name ++ " \"" ++ text ++ "\"") =
      some (name, some (cleanNote text)) := by
    have hfor : dropPrefix? ("for " ++ name ++ " \"" ++ text ++ "\"") "for" =
        some (' ' :: (name ++ ' ' :: ('"' :: (text ++ ['"'])))) := by simp [dropPrefix?]
    have hspace : afterBlanks? (' ' :: '"' :: (text ++ ['"'])) = some ('"' :: (text ++ ['"'])) :=
      afterBlanks?_space (by simp; decide)
    rw [readQuotedNote?, hfor]
    simp [afterBlanks?_space (head_not_blank h _), noteTarget?_name h, hspace, dropPrefix?, dropSuffix?]
  have hnote : dropPrefix? ("note for " ++ name ++ " \"" ++ text ++ "\"") "note" =
      some (' ' :: ("for " ++ name ++ " \"" ++ text ++ "\"")) := by simp [dropPrefix?]
  have hspace : afterBlanks? (' ' :: ("for " ++ name ++ " \"" ++ text ++ "\"")) =
      some ("for " ++ name ++ " \"" ++ text ++ "\"") := afterBlanks?_space (by simp; decide)
  rw [readClassNote?, hnote]
  simp only [Option.bind_eq_bind, Option.bind_some, hspace, hquoted]
  rfl

/-- A note on a side of its class. -/
theorem readClassNote?_beside {name : Text} (h : isCapitalised name = true) (side : NoteSide) (text : Text) :
    readClassNote? (side.opening name ++ text) = some (name, some (cleanNote text)) := by
  have hof : dropPrefix? ("of " ++ name ++ " :" ++ text) "of" =
      some (' ' :: (name ++ ' ' :: ':' :: text)) := by
    simp [dropPrefix?]
  have hspace : afterBlanks? (' ' :: ("of " ++ name ++ " :" ++ text)) = some ("of " ++ name ++ " :" ++ text) :=
    afterBlanks?_space (by simp; decide)
  have hside : List.findSome? (dropPrefix? (side.word ++ " of " ++ name ++ " :" ++ text))
      ["left", "right", "top", "bottom"] = some (' ' :: ("of " ++ name ++ " :" ++ text)) := by
    cases side <;> simp [NoteSide.word, List.findSome?, dropPrefix?]
  have hcolon : trimStart (' ' :: ':' :: text) = ':' :: text := by
    simp [trimStart, isBlank]
  have hplaced : readPlacedNote? (side.word ++ " of " ++ name ++ " :" ++ text) =
      some (name, some (cleanNote text)) := by
    rw [readPlacedNote?, hside]
    simp only [Option.bind_eq_bind, Option.bind_some, hspace, hof, afterBlanks?_space (head_not_blank h _),
      noteTarget?_name h, hcolon]
    rfl
  have hquoted : readQuotedNote? (side.word ++ " of " ++ name ++ " :" ++ text) = none := by
    cases side <;> simp [readQuotedNote?, NoteSide.word, dropPrefix?]
  have hnote : dropPrefix? (side.opening name ++ text) "note" =
      some (' ' :: (side.word ++ " of " ++ name ++ " :" ++ text)) := by simp [NoteSide.opening_eq, dropPrefix?]
  have hspace' : afterBlanks? (' ' :: (side.word ++ " of " ++ name ++ " :" ++ text)) =
      some (side.word ++ " of " ++ name ++ " :" ++ text) :=
    afterBlanks?_space (by cases side <;> simp [NoteSide.word] <;> decide)
  rw [readClassNote?, hnote]
  simp only [Option.bind_eq_bind, Option.bind_some, hspace', hquoted, hplaced]
  rfl

end DiagramProse
