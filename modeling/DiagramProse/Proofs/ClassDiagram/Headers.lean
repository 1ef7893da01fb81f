import DiagramProse.Proofs.ClassDiagram.Lines
import DiagramProse.Proofs.ClassDiagram.MemberForms
import DiagramProse.Proofs.Text.Fields

/-!
Declarations on one line without a body: what stands behind the name of the class, and the parents that are read
there. The words behind `extends` and `implements` are taken apart at commas, so that blanks and commas separate
parents alike (`readClauses_clauses`).
-/

namespace DiagramProse

open Text

/-! ## Parents -/

/-- What separates the parents of a class. -/
def isParentGap (c : Char) : Bool := isBlank c || c == ','

theorem not_gap_of_isPlainName {s : Text} (h : isPlainName s = true) : ∀ c ∈ s, isParentGap c = false := by
  intro c hc
  have hcomma : c ≠ ',' := fun e => not_mem_of_isPlainName h (by decide) (e ▸ hc)
  simp [isParentGap, not_blank_of_isPlainName h c hc, hcomma]

/-- Parents are found in the words, between the commas. -/
theorem flatMap_words (t : Text) : (words t).flatMap (fields (· == ',')) = fields isParentGap t :=
  flatMap_fields isBlank (· == ',') t

/-- The words that lists of parents begin with. -/
def clauseWords : List Text := ["extends", "implements"]

theorem readClauses_extends (kind : Option RelationKind) (ws : List Text) :
    readClauses kind ("extends" :: ws) = readClauses (some .inheritance) ws := by
  rw [readClauses.eq_def]
  exact if_pos rfl

theorem readClauses_implements (kind : Option RelationKind) (ws : List Text) :
    readClauses kind ("implements" :: ws) = readClauses (some .implementation) ws := by
  rw [readClauses.eq_def]
  exact (if_neg (by decide)).trans (if_pos rfl)

theorem readClauses_parent {w : Text} (h : w ∉ clauseWords) (k : RelationKind) (ws : List Text) :
    readClauses (some k) (w :: ws) = ((readClauses (some k) ws).1,
      (fields (· == ',') w).map (·, k) ++ (readClauses (some k) ws).2) := by
  simp only [clauseWords, List.mem_cons, List.not_mem_nil, or_false, not_or] at h
  rw [readClauses, if_neg h.1, if_neg h.2]
  rfl

/-- In a list of parents nothing but another list is looked for. -/
theorem readClauses_some_fst (k : RelationKind) (ws : List Text) : (readClauses (some k) ws).1 = none := by
  induction ws generalizing k with
  | nil => rfl
  | cons w ws ih =>
    by_cases h : w ∈ clauseWords
    · simp only [clauseWords, List.mem_cons, List.not_mem_nil, or_false] at h
      rcases h with rfl | rfl
      · rw [readClauses_extends]
        exact ih _
      · rw [readClauses_implements]
        exact ih _
    · rw [readClauses_parent h]
      exact ih k

theorem readClauses_append {ws : List Text} (h : ∀ w ∈ ws, w ∉ clauseWords) (k : RelationKind) (rest : List Text) :
    readClauses (some k) (ws ++ rest) = ((readClauses (some k) rest).1,
      (ws.flatMap (fields (· == ','))).map (·, k) ++ (readClauses (some k) rest).2) := by
  induction ws with
  | nil => rfl
  | cons w ws ih =>
    obtain ⟨hw, hws⟩ := List.forall_mem_cons.1 h
    rw [List.cons_append, readClauses_parent hw, ih hws, List.flatMap_cons, List.map_append, List.append_assoc]

/-- The names of parents are what stands between commas in the other words. -/
theorem names_readClauses (k : RelationKind) (ws : List Text) :
    (readClauses (some k) ws).2.map Prod.fst = (ws.filter (· ∉ clauseWords)).flatMap (fields (· == ',')) := by
  induction ws generalizing k with
  | nil => rfl
  | cons w ws ih =>
    by_cases h : w ∈ clauseWords
    · rw [List.filter_cons_of_neg (by simpa using h)]
      simp only [clauseWords, List.mem_cons, List.not_mem_nil, or_false] at h
      rcases h with rfl | rfl
      · rw [readClauses_extends]
        exact ih _
      · rw [readClauses_implements]
        exact ih _
    · rw [List.filter_cons_of_pos (by simpa using h), readClauses_parent h, List.map_append, List.map_map, ih,
        List.flatMap_cons]
      exact congrArg (· ++ _) (List.map_id _)

/-! ## Clauses -/

/-- A list of parents behind its word. -/
def clause (word : Text) (parents : Option Text) : Text :=
  match parents with
  | some t => ' ' :: word ++ ' ' :: t
  | none => []

/-- The lists of parents of a declaration. -/
def clauses (extended implemented : Option Text) : Text :=
  clause "extends" extended ++ clause "implements" implemented

theorem clause_head {word : Text} (parents : Option Text) : ∀ c ∈ (clause word parents).head?, c = ' ' := by
  cases parents with
  | none => simp [clause]
  | some t => simp [clause]

theorem clauses_head (extended implemented : Option Text) : ∀ c ∈ (clauses extended implemented).head?, c = ' ' := by
  cases extended with
  | none => exact clause_head implemented
  | some t => simp [clauses, clause]

theorem words_clause {word : Text} (hne : word ≠ []) (hword : ∀ c ∈ word, isBlank c = false) (parents : Option Text) :
    words (clause word parents) = (parents.map fun t => word :: words t).getD [] := by
  cases parents with
  | none => rfl
  | some t =>
    have hself : words word = [word] := words_of_forall hne hword
    rw [clause, List.cons_append, words_eq_fields, fields_cons rfl, fields_append_cons rfl, ← words_eq_fields, hself]
    rfl

theorem words_clauses (extended implemented : Option Text) : words (clauses extended implemented) =
    (extended.map fun t => "extends".toList :: words t).getD [] ++
      (implemented.map fun t => "implements".toList :: words t).getD [] := by
  have hblank : ∀ c ∈ (clause "implements" implemented).head?, isBlank c = true := fun c hc => by
    rw [clause_head implemented c hc]
    rfl
  rw [clauses, words_append hblank, words_clause (by decide) (by decide), words_clause (by decide) (by decide)]

/-- No other name is given to the class in the lists of its parents. -/
theorem readClauses_clauses_fst (extended implemented : Option Text) :
    (readClauses none (words (clauses extended implemented))).1 = none := by
  rw [words_clauses]
  cases extended with
  | some t => exact readClauses_extends none _ ▸ readClauses_some_fst .inheritance _
  | none =>
    cases implemented with
    | some t => exact readClauses_implements none _ ▸ readClauses_some_fst .implementation _
    | none => rfl

theorem names_clauses (extended implemented : Option Text) :
    (readClauses none (words (clauses extended implemented))).2.map Prod.fst =
      ((words (clauses extended implemented)).filter (· ∉ clauseWords)).flatMap (fields (· == ',')) := by
  rw [words_clauses]
  cases extended with
  | some t =>
    rw [Option.map_some, Option.getD_some, List.cons_append, readClauses_extends, names_readClauses,
      List.filter_cons_of_neg (by decide)]
  | none =>
    cases implemented with
    | some t =>
      rw [Option.map_none, Option.getD_none, List.nil_append, Option.map_some, Option.getD_some, readClauses_implements,
        names_readClauses, List.filter_cons_of_neg (by decide)]
    | none => rfl

/-- Angle brackets in the lists of parents are in the names of parents. -/
theorem angle_mem_parents (extended implemented : Option Text) :
    (∃ p ∈ (readClauses none (words (clauses extended implemented))).2, '<' ∈ p.1) ↔
      '<' ∈ clauses extended implemented := by
  have hwords : ∀ w ∈ clauseWords, '<' ∉ w := by decide
  calc (∃ p ∈ (readClauses none (words (clauses extended implemented))).2, '<' ∈ p.1)
      ↔ ∃ name ∈ (readClauses none (words (clauses extended implemented))).2.map Prod.fst, '<' ∈ name := by simp
    _ ↔ ∃ w ∈ (words (clauses extended implemented)).filter (· ∉ clauseWords), ∃ name ∈ fields (· == ',') w,
          '<' ∈ name := by
        rw [names_clauses]
        simp only [List.mem_flatMap]
        tauto
    _ ↔ ∃ w ∈ words (clauses extended implemented), '<' ∈ w := by
        simp only [exists_mem_fields (f := (· == ',')) (by decide : ('<' == ',') = false), List.mem_filter,
          decide_eq_true_eq]
        exact ⟨fun ⟨w, hw, hangle⟩ => ⟨w, hw.1, hangle⟩, fun ⟨w, hw, hangle⟩ => ⟨w, ⟨hw, fun hm => hwords w hm hangle⟩, hangle⟩⟩
    _ ↔ '<' ∈ clauses extended implemented := exists_mem_fields (by decide)

/-- If no parent is called like the word of a list, that word is not in the list. -/
theorem word_not_mem_clauseWords {t : Text} (h : ∀ p ∈ fields isParentGap t, p ∉ clauseWords) :
    ∀ w ∈ words t, w ∉ clauseWords := by
  intro w hw hm
  have hself : ∀ w ∈ clauseWords, fields (· == ',') w = [w] := by decide
  have hparent : w ∈ (words t).flatMap (fields (· == ',')) :=
    List.mem_flatMap.2 ⟨w, hw, by rw [hself w hm]; exact List.mem_singleton_self w⟩
  rw [flatMap_words] at hparent
  exact h w hparent hm

/-- Parents are what stands between blanks and commas. -/
theorem readClauses_clauses {extended implemented : Option Text}
    (he : ∀ t ∈ extended, ∀ p ∈ fields isParentGap t, p ∉ clauseWords)
    (hi : ∀ t ∈ implemented, ∀ p ∈ fields isParentGap t, p ∉ clauseWords) :
    (readClauses none (words (clauses extended implemented))).2 =
      (extended.toList.flatMap (fields isParentGap)).map (·, RelationKind.inheritance) ++
        (implemented.toList.flatMap (fields isParentGap)).map (·, RelationKind.implementation) := by
  have hlast : ∀ kind, (readClauses kind ((implemented.map fun t => "implements".toList :: words t).getD [])).2 =
      (implemented.toList.flatMap (fields isParentGap)).map (·, RelationKind.implementation) := by
    intro kind
    cases implemented with
    | none => cases kind <;> rfl
    | some t =>
      have hparents := readClauses_append (word_not_mem_clauseWords (hi t rfl)) .implementation []
      rw [List.append_nil, flatMap_words] at hparents
      rw [Option.map_some, Option.getD_some, readClauses_implements, hparents, Option.toList_some, List.flatMap_singleton]
      exact List.append_nil _
  rw [words_clauses]
  cases extended with
  | none => exact hlast none
  | some t =>
    rw [Option.map_some, Option.getD_some, List.cons_append, readClauses_extends,
      readClauses_append (word_not_mem_clauseWords (he t rfl)), hlast, flatMap_words, Option.toList_some, List.flatMap_singleton]

/-! ## Headers -/

/-- What names and lists of them are written with. -/
def isListChar (c : Char) : Bool := isNameChar c || c == ' ' || c == ','

/-- What a declaration with generic arguments and a stereotype is written with. -/
def isHeaderChar (c : Char) : Bool := isListChar c || c == '<' || c == '>'

theorem isListChar_of_isPlainName {s : Text} (h : isPlainName s = true) : s.all isListChar = true :=
  List.all_eq_true.2 fun c hc => by simp [isListChar, isNameChar_of_isPlainName h c hc]

theorem isHeaderChar_of_isListChar {s : Text} (h : s.all isListChar = true) : s.all isHeaderChar = true :=
  List.all_eq_true.2 fun c hc => by simp [isHeaderChar, List.all_eq_true.1 h c hc]

/-- Lists of parents are written with the characters of the parents and of the words in front of them. -/
theorem clauses_all {f : Char → Bool} (hwords : List.all " extends implements".toList f = true)
    {extended implemented : Option Text} (he : ∀ t ∈ extended, t.all f = true) (hi : ∀ t ∈ implemented, t.all f = true) :
    (clauses extended implemented).all f = true := by
  have hclause : ∀ {word : Text} {parents : Option Text}, word ⊆ " extends implements".toList →
      (∀ t ∈ parents, t.all f = true) → (clause word parents).all f = true := by
    intro word parents hword hparents
    have hmem := List.all_eq_true.1 hwords
    cases parents with
    | none => rfl
    | some t =>
      have hspace : f ' ' = true := hmem ' ' (by decide)
      have hself : word.all f = true := List.all_eq_true.2 fun c hc => hmem c (hword hc)
      rw [clause, List.all_append, List.all_cons, List.all_cons, hspace, hself, hparents t rfl]
      rfl
  rw [clauses, List.all_append, hclause (by decide) he, hclause (by decide) hi]
  rfl

/-- Behind a name that is tight, lists of parents are, if the parents end with no blank. -/
theorem tight_append_clauses {s : Text} (hs : Tight s) (hne : s ≠ []) {extended implemented : Option Text}
    (he : ∀ t ∈ extended, t ≠ [] ∧ ∀ c ∈ t.getLast?, isBlank c = false)
    (hi : ∀ t ∈ implemented, t ≠ [] ∧ ∀ c ∈ t.getLast?, isBlank c = false) :
    Tight (s ++ clauses extended implemented) := by
  have hclause : ∀ {s word : Text} {parents : Option Text}, Tight s → s ≠ [] →
      (∀ t ∈ parents, t ≠ [] ∧ ∀ c ∈ t.getLast?, isBlank c = false) → Tight (s ++ clause word parents) := by
    intro s word parents hs hne hparents
    cases parents with
    | none => rwa [clause, List.append_nil]
    | some t =>
      obtain ⟨ht, hlast⟩ := hparents t rfl
      have hend : s ++ clause word (some t) = s ++ ' ' :: (word ++ [' ']) ++ t := by simp [clause]
      rw [hend]
      refine ⟨?_, fun c hc => hlast c ?_⟩
      · rw [List.append_assoc, List.head?_append_of_ne_nil _ hne]
        exact hs.head
      · rwa [List.getLast?_append_of_ne_nil _ ht] at hc
  rw [clauses, ← List.append_assoc]
  exact hclause (hclause hs hne he) (by simp [hne]) hi

theorem splitName?_append {name rest : Text} (hname : isPlainName name = true)
    (hrest : ∀ c ∈ rest.head?, c = ' ' ∨ c = '<') : splitName? (name ++ rest) = some (name, skipGeneric rest) := by
  have hin : ∀ c ∈ name, (!(isBlank c || c == '<' || c == '~')) = true := by
    intro c hc
    have hl : c ≠ '<' := fun e => not_mem_of_isPlainName hname (by decide) (e ▸ hc)
    have ht : c ≠ '~' := fun e => not_mem_of_isPlainName hname (by decide) (e ▸ hc)
    simp [not_blank_of_isPlainName hname c hc, hl, ht]
  have hout : rest.takeWhile (fun c => !(isBlank c || c == '<' || c == '~')) = [] := by
    cases rest with
    | nil => rfl
    | cons c rest => rcases hrest c rfl with rfl | rfl <;> rfl
  have htake : (name ++ rest).takeWhile (fun c => !(isBlank c || c == '<' || c == '~')) = name := by
    rw [List.takeWhile_append_of_pos hin, hout, List.append_nil]
  unfold splitName?
  split
  · next s hs =>
    obtain ⟨c, t, rfl⟩ := List.exists_cons_of_ne_nil (ne_nil_of_isPlainName hname)
    obtain ⟨rfl, -⟩ := List.cons.inj hs
    exact absurd List.mem_cons_self (not_mem_of_isPlainName hname (by decide))
  · simp only [htake, List.drop_left]

theorem skipGeneric_of_space {s : Text} (h : ∀ c ∈ s.head?, c = ' ') : skipGeneric s = trim s := by
  cases s with
  | nil => rfl
  | cons c s =>
    obtain rfl : c = ' ' := h c rfl
    rfl

/-- What is read of a declaration without a body whose name is plain, from what is made of its parts. -/
theorem ClassDeclaration.read?_header {rest left name after : Text} {given : Option Stereotype}
    (hrest : Tight rest) (hchars : rest.all isHeaderChar = true) (hgiven : splitStereotype rest = (given, left))
    (hleft : left.all isHeaderChar = true) (hname : isPlainName name = true)
    (hsplit : splitName? (trim left) = some (name, after)) (hother : (readClauses none (words after)).1 = none) :
    ClassDeclaration.read? ("class " ++ rest) =
      some ⟨name, given, (readClauses none (words after)).2, false, []⟩ := by
  have hbody : splitBody rest = (rest, false, []) :=
    splitBody_plain (not_mem_of_all hchars (by decide)) (not_mem_of_all hchars (by decide))
  have hcolons : upTo ":::" left = left :=
    upTo_of_not_contains (not_contains (d := ':') (by decide) (not_mem_of_all hleft (by decide)))
  have hbracket : upTo ['['] left = left :=
    upTo_of_not_contains (not_contains (d := '[') (by decide) (not_mem_of_all hleft (by decide)))
  have htrim : trim name = name := trim_eq_self (tight_of_not_blank (not_blank_of_isPlainName hname))
  rw [ClassDeclaration.read?]
  refine Option.bind_eq_some_iff.2 ⟨(rest, none), ?_, ?_⟩
  · simp [classKeywords, List.findSome?, dropPrefix?, trim_eq_self hrest]
  simp only [Option.bind_eq_bind, Option.bind_some, hbody, hgiven, hcolons, hbracket, hsplit, hother]
  simp [htrim, isClassName_of_isPlainName hname, ne_nil_of_isPlainName hname]

end DiagramProse
