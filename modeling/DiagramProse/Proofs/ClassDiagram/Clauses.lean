import DiagramProse.Proofs.ClassDiagram.Headers
import DiagramProse.Proofs.ClassDiagram.Readers

/-!
A class that is declared with its parents is read like one that is declared without them and then connected with each
of them by an arrow (`ClassDiagram.read_clauses`), whatever stands in front of the declaration and behind it.

The lines of the arrows are more than the one line of the declaration, so that remarks on what follows are on other
lines.
-/

namespace DiagramProse

open Text

/-! ## Classes with parents -/

/-- A name that begins with a capital letter, or with one of another alphabet. -/
def isClassIdentifier (s : Text) : Bool := s.head?.any beginsName && isPlainName s

/-- Commas and spaces, and one of them at least. -/
def isParentSeparator (s : Text) : Bool := !s.isEmpty && s.all fun c => c == ' ' || c == ','

/-- Parents in the order in which they are written, with what stands in front of each but the first. -/
structure ParentList where
  first : Text
  others : List (Text × Text)
deriving DecidableEq, Repr

namespace ParentList

def names (l : ParentList) : List Text := l.first :: l.others.map Prod.snd

def text (l : ParentList) : Text := l.first ++ l.others.flatMap fun (separator, name) => separator ++ name

def isWritable (l : ParentList) : Bool :=
  l.names.all isClassIdentifier && l.others.all fun (separator, _) => isParentSeparator separator

end ParentList

/-- A class, and the parents that it extends and implements. -/
structure Subclass where
  name : Text
  extended : Option ParentList
  implemented : Option ParentList
deriving DecidableEq, Repr

namespace Subclass

def isWritable (s : Subclass) : Bool :=
  isClassIdentifier s.name && s.extended.all ParentList.isWritable && s.implemented.all ParentList.isWritable

/-- The declaration of the class with its parents. -/
def line (s : Subclass) : Text :=
  "class " ++ s.name ++ clauses (s.extended.map ParentList.text) (s.implemented.map ParentList.text)

/-- The parents, with the kinds of the relations to them. -/
def parents (s : Subclass) : List (Text × RelationKind) :=
  (s.extended.toList.flatMap ParentList.names).map (·, RelationKind.inheritance) ++
    (s.implemented.toList.flatMap ParentList.names).map (·, RelationKind.implementation)

/-- An arrow to a parent. -/
def arrowLine (s : Subclass) : Text × RelationKind → Text
  | (parent, kind) => s.name ++ " " ++ kind.arrow false ++ " " ++ parent

/-- The declaration of the class without its parents, and an arrow to each of them. -/
def arrowLines (s : Subclass) : List Text := ("class " ++ s.name) :: s.parents.map s.arrowLine

def declaration (s : Subclass) : ClassDeclaration := ⟨s.name, none, s.parents, false, []⟩

/-- The relation to a parent. -/
def relation (s : Subclass) : Text × RelationKind → Relation
  | (parent, kind) => ⟨s.name, parent, kind, none, none, none, false⟩

end Subclass

/-! ## Names -/

theorem isPlainName_of_isClassIdentifier {s : Text} (h : isClassIdentifier s = true) : isPlainName s = true := by
  rw [isClassIdentifier, Bool.and_eq_true] at h
  exact h.2

theorem className_of_isClassIdentifier {s : Text} (h : isClassIdentifier s = true) : ClassName s := by
  have hfirst := h
  rw [isClassIdentifier, Bool.and_eq_true] at hfirst
  exact ⟨isClassName_of_isPlainName hfirst.2, hfirst.1⟩

theorem not_mem_clauseWords {s : Text} (h : isClassIdentifier s = true) : s ∉ clauseWords := by
  have hwords : ∀ w ∈ clauseWords, isClassIdentifier w = false := by decide +kernel
  intro hm
  rw [hwords s hm] at h
  cases h

theorem mem_separator {s : Text} (h : isParentSeparator s = true) : s ≠ [] ∧ ∀ c ∈ s, c = ' ' ∨ c = ',' := by
  simpa [isParentSeparator] using h

/-- An arrow between two names is a statement if the first of them is no word of a statement. -/
theorem Relation.read_names {left right arrow : Text} {sense : ArrowSense} (h : (arrow, sense) ∈ classArrows)
    (hl : isClassIdentifier left = true) (hr : isPlainName right = true) :
    let line := relationText left none arrow none right none
    Readable line line ∧ ClassStatement.read line =
      .relation (between ⟨left, none, none⟩ ⟨right, none, none⟩ none sense) := by
  intro line
  have hleft := isPlainName_of_isClassIdentifier hl
  have hread := @read?_relationText left right arrow sense none none h ⟨hleft, by simp⟩ ⟨hr, by simp⟩ none
  have htight : Tight line := by
    have := tight_append (m := " " ++ arrow ++ " ") (tight_of_not_blank (not_blank_of_isPlainName hleft))
      (tight_of_not_blank (not_blank_of_isPlainName hr)) (ne_nil_of_isPlainName hleft) (ne_nil_of_isPlainName hr)
    simpa [line, relationText, leftEnd, rightEnd, withColon] using this
  have hfeed : '\n' ∉ line := by
    have harrows : ∀ e ∈ classArrows, '\n' ∉ e.1 := by decide
    have harrow : '\n' ∉ arrow := harrows _ h
    have hleft : '\n' ∉ left := not_mem_of_isPlainName hleft (by decide)
    have hright : '\n' ∉ right := not_mem_of_isPlainName hr (by decide)
    simp [line, relationText, leftEnd, rightEnd, withColon, harrow, hleft, hright]
  obtain ⟨c, s, rfl, hskipped, hword, -⟩ := (className_of_isClassIdentifier hl).exists_cons
  obtain ⟨t, ht⟩ : ∃ t, line = c :: t := ⟨s ++ (" " ++ arrow ++ " " ++ right), by
    simp [line, relationText, leftEnd, rightEnd, withColon]⟩
  change Relation.read? line = _ at hread
  rw [ht] at htight hfeed hread ⊢
  refine ⟨readable_of_tight hskipped htight hfeed, ?_⟩
  rw [ClassStatement.read_wordless hword, hread]
  rfl

namespace ParentList

/-- What is known of a list of parents that can be written. -/
structure Written (l : ParentList) : Prop where
  fields : fields isParentGap l.text = l.names
  chars : l.text.all isListChar = true
  last : ∀ c ∈ l.text.getLast?, isBlank c = false

theorem text_cons (first separator name : Text) (others : List (Text × Text)) :
    text ⟨first, (separator, name) :: others⟩ = first ++ (separator ++ text ⟨name, others⟩) := by
  simp [text]

theorem mem_names {l : ParentList} (h : l.isWritable = true) {p : Text} (hp : p ∈ l.names) :
    isClassIdentifier p = true := by
  rw [isWritable, Bool.and_eq_true] at h
  exact List.all_eq_true.1 h.1 p hp

theorem text_ne_nil {l : ParentList} (h : l.isWritable = true) : l.text ≠ [] := by
  have hfirst := isPlainName_of_isClassIdentifier (mem_names h (p := l.first) List.mem_cons_self)
  simp [text, ne_nil_of_isPlainName hfirst]

theorem written {l : ParentList} (h : l.isWritable = true) : l.Written := by
  obtain ⟨first, others⟩ := l
  induction others generalizing first with
  | nil =>
    have hfirst : isClassIdentifier first = true := by simpa [isWritable, names] using h
    have hname := isPlainName_of_isClassIdentifier hfirst
    have htext : text ⟨first, []⟩ = first := by simp [text]
    refine ⟨?_, ?_, ?_⟩
    · rw [htext, fields_of_forall (ne_nil_of_isPlainName hname) (not_gap_of_isPlainName hname)]
      rfl
    · rw [htext]
      exact isListChar_of_isPlainName hname
    · rw [htext]
      exact (tight_of_not_blank (not_blank_of_isPlainName hname)).last
  | cons other others ih =>
    obtain ⟨separator, name⟩ := other
    simp only [isWritable, names, List.map_cons, List.all_cons, Bool.and_eq_true] at h
    obtain ⟨⟨hfirst, hname, hnames⟩, hseparator, hothers⟩ := h
    have hwritable : isWritable ⟨name, others⟩ = true := by
      simp only [isWritable, names, List.all_cons, Bool.and_eq_true]
      exact ⟨⟨hname, hnames⟩, hothers⟩
    have hrest := ih name hwritable
    have hplain := isPlainName_of_isClassIdentifier hfirst
    obtain ⟨hne, hchars⟩ := mem_separator hseparator
    have hgap : ∀ c ∈ separator, isParentGap c = true := fun c hc => by
      rcases hchars c hc with rfl | rfl <;> rfl
    have hhead : ∀ c ∈ (separator ++ text ⟨name, others⟩).head?, isParentGap c = true := by
      rw [List.head?_append_of_ne_nil _ hne]
      exact fun c hc => hgap c (List.mem_of_mem_head? hc)
    refine ⟨?_, ?_, ?_⟩
    · rw [text_cons, fields_append hhead, fields_separators_append hgap, hrest.fields,
        fields_of_forall (ne_nil_of_isPlainName hplain) (not_gap_of_isPlainName hplain)]
      rfl
    · have hlist : separator.all isListChar = true := List.all_eq_true.2 fun c hc => by
        rcases hchars c hc with rfl | rfl <;> decide
      rw [text_cons, List.all_append, List.all_append, isListChar_of_isPlainName hplain, hlist, hrest.chars]
      rfl
    · have hend : text ⟨name, others⟩ ≠ [] := text_ne_nil hwritable
      rw [text_cons, List.getLast?_append_of_ne_nil _ (by simp [hend]), List.getLast?_append_of_ne_nil _ hend]
      exact hrest.last

end ParentList

/-! ## The declaration -/

namespace Subclass

variable {s : Subclass}

/-- What stands behind the keyword. -/
def rest (s : Subclass) : Text :=
  s.name ++ clauses (s.extended.map ParentList.text) (s.implemented.map ParentList.text)

theorem line_eq (s : Subclass) : s.line = "class " ++ s.rest := List.append_assoc ..

/-- What is known of a declaration that can be written. -/
structure Written (s : Subclass) : Prop where
  name : isClassIdentifier s.name = true
  extended : ∀ l ∈ s.extended, l.isWritable = true
  implemented : ∀ l ∈ s.implemented, l.isWritable = true

theorem written {s : Subclass} (h : s.isWritable = true) : s.Written := by
  simp only [isWritable, Bool.and_eq_true, Option.all_eq_true] at h
  exact ⟨h.1.1, h.1.2, h.2⟩

namespace Written

variable {s : Subclass}

theorem isPlainName (h : s.Written) : DiagramProse.isPlainName s.name = true := isPlainName_of_isClassIdentifier h.name

theorem chars (h : s.Written) : s.rest.all isListChar = true := by
  have hclauses : (clauses (s.extended.map ParentList.text) (s.implemented.map ParentList.text)).all isListChar = true :=
    clauses_all (by decide) (Option.forall_mem_map.2 fun l hl => (ParentList.written (h.extended l hl)).chars)
      (Option.forall_mem_map.2 fun l hl => (ParentList.written (h.implemented l hl)).chars)
  rw [rest, List.all_append, isListChar_of_isPlainName h.isPlainName, hclauses]
  rfl

theorem tight (h : s.Written) : Tight s.rest := by
  have hlist : ∀ l : ParentList, l.isWritable = true → l.text ≠ [] ∧ ∀ c ∈ l.text.getLast?, isBlank c = false :=
    fun l hl => ⟨ParentList.text_ne_nil hl, (ParentList.written hl).last⟩
  exact tight_append_clauses (tight_of_not_blank (not_blank_of_isPlainName h.isPlainName))
    (ne_nil_of_isPlainName h.isPlainName) (Option.forall_mem_map.2 fun l hl => hlist l (h.extended l hl))
    (Option.forall_mem_map.2 fun l hl => hlist l (h.implemented l hl))

/-- The parents that are read are those that are written. -/
theorem parents (h : s.Written) :
    (readClauses none (words (clauses (s.extended.map ParentList.text) (s.implemented.map ParentList.text)))).2 =
      s.parents := by
  have hnames : ∀ {o : Option ParentList}, (∀ l ∈ o, l.isWritable = true) →
      ∀ t ∈ o.map ParentList.text, ∀ p ∈ fields isParentGap t, p ∉ clauseWords := fun ho =>
    Option.forall_mem_map.2 fun l hl p hp => by
      rw [(ParentList.written (ho l hl)).fields] at hp
      exact not_mem_clauseWords (ParentList.mem_names (ho l hl) hp)
  have hfields : ∀ {o : Option ParentList}, (∀ l ∈ o, l.isWritable = true) →
      (o.map ParentList.text).toList.flatMap (fields isParentGap) = o.toList.flatMap ParentList.names := by
    intro o ho
    rw [Option.toList_map, List.flatMap_map]
    exact List.flatMap_congr fun l hl => (ParentList.written (ho l (Option.mem_toList.1 hl))).fields
  rw [readClauses_clauses (hnames h.extended) (hnames h.implemented), hfields h.extended, hfields h.implemented]
  rfl

theorem read?_line (h : s.Written) : ClassDeclaration.read? s.line = some s.declaration := by
  have hangle : '<' ∉ s.rest := not_mem_of_all h.chars (by decide)
  have hchars := isHeaderChar_of_isListChar h.chars
  have hspace := clauses_head (s.extended.map ParentList.text) (s.implemented.map ParentList.text)
  have hsplit := splitName?_append h.isPlainName fun c hc => .inl (hspace c hc)
  rw [skipGeneric_of_space hspace, ← rest, ← trim_eq_self h.tight] at hsplit
  have hread := ClassDeclaration.read?_header h.tight hchars (splitStereotype_of_not_mem hangle) hchars h.isPlainName
    hsplit (by rw [words_trim]; exact readClauses_clauses_fst _ _)
  rw [line_eq, hread, words_trim, h.parents]
  rfl

theorem readable_line (h : s.Written) : Readable s.line s.line := by
  have hne : s.rest ≠ [] := by simp [rest, ne_nil_of_isPlainName h.isPlainName]
  rw [line_eq]
  exact classLine_readable h.tight hne (not_mem_of_all h.chars (by decide))

theorem withoutParents (h : s.Written) : Written ⟨s.name, none, none⟩ :=
  ⟨h.name, by simp, by simp⟩

/-! ### Arrows -/

theorem isPlainName_of_mem_parents (h : s.Written) {p : Text × RelationKind} (hp : p ∈ s.parents) :
    DiagramProse.isPlainName p.1 = true := by
  have hlist : ∀ {o : Option ParentList} {k : RelationKind}, (∀ l ∈ o, l.isWritable = true) →
      p ∈ (o.toList.flatMap ParentList.names).map (·, k) → DiagramProse.isPlainName p.1 = true := by
    intro o k ho hp
    obtain ⟨name, hname, rfl⟩ := List.mem_map.1 hp
    obtain ⟨l, hl, hname⟩ := List.mem_flatMap.1 hname
    exact isPlainName_of_isClassIdentifier (ParentList.mem_names (ho l (Option.mem_toList.1 hl)) hname)
  exact (List.mem_append.1 hp).elim (hlist h.extended) (hlist h.implemented)

theorem read_arrowLine (h : s.Written) {p : Text × RelationKind} (hp : p ∈ s.parents) :
    Readable (s.arrowLine p) (s.arrowLine p) ∧ ClassStatement.read (s.arrowLine p) = .relation (s.relation p) :=
  Relation.read_names (p.2.arrow_mem_classArrows false) h.name (h.isPlainName_of_mem_parents hp)

end Written

end Subclass

/-! ## Both ways to declare a class -/

/-- What a class with its parents changes. -/
def Subclass.changes (s : Subclass) : List ClassChange :=
  .stereotype s.name none :: s.parents.map fun p => .relation (s.relation p)

theorem Subclass.changes_declaration (s : Subclass) (dialect : Dialect) :
    s.declaration.changes dialect = s.changes := by
  simp [declaration, ClassDeclaration.changes, changes, relation]

namespace ClassReader

variable {s : Subclass} {r : ClassReader} {dialect : Dialect}

theorem step_subclass (h : s.Written) (hnote : r.note = none) (hblocks : ∀ other, r.blocks.head? ≠ some (.body other))
    (number : Nat) :
    r.step dialect number s.line = ⟨s.changes.foldl ClassDiagram.change r.diagram, r.blocks, none⟩ := by
  have hread : ClassStatement.read s.line = .declaration s.declaration := by
    have hdeclaration := h.read?_line
    rw [s.line_eq] at hdeclaration ⊢
    exact ClassStatement.read_class hdeclaration
  obtain ⟨d, blocks, note⟩ := r
  obtain rfl : note = none := hnote
  rw [step_statement h.readable_line rfl hblocks, hread, apply, ClassDiagram.declare_eq, s.changes_declaration]
  rfl

theorem run_arrows (h : s.Written) {ps : List (Text × RelationKind)} (hps : ∀ p ∈ ps, p ∈ s.parents)
    (hnote : r.note = none) (hblocks : ∀ other, r.blocks.head? ≠ some (.body other)) (number : Nat) :
    r.run dialect number (ps.map s.arrowLine) =
      ⟨(ps.map fun p => .relation (s.relation p)).foldl ClassDiagram.change r.diagram, r.blocks, none⟩ := by
  induction ps generalizing r number with
  | nil =>
    obtain ⟨d, blocks, note⟩ := r
    obtain rfl : note = none := hnote
    rfl
  | cons p ps ih =>
    obtain ⟨hp, hps⟩ := List.forall_mem_cons.1 hps
    obtain ⟨hreadable, hread⟩ := h.read_arrowLine hp
    rw [List.map_cons, run, step_statement hreadable hnote hblocks, hread]
    exact ih (r := r.apply dialect number (.relation (s.relation p))) hps hnote hblocks _

/-- The lines of the arrows change what the one line of the declaration changes. -/
theorem run_arrowLines (h : s.Written) (hnote : r.note = none)
    (hblocks : ∀ other, r.blocks.head? ≠ some (.body other)) (number number' : Nat) :
    r.run dialect number s.arrowLines = r.run dialect number' [s.line] := by
  have hclass : ("class " ++ s.name : Text) = Subclass.line ⟨s.name, none, none⟩ := (List.append_nil _).symm
  let named : ClassReader := ⟨r.diagram.change (.stereotype s.name none), r.blocks, none⟩
  have hnamed : r.step dialect number ("class " ++ s.name) = named := by
    rw [hclass, step_subclass h.withoutParents hnote hblocks]
    rfl
  rw [Subclass.arrowLines, run, hnamed, run_arrows (r := named) h (fun _ hp => hp) rfl hblocks, run,
    step_subclass h hnote hblocks]
  rfl

end ClassReader

namespace ClassDiagram

/-- Where neither a class body nor a note is open, a class with parents may be declared on one line, or with an arrow
to each of them. -/
theorem read_clauses (dialect : Dialect) (s : Subclass) (before after : List Text) (hs : s.isWritable = true)
    (hbefore : ∀ l ∈ before, '\n' ∉ l) (hafter : ∀ l ∈ after, '\n' ∉ l)
    (hnote : (ClassReader.start.run dialect 1 before).note = none)
    (hblocks : ∀ other, (ClassReader.start.run dialect 1 before).blocks.head? ≠ some (.body other)) :
    (read dialect (join "\n" (before ++ [s.line] ++ after))).Alike
      (read dialect (join "\n" (before ++ s.arrowLines ++ after))) := by
  have hwritten := Subclass.written hs
  have hline : ∀ l ∈ [s.line], '\n' ∉ l := by
    simpa using hwritten.readable_line.isLine.noLineFeed
  have harrows : ∀ l ∈ s.arrowLines, '\n' ∉ l := by
    have hname : '\n' ∉ s.name := not_mem_of_isPlainName hwritten.isPlainName (by decide)
    refine List.forall_mem_cons.2 ⟨by simp [hname], List.forall_mem_map.2 fun p hp => ?_⟩
    exact (hwritten.read_arrowLine hp).1.isLine.noLineFeed
  have hlines : ∀ {ls : List Text}, (∀ l ∈ ls, '\n' ∉ l) → ∀ l ∈ before ++ ls ++ after, '\n' ∉ l := by
    intro ls hls l hl
    rcases List.mem_append.1 hl with hl | hl
    · exact (List.mem_append.1 hl).elim (hbefore l) (hls l)
    · exact hafter l hl
  rw [read_join dialect (hlines hline), read_join dialect (hlines harrows)]
  refine ClassReader.Follows.finish ?_ _ _
  rw [ClassReader.run_append, ClassReader.run_append, ClassReader.run_append, ClassReader.run_append, 
    ClassReader.run_arrowLines hwritten hnote hblocks _ (1 + before.length)]
  exact (ClassReader.Follows.refl _).run after (.inl rfl)

/-- Within a group, with a parent that comes twice and the class among its parents. -/
theorem read_clauses_repeated :
    let s : Subclass := ⟨"A", some ⟨"B", [(",", "A"), (" , ", "B")]⟩, some ⟨"Q", []⟩⟩
    let before : List Text := ["package p \x7b"]
    let after : List Text := ["\x7d", "B --> C"]
    s.isWritable = true ∧ (∀ l ∈ before, '\n' ∉ l) ∧ (∀ l ∈ after, '\n' ∉ l) ∧
      ClassReader.start.run .mermaid 1 before = ⟨.empty, [.group "p"], none⟩ ∧
      s.line = "class A extends B,A , B implements Q" ∧
      s.arrowLines = ["class A", "A --|> B", "A --|> A", "A --|> B", "A ..|> Q"] ∧
      (read .mermaid (join "\n" (before ++ [s.line] ++ after))).Alike
        (read .mermaid (join "\n" (before ++ s.arrowLines ++ after))) ∧
      (read .mermaid (join "\n" (before ++ s.arrowLines ++ after))).classes.map Classifier.name = ["A", "B", "Q", "C"] := by
  intro s before after
  have hs : s.isWritable = true := by decide +kernel
  have hbefore : ClassReader.start.run .mermaid 1 before = ⟨.empty, [.group "p"], none⟩ := by decide +kernel
  refine ⟨hs, by decide, by decide, hbefore, by decide, by decide, ?_, by decide +kernel⟩
  refine read_clauses .mermaid s before after hs (by decide) (by decide) (by rw [hbefore]) fun other => ?_
  rw [hbefore]
  exact fun h => nomatch h

end ClassDiagram

end DiagramProse
