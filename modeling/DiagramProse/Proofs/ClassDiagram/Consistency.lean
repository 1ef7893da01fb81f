import DiagramProse.Proofs.ClassDiagram.Changes
import DiagramProse.Proofs.ClassDiagram.Members
import Mathlib.Data.Option.Basic

/-!
A class diagram that was read is consistent, whatever the source (`ClassDiagram.read_isConsistent`): relations
run between classes of the diagram, classes have names and no two have the same, multiplicities are such, and
labels are not empty.

All of it comes from the lines. A line asks for sound changes only (`ClassReader.Named.step`), provided
that the open bodies belong to classes with names, which again is a matter of the lines that opened them.
-/

namespace DiagramProse

open Text

/-! ## Sound changes -/

/-- What holds of a relation on its own. -/
structure Relation.IsSound (r : Relation) : Prop where
  source : r.source ≠ []
  target : r.target ≠ []
  sourceMultiplicity : ∀ m ∈ r.sourceMultiplicity, isMultiplicity m = true
  targetMultiplicity : ∀ m ∈ r.targetMultiplicity, isMultiplicity m = true
  label : ∀ l ∈ r.label, l ≠ []

/-- A change that is about classes with names, and about a sound relation if about any. -/
def ClassChange.IsSound : ClassChange → Prop
  | stereotype name _ | member name _ => name ≠ []
  | relation r => r.IsSound
  | note _ | remark _ _ => True

theorem ClassChange.IsSound.name_ne_nil {c : ClassChange} (h : c.IsSound) : ∀ n ∈ c.names, n ≠ [] := by
  intro n hn
  cases c with
  | stereotype name s => exact (List.mem_singleton.1 hn) ▸ h
  | member name m => exact (List.mem_singleton.1 hn) ▸ h
  | relation r =>
    rcases List.mem_pair.1 hn with rfl | rfl
    · exact h.source
    · exact h.target
  | note n => cases hn
  | remark line problem => cases hn

/-! ## Relations -/

/-- What holds of each of two readings holds of the first that fits. -/
theorem forall_mem_orElse {α : Type} {P : α → Prop} {a b : Option α} (ha : ∀ x ∈ a, P x)
    (hb : ∀ x ∈ b, P x) : ∀ x ∈ (a <|> b), P x := by
  cases a with
  | none => exact hb
  | some x => exact ha

theorem of_getD {α : Type} {P : α → Prop} {o : Option α} {x : α} (ho : ∀ y ∈ o, P y) (hx : P x) :
    P (o.getD x) := by
  cases o with
  | none => exact hx
  | some y => exact ho y rfl

theorem nonempty?_ne_nil {s : Text} : ∀ l ∈ nonempty? s, l ≠ [] := by
  intro l hl
  unfold nonempty? at hl
  split at hl
  · cases hl
  · next h =>
    cases hl
    simpa using h

theorem label_splitLabel (text : Text) : ∀ l ∈ (splitLabel text).2, l ≠ [] := by
  unfold splitLabel
  rcases cutUnquotedColon? false text with _ | ⟨before, label⟩
  · simp
  · dsimp only
    exact nonempty?_ne_nil

/-- A quoted text becomes the multiplicity only if it is one, and the role only if there is any text. -/
theorem readQuoted_sound (quoted : List Text) :
    (∀ m ∈ (readQuoted quoted).1, isMultiplicity m = true) ∧ ∀ l ∈ (readQuoted quoted).2, l ≠ [] := by
  unfold readQuoted
  refine List.foldlRecOn (motive := fun found : Option Text × Option Text =>
    (∀ m ∈ found.1, isMultiplicity m = true) ∧ ∀ l ∈ found.2, l ≠ []) quoted _ ?_ ?_
  · simp
  · rintro ⟨multiplicity, role⟩ ⟨hmultiplicity, hrole⟩ s -
    dsimp only
    split
    · next hs =>
      rw [Bool.and_eq_true] at hs
      exact ⟨fun m hm => Option.some.inj hm ▸ hs.2, hrole⟩
    · split
      · next hs =>
        rw [Bool.and_eq_true] at hs
        exact ⟨hmultiplicity, fun l hl => Option.some.inj hl ▸ by simpa using hs.2⟩
      · exact ⟨hmultiplicity, hrole⟩

structure RelationEnd.IsSound (e : RelationEnd) : Prop where
  name : e.name ≠ []
  multiplicity : ∀ m ∈ e.multiplicity, isMultiplicity m = true
  role : ∀ l ∈ e.role, l ≠ []

theorem RelationEnd.read?_isSound {text : Text} {isLeft : Bool} {e : RelationEnd}
    (h : RelationEnd.read? text isLeft = some e) : e.IsSound := by
  unfold RelationEnd.read? at h
  obtain ⟨parts, -, h⟩ := Option.bind_eq_some_iff.1 h
  dsimp only at h
  split at h
  · obtain ⟨_, hname, h⟩ := Option.bind_eq_some_iff.1 h
    cases h
    have hname := ne_nil_of_isClassName ((Option.guard_eq_some' _).1 hname)
    exact ⟨hname, (readQuoted_sound _).1, (readQuoted_sound _).2⟩
  · cases h

theorem Relation.between_isSound {left right : RelationEnd} {label : Option Text} (hleft : left.IsSound)
    (hright : right.IsSound) (hlabel : ∀ l ∈ label, l ≠ []) (sense : ArrowSense) :
    (Relation.between left right label sense).IsSound := by
  unfold Relation.between
  cases sense.reverse with
  | true => exact ⟨hright.name, hleft.name, hright.multiplicity, hleft.multiplicity, hlabel⟩
  | false => exact ⟨hleft.name, hright.name, hleft.multiplicity, hright.multiplicity, hlabel⟩

theorem Relation.read?_isSound {line : Text} {r : Relation} (h : Relation.read? line = some r) : r.IsSound := by
  unfold Relation.read? at h
  obtain ⟨found, -, h⟩ := Option.bind_eq_some_iff.1 h
  obtain ⟨left, hleft, h⟩ := Option.bind_eq_some_iff.1 h
  obtain ⟨right, hright, h⟩ := Option.bind_eq_some_iff.1 h
  cases h
  have hleft := RelationEnd.read?_isSound hleft
  have hright := RelationEnd.read?_isSound hright
  have hlabel := forall_mem_orElse (label_splitLabel found.right) (forall_mem_orElse hleft.role hright.role)
  exact Relation.between_isSound hleft hright hlabel found.value

/-! ## Statements -/

/-- A declaration of a class with a name, whose parents have names. -/
structure ClassDeclaration.IsSound (d : ClassDeclaration) : Prop where
  name : d.name ≠ []
  parents : ∀ p ∈ d.parents, p.1 ≠ []

theorem parents_readClauses (kind : Option RelationKind) (words : List Text) :
    ∀ p ∈ (readClauses kind words).2, p.1 ≠ [] := by
  fun_induction readClauses kind words with
  | case1 => simp
  | case2 kind rest ih => exact ih
  | case3 kind rest _ ih => exact ih
  | case4 word rest _ _ k _ _ named _ ih =>
    -- what stands between the commas is a name unless it is empty
    intro p hp
    rcases List.mem_append.1 hp with hp | hp
    · obtain ⟨name, hname, rfl⟩ := List.mem_map.1 hp
      simpa using (List.mem_filter.1 hname).2
    · exact ih p hp
  | case5 => simp
  | case6 name rest other? parents hread _ _ ih =>
    rw [hread] at ih
    exact ih
  | case7 word rest _ _ _ ih => exact ih

theorem ClassDeclaration.read?_isSound {line : Text} {d : ClassDeclaration} (h : read? line = some d) :
    d.IsSound := by
  unfold read? at h
  obtain ⟨⟨rest, implied⟩, -, h⟩ := Option.bind_eq_some_iff.1 h
  dsimp only at h
  obtain ⟨⟨rawName, after⟩, -, h⟩ := Option.bind_eq_some_iff.1 h
  obtain ⟨_, hname, h⟩ := Option.bind_eq_some_iff.1 h
  cases h
  have hname := (Option.guard_eq_some' _).1 hname
  rw [Bool.and_eq_true] at hname
  exact ⟨by simpa using hname.2, parents_readClauses none _⟩

theorem readMarking?_named {line : Text} : ∀ p ∈ readMarking? line, p.2 ≠ [] := by
  intro p h
  unfold readMarking? at h
  obtain ⟨rest, -, h⟩ := Option.bind_eq_some_iff.1 h
  obtain ⟨⟨label, name⟩, -, h⟩ := Option.bind_eq_some_iff.1 h
  obtain ⟨_, hname, h⟩ := Option.bind_eq_some_iff.1 h
  cases h
  exact ne_nil_of_isClassName ((Option.guard_eq_some' _).1 hname)

theorem readOneLineMember?_named {line : Text} : ∀ p ∈ readOneLineMember? line, p.1 ≠ [] := by
  intro p h
  unfold readOneLineMember? at h
  obtain ⟨⟨name, member⟩, -, h⟩ := Option.bind_eq_some_iff.1 h
  obtain ⟨_, hname, h⟩ := Option.bind_eq_some_iff.1 h
  cases h
  have hname := (Option.guard_eq_some' _).1 hname
  rw [Bool.and_eq_true] at hname
  exact ne_nil_of_isClassName hname.1

/-- A statement about classes with names. -/
def ClassStatement.IsSound : ClassStatement → Prop
  | declaration d => d.IsSound
  | marking _ name | member name _ => name ≠ []
  | relation r => r.IsSound
  | note _ _ | openNote _ | openGroup _ | other => True

theorem ClassStatement.ofNote_isSound (n : Text × Option Text) : (ofNote n).IsSound := by
  rcases n with ⟨name, _ | text⟩ <;> trivial

/-- Whichever reading fits first, it is sound. -/
theorem ClassStatement.read_isSound (line : Text) : (ClassStatement.read line).IsSound := by
  unfold read
  refine of_getD ?_ trivial
  refine forall_mem_orElse (Option.forall_mem_map.2 fun n _ => ofNote_isSound n) ?_
  refine forall_mem_orElse (by split <;> simp [IsSound]) ?_
  refine forall_mem_orElse (Option.forall_mem_map.2 fun _ _ => trivial) ?_
  refine forall_mem_orElse (Option.forall_mem_map.2 fun _ => ClassDeclaration.read?_isSound) ?_
  refine forall_mem_orElse (Option.forall_mem_map.2 readMarking?_named) ?_
  refine forall_mem_orElse (Option.forall_mem_map.2 fun _ => Relation.read?_isSound) ?_
  exact Option.forall_mem_map.2 readOneLineMember?_named

theorem ClassStatement.IsSound.changes {s : ClassStatement} (h : s.IsSound) (dialect : Dialect) :
    ∀ c ∈ s.changes dialect, c.IsSound := by
  cases s with
  | note name text => exact List.forall_mem_singleton.2 trivial
  | marking label name => exact List.forall_mem_singleton.2 h
  | relation r => exact List.forall_mem_singleton.2 h
  | member name text => exact List.forall_mem_singleton.2 h
  | openNote | openGroup | other => simp [ClassStatement.changes]
  | declaration d =>
    intro c hc
    rcases List.mem_cons.1 hc with rfl | hc
    · exact h.name
    · rcases List.mem_append.1 hc with hc | hc
      · obtain ⟨p, hp, rfl⟩ := List.mem_map.1 hc
        exact ⟨h.name, h.parents p hp, by simp, by simp, by simp⟩
      · obtain ⟨text, -, rfl⟩ := List.mem_map.1 hc
        exact h.name

/-! ## Lines -/

namespace ClassReader

/-- The open bodies are of classes with names. -/
def Named (r : ClassReader) : Prop := ∀ name, .body name ∈ r.blocks → name ≠ []

variable {r : ClassReader} {dialect : Dialect}

theorem Named.apply (h : r.Named) {s : ClassStatement} (hs : s.IsSound) (number : Nat) :
    (r.apply dialect number s).Named := by
  intro name hname
  cases s with
  | openGroup group => exact h name ((List.mem_cons.1 hname).resolve_left (by simp))
  | declaration d =>
    simp only [ClassReader.apply] at hname
    split at hname
    · rcases List.mem_cons.1 hname with he | hname
      · cases he
        exact hs.name
      · exact h name hname
    · exact h name hname
  | _ => exact h name hname

theorem Named.noteLine (h : r.Named) (n : OpenClassNote) (line : Text) : (r.noteLine n line).Named := by
  unfold ClassReader.noteLine
  split
  · exact h
  · split <;> exact h

theorem Named.closeBlock (h : r.Named) (number : Nat) : (r.closeBlock number).Named := by
  obtain ⟨d, blocks, note⟩ := r
  cases blocks with
  | nil => exact h
  | cons block blocks => exact fun name hname => h name (List.mem_cons_of_mem _ hname)

theorem braceChanges_isSound (blocks : List ClassBlock) (number : Nat) :
    ∀ c ∈ braceChanges blocks number, c.IsSound := by
  unfold braceChanges
  split <;> simp [ClassChange.IsSound]

theorem noteChanges_isSound (n : OpenClassNote) (line : Text) : ∀ c ∈ noteChanges n line, c.IsSound := by
  unfold noteChanges
  split <;> simp [ClassChange.IsSound]

theorem bodyChange_isSound {name : Text} (h : name ≠ []) (line : Text) :
    (bodyChange dialect name line).IsSound := by
  unfold bodyChange
  split <;> exact h

/-- A line keeps names of open bodies from being empty, and asks for sound changes only. -/
theorem Named.step (h : r.Named) (number : Nat) (raw : Text) :
    (r.step dialect number raw).Named ∧ ∀ c ∈ r.changes dialect number raw, c.IsSound := by
  have hstatement := ClassStatement.read_isSound raw.trim
  refine step_changes (motive := fun r' cs => r'.Named ∧ ∀ c ∈ cs, c.IsSound) r dialect number raw
    ?note ?nothing ?brace ?body ?statement
  case note => exact fun n _ => ⟨h.noteLine n raw.trim, noteChanges_isSound n raw.trim⟩
  case nothing => exact ⟨h, by simp⟩
  case brace => exact ⟨h.closeBlock number, braceChanges_isSound r.blocks number⟩
  case body =>
    intro name hname
    exact ⟨h, List.forall_mem_singleton.2 (bodyChange_isSound (h name hname) raw.trim)⟩
  case statement => exact ⟨h.apply hstatement number, hstatement.changes dialect⟩

theorem changesBy_isSound (lines : List Text) (number : Nat) (h : r.Named) :
    ∀ c ∈ r.changesBy dialect number lines, c.IsSound := by
  induction lines generalizing number r with
  | nil => simp [changesBy]
  | cons line lines ih =>
    intro c hc
    rcases List.mem_append.1 hc with hc | hc
    · exact (h.step number line).2 c hc
    · exact ih (number + 1) (h.step number line).1 c hc

theorem remarks_isSound (r : ClassReader) (count : Nat) : ∀ c ∈ r.remarks count, c.IsSound := by
  intro c hc
  rcases List.mem_append.1 hc with hc | hc
  all_goals
    obtain ⟨_, -, rfl⟩ := List.mem_map.1 hc
    trivial

end ClassReader

/-! ## Diagrams -/

namespace ClassDiagram

theorem changes_isSound (dialect : Dialect) (source : Text) : ∀ c ∈ changes dialect source, c.IsSound := by
  have hstart : ClassReader.start.Named := by simp [ClassReader.Named, ClassReader.start]
  intro c hc
  rcases List.mem_append.1 hc with hc | hc
  · exact ClassReader.changesBy_isSound source.lines 1 hstart c hc
  · exact ClassReader.remarks_isSound _ _ c hc

/-- The relations of a diagram are those that the changes ask for. -/
theorem mem_relations_foldl_change {cs : List ClassChange} {d : ClassDiagram} {r : Relation}
    (h : r ∈ (cs.foldl change d).relations) : r ∈ d.relations ∨ .relation r ∈ cs := by
  induction cs generalizing d with
  | nil => exact .inl h
  | cons c cs ih =>
    rcases ih h with h | h
    · cases c with
      | relation q =>
        rcases List.mem_append.1 h with h | h
        · exact .inl h
        · exact .inr (List.mem_singleton.1 h ▸ List.mem_cons_self)
      | _ => exact .inl h
    · exact .inr (List.mem_cons_of_mem _ h)

structure IsConsistent (d : ClassDiagram) : Prop where
  named : [] ∉ d.names
  distinct : d.names.Nodup
  ends : ∀ r ∈ d.relations, r.source ∈ d.names ∧ r.target ∈ d.names
  multiplicities : ∀ r ∈ d.relations,
    (∀ m ∈ r.sourceMultiplicity, isMultiplicity m = true) ∧
      ∀ m ∈ r.targetMultiplicity, isMultiplicity m = true
  labels : ∀ r ∈ d.relations, ∀ l ∈ r.label, l ≠ []

/-- Whatever the source, the diagram is consistent, and its classes stand under the names that the lines ask
for, each once, in the order in which it is asked for first. -/
theorem read_isConsistent (dialect : Dialect) (source : Text) :
    (read dialect source).IsConsistent ∧
      (read dialect source).names = ((changes dialect source).flatMap ClassChange.names).eraseDups := by
  have hnames := names_read dialect source
  have hsound : ∀ r ∈ (read dialect source).relations,
      r.IsSound ∧ .relation r ∈ changes dialect source := by
    intro r hr
    rw [read_eq_foldl] at hr
    have hasked := (mem_relations_foldl_change hr).resolve_left (by simp [empty])
    exact ⟨changes_isSound dialect source _ hasked, hasked⟩
  have hmem : ∀ {n : Text}, n ∈ (read dialect source).names ↔
      ∃ c ∈ changes dialect source, n ∈ c.names := by
    intro n
    rw [hnames, List.mem_eraseDups, List.mem_flatMap]
  refine ⟨⟨?_, ?_, ?_, ?_, ?_⟩, hnames⟩
  · intro h
    obtain ⟨c, hc, hn⟩ := hmem.1 h
    exact (changes_isSound dialect source c hc).name_ne_nil [] hn rfl
  · exact hnames ▸ nodup_eraseDups _
  · intro r hr
    have hasked := (hsound r hr).2
    exact ⟨hmem.2 ⟨_, hasked, List.mem_pair.2 (.inl rfl)⟩, hmem.2 ⟨_, hasked, List.mem_pair.2 (.inr rfl)⟩⟩
  · exact fun r hr => ⟨(hsound r hr).1.sourceMultiplicity, (hsound r hr).1.targetMultiplicity⟩
  · exact fun r hr => (hsound r hr).1.label

end ClassDiagram

end DiagramProse
