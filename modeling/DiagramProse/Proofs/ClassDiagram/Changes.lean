import DiagramProse.ClassDiagram.Reading
import DiagramProse.Proofs.ClassDiagram.Notation
import DiagramProse.Proofs.Text.FirstOccurrences

/-!
Reading a class diagram is to make one change after the other to a diagram that is empty at first
(`ClassDiagram.read_eq_foldl`). Which changes the lines ask for depends on the open note and the open blocks
only (`ClassReader.changesBy`), so what is true of a diagram that was read can be shown by induction on a list
of changes.

Of the classes a change says which ones it is about (`ClassChange.names`): these are there afterwards, behind
those that were there before, under the names that they were asked for (`names_change`).
-/

namespace DiagramProse

open Text

/-- One change to a class diagram. Classes that are not there yet are added by the way: that of a stereotype
or member, even if there is none to be given, and both ends of a relation. -/
inductive ClassChange where
  | stereotype (className : Text) (given : Option Stereotype)
  | member (className : Text) (given : Option Member)
  | relation (r : Relation)
  | note (n : ClassNote)
  | remark (line : Nat) (problem : ClassProblem)
deriving DecidableEq, Repr

namespace ClassChange

/-- The classes that a change is about, in the order in which it asks for them. -/
def names : ClassChange → List Text
  | stereotype name _ | member name _ => [name]
  | relation r => [r.source, r.target]
  | note _ | remark _ _ => []

end ClassChange

def Classifier.addMember? (c : Classifier) (m : Option Member) : Classifier := (m.map c.addMember).getD c

def Classifier.giveStereotype (c : Classifier) (s : Option Stereotype) : Classifier :=
  { c with stereotype := s <|> c.stereotype }

def ClassDiagram.change (d : ClassDiagram) : ClassChange → ClassDiagram
  | .stereotype name s => d.alterClass name (·.giveStereotype s)
  | .member name m => d.alterClass name (·.addMember? m)
  | .relation r => d.addRelation r
  | .note n => d.addNote n.className n.text
  | .remark line problem => d.report line problem

/-! ## Changes that lines ask for -/

def ClassDeclaration.changes (dialect : Dialect) (d : ClassDeclaration) : List ClassChange :=
  .stereotype d.name d.stereotype ::
    (d.parents.map (fun (parent, kind) => .relation ⟨d.name, parent, kind, none, none, none, false⟩) ++
      d.inlineMembers.map fun text => .member d.name (Member.read? text dialect))

def ClassStatement.changes (dialect : Dialect) : ClassStatement → List ClassChange
  | note name text => [.note ⟨name, text⟩]
  | declaration d => d.changes dialect
  | marking label name => [.stereotype name (some (.ofLabel label))]
  | relation r => [.relation r]
  | member name text => [.member name (Member.read? text dialect)]
  | openNote _ | openGroup _ | other => []

namespace ClassReader

/-- What a line in the body of a class changes. -/
def bodyChange (dialect : Dialect) (className line : Text) : ClassChange :=
  match readStereotypeLine? line with
  | some label => .stereotype className (some (.ofLabel label))
  | none => .member className (Member.read? line dialect)

/-- What a line within a note changes: the note is there when it ends. -/
def noteChanges (n : OpenClassNote) (line : Text) : List ClassChange :=
  if isEndNote line then [.note ⟨n.className, join [' '] n.text⟩] else []

/-- What a closing brace changes. -/
def braceChanges (blocks : List ClassBlock) (number : Nat) : List ClassChange :=
  if blocks.isEmpty then [.remark number .strayBrace] else []

/-- What a line changes. -/
def changes (dialect : Dialect) (r : ClassReader) (number : Nat) (raw : Text) : List ClassChange :=
  let line := raw.trim
  match r.note with
  | some n => noteChanges n line
  | none =>
    if line.isEmpty || isComment line || isClassDirective line then []
    else if line.startsWith ['\x7d'] then braceChanges r.blocks number
    else
      match r.blocks with
      | .body name :: _ => [bodyChange dialect name line]
      | _ => (ClassStatement.read line).changes dialect

/-- What lines change, the first of which has the given number. -/
def changesBy (dialect : Dialect) : (number : Nat) → List Text → ClassReader → List ClassChange
  | _, [], _ => []
  | number, line :: rest, r =>
    r.changes dialect number line ++ changesBy dialect (number + 1) rest (r.step dialect number line)

/-- The remarks on what is open after `count` lines. -/
def remarks (r : ClassReader) (count : Nat) : List ClassChange :=
  r.note.toList.map (fun n => .remark n.line (.openNote n.className)) ++
    r.blocks.map fun block => .remark count block.problem

end ClassReader

/-- What a source changes in an empty diagram. -/
def ClassDiagram.changes (dialect : Dialect) (source : Text) : List ClassChange :=
  ClassReader.start.changesBy dialect 1 source.lines ++
    (ClassReader.start.run dialect 1 source.lines).remarks source.lines.length

/-! ## Reading makes these changes -/

theorem ClassDiagram.declare_eq (d : ClassDiagram) (decl : ClassDeclaration) (dialect : Dialect) :
    d.declare decl dialect = (decl.changes dialect).foldl change d := by
  simp only [declare, ClassDeclaration.changes, List.foldl_cons, List.foldl_append, List.foldl_map]
  rfl

namespace ClassReader

theorem bodyLine_eq (r : ClassReader) (dialect : Dialect) (name line : Text) :
    r.bodyLine dialect name line = { r with diagram := r.diagram.change (bodyChange dialect name line) } := by
  unfold bodyLine bodyChange
  cases readStereotypeLine? line <;> rfl

/-- What a line can do, and what it changes: it belongs to a note, or says nothing, or closes a block, or
stands in a body, or is a statement. -/
theorem step_changes {motive : ClassReader → List ClassChange → Prop} (r : ClassReader) (dialect : Dialect)
    (number : Nat) (raw : Text)
    (note : ∀ n, r.note = some n → motive (r.noteLine n raw.trim) (noteChanges n raw.trim))
    (nothing : motive r [])
    (brace : motive (r.closeBlock number) (braceChanges r.blocks number))
    (body : ∀ name, .body name ∈ r.blocks → motive
      { r with diagram := r.diagram.change (bodyChange dialect name raw.trim) } [bodyChange dialect name raw.trim])
    (statement : motive (r.apply dialect number (.read raw.trim)) ((ClassStatement.read raw.trim).changes dialect)) :
    motive (r.step dialect number raw) (r.changes dialect number raw) := by
  obtain ⟨d, blocks, open?⟩ := r
  unfold step changes
  cases open? with
  | some n => exact note n rfl
  | none =>
    dsimp only
    split
    · exact nothing
    · split
      · exact brace
      · -- only the body of a class keeps the line from being a statement
        rcases blocks with _ | ⟨name | name, blocks⟩
        · exact statement
        · have hbody := body name List.mem_cons_self
          rw [← bodyLine_eq] at hbody
          exact hbody
        · exact statement

theorem diagram_noteLine (r : ClassReader) (n : OpenClassNote) (line : Text) :
    (r.noteLine n line).diagram = (noteChanges n line).foldl ClassDiagram.change r.diagram := by
  unfold noteLine noteChanges
  split
  · rfl
  · split <;> rfl

theorem diagram_closeBlock (r : ClassReader) (number : Nat) :
    (r.closeBlock number).diagram = (braceChanges r.blocks number).foldl ClassDiagram.change r.diagram := by
  unfold closeBlock braceChanges
  cases r.blocks <;> rfl

theorem diagram_apply (r : ClassReader) (dialect : Dialect) (number : Nat) (s : ClassStatement) :
    (r.apply dialect number s).diagram = (s.changes dialect).foldl ClassDiagram.change r.diagram := by
  cases s with
  | declaration d => exact ClassDiagram.declare_eq r.diagram d dialect
  | _ => rfl

theorem diagram_step (r : ClassReader) (dialect : Dialect) (number : Nat) (raw : Text) :
    (r.step dialect number raw).diagram =
      (r.changes dialect number raw).foldl ClassDiagram.change r.diagram := by
  refine step_changes (motive := fun r' cs => r'.diagram = cs.foldl ClassDiagram.change r.diagram) r dialect
    number raw ?note ?nothing ?brace ?body ?statement
  case note => exact fun n _ => diagram_noteLine r n raw.trim
  case nothing => rfl
  case brace => exact diagram_closeBlock r number
  case body => exact fun name _ => rfl
  case statement => exact diagram_apply r dialect number _

theorem diagram_run (dialect : Dialect) (lines : List Text) (number : Nat) (r : ClassReader) :
    (r.run dialect number lines).diagram =
      (r.changesBy dialect number lines).foldl ClassDiagram.change r.diagram := by
  induction lines generalizing number r with
  | nil => rfl
  | cons line lines ih => rw [run, changesBy, List.foldl_append, ih, diagram_step]

theorem finish_eq (r : ClassReader) (count : Nat) :
    r.finish count = (r.remarks count).foldl ClassDiagram.change r.diagram := by
  unfold finish remarks
  rw [List.foldl_append, List.foldl_map]
  cases r.note <;> rfl

end ClassReader

theorem ClassDiagram.read_eq_foldl (dialect : Dialect) (source : Text) :
    read dialect source = (changes dialect source).foldl change .empty := by
  unfold read ofLines changes
  rw [ClassReader.finish_eq, ClassReader.diagram_run, List.foldl_append]
  rfl

/-! ## Names of classes -/

namespace Classifier

theorem name_addMember? (m : Option Member) (c : Classifier) : (c.addMember? m).name = c.name := by
  rcases m with _ | _ | _ <;> rfl

theorem name_giveStereotype (s : Option Stereotype) (c : Classifier) : (c.giveStereotype s).name = c.name := rfl

theorem names_alter {f : Classifier → Classifier} (hf : ∀ c, (f c).name = c.name) (name : Text)
    (cs : List Classifier) : (alter name f cs).map Classifier.name = addNew (cs.map Classifier.name) name := by
  induction cs with
  | nil => simp [alter, hf, ofName, addNew]
  | cons c cs ih =>
    unfold alter
    split
    · next h => rw [List.map_cons, hf, addNew_of_mem (by simp [h]), List.map_cons]
    · next h =>
      rw [List.map_cons, ih, List.map_cons]
      unfold addNew
      by_cases hmem : name ∈ cs.map Classifier.name <;> simp [hmem, Ne.symm h]

end Classifier

namespace ClassDiagram

theorem names_alterClass {f : Classifier → Classifier} (hf : ∀ c, (f c).name = c.name) (d : ClassDiagram)
    (name : Text) : (d.alterClass name f).names = addNew d.names name :=
  Classifier.names_alter hf name d.classes

theorem names_mention (d : ClassDiagram) (name : Text) : (d.mention name).names = addNew d.names name :=
  names_alterClass (f := id) (fun _ => rfl) d name

/-- The classes that a change is about are there, under the names they were asked for. -/
theorem names_change (d : ClassDiagram) (c : ClassChange) : (d.change c).names = c.names.foldl addNew d.names := by
  cases c with
  | stereotype name s => exact names_alterClass (Classifier.name_giveStereotype s) d name
  | member name m => exact names_alterClass (Classifier.name_addMember? m) d name
  | relation r =>
    show ((d.mention r.source).mention r.target).names = addNew (addNew d.names r.source) r.target
    rw [names_mention, names_mention]
  | _ => rfl

theorem names_foldl_change (cs : List ClassChange) (d : ClassDiagram) :
    (cs.foldl change d).names = (cs.flatMap ClassChange.names).foldl addNew d.names := by
  induction cs generalizing d with
  | nil => rfl
  | cons c cs ih => rw [List.foldl_cons, ih, names_change, List.flatMap_cons, List.foldl_append]

/-- Classes stand under the names that the source asks for, in the order in which it asks for them first. -/
theorem names_read (dialect : Dialect) (source : Text) :
    (read dialect source).names = ((changes dialect source).flatMap ClassChange.names).eraseDups := by
  rw [read_eq_foldl, names_foldl_change]
  exact foldl_addNew_nil _

end ClassDiagram

/-! ## What is known of a class -/

namespace Classifier

theorem find?_alter {f : Classifier → Classifier} (hf : ∀ c, (f c).name = c.name) (name n : Text)
    (cs : List Classifier) : (alter name f cs).find? (fun c => c.name = n) =
      if name = n then some (f ((cs.find? fun c => c.name = n).getD (ofName n)))
      else cs.find? fun c => c.name = n := by
  induction cs with
  | nil =>
    by_cases h : name = n
    · subst h
      simp [alter, hf, ofName]
    · simp [alter, hf, ofName, h]
  | cons c cs ih =>
    unfold alter
    by_cases hc : c.name = name
    · subst hc
      by_cases h : c.name = n <;> simp [hf, h]
    · rw [if_neg hc, List.find?_cons, ih]
      by_cases h : c.name = n
      · subst h
        simp [Ne.symm hc]
      · simp [h]

/-- A class after a change to the diagram. -/
def changedBy (c : Classifier) : ClassChange → Classifier
  | .stereotype name s => if name = c.name then c.giveStereotype s else c
  | .member name m => if name = c.name then c.addMember? m else c
  | .relation _ | .note _ | .remark _ _ => c

theorem changedBy_stereotype (c : Classifier) (s : Option Stereotype) :
    c.changedBy (.stereotype c.name s) = c.giveStereotype s := if_pos rfl

theorem changedBy_member (c : Classifier) (m : Option Member) :
    c.changedBy (.member c.name m) = c.addMember? m := if_pos rfl

end Classifier

namespace ClassDiagram

/-- What is known of the class called `name`; if there is none, it is the name. -/
def classifier (d : ClassDiagram) (name : Text) : Classifier :=
  (d.classes.find? fun c => c.name = name).getD (.ofName name)

theorem name_classifier (d : ClassDiagram) (name : Text) : (d.classifier name).name = name := by
  unfold classifier
  rcases h : d.classes.find? (fun c => c.name = name) with _ | c
  · rw [h]
    rfl
  · rw [h]
    simpa using List.find?_some h

theorem classifier_alterClass {f : Classifier → Classifier} (hf : ∀ c, (f c).name = c.name) (d : ClassDiagram)
    (name n : Text) :
    (d.alterClass name f).classifier n = if name = n then f (d.classifier n) else d.classifier n := by
  show ((Classifier.alter name f d.classes).find? _).getD (.ofName n) = _
  rw [Classifier.find?_alter hf]
  split <;> rfl

theorem classifier_mention (d : ClassDiagram) (name n : Text) : (d.mention name).classifier n = d.classifier n := by
  refine (classifier_alterClass (f := id) (fun _ => rfl) d name n).trans ?_
  split <;> rfl

/-- A change does to a class what it says of it, and leaves the others. -/
theorem classifier_change (d : ClassDiagram) (c : ClassChange) (n : Text) :
    (d.change c).classifier n = (d.classifier n).changedBy c := by
  cases c with
  | stereotype name s =>
    refine (classifier_alterClass (Classifier.name_giveStereotype s) d name n).trans ?_
    rw [Classifier.changedBy, name_classifier]
  | member name m =>
    refine (classifier_alterClass (Classifier.name_addMember? m) d name n).trans ?_
    rw [Classifier.changedBy, name_classifier]
  | relation r =>
    show ((d.mention r.source).mention r.target).classifier n = d.classifier n
    rw [classifier_mention, classifier_mention]
  | note | remark => rfl

theorem classifier_foldl_change (cs : List ClassChange) (d : ClassDiagram) (n : Text) :
    (cs.foldl change d).classifier n = cs.foldl Classifier.changedBy (d.classifier n) := by
  induction cs generalizing d with
  | nil => rfl
  | cons c cs ih => rw [List.foldl_cons, ih, classifier_change, List.foldl_cons]

end ClassDiagram

end DiagramProse
