import DiagramProse.Proofs.ClassDiagram.Readers

/-!
The body of a class gives the class the members on its lines, behind those that it has, and does nothing else
to the diagram (`ClassReader.run_classBody`), wherever the body stands.

There is one kind of line that is lost. Directives are looked for before a line is known to belong to a body,
so a member whose line begins like one, such as an attribute called `title`, is passed over in silence
(`ClassDiagram.read_title`), while the same text is a member behind a colon or in a body on one line.
-/

namespace DiagramProse

open Text

/-! ## Members that a class gains -/

namespace Member

def attribute? : Member → Option Attribute
  | field a => some a
  | method _ => none

def method? : Member → Option Method
  | field _ => none
  | method m => some m

end Member

/-- `c'` is the class `c` with some members more, each behind those of its sort. -/
structure Classifier.Gains (c : Classifier) (ms : List Member) (c' : Classifier) : Prop where
  name : c'.name = c.name
  attributes : c'.attributes = c.attributes ++ ms.filterMap Member.attribute?
  methods : c'.methods = c.methods ++ ms.filterMap Member.method?

namespace Classifier.Gains

variable {c c' c'' : Classifier} {ms ns : List Member}

theorem refl (c : Classifier) : c.Gains [] c := ⟨rfl, by simp, by simp⟩

theorem trans (h : c.Gains ms c') (h' : c'.Gains ns c'') : c.Gains (ms ++ ns) c'' := by
  refine ⟨h'.name.trans h.name, ?_, ?_⟩
  · rw [h'.attributes, h.attributes, List.filterMap_append, List.append_assoc]
  · rw [h'.methods, h.methods, List.filterMap_append, List.append_assoc]

theorem addMember? (c : Classifier) (m : Option Member) : c.Gains m.toList (c.addMember? m) := by
  rcases m with _ | a | m
  · exact refl c
  · exact ⟨rfl, rfl, (List.append_nil _).symm⟩
  · exact ⟨rfl, (List.append_nil _).symm, rfl⟩

theorem giveStereotype (c : Classifier) (s : Option Stereotype) : c.Gains [] (c.giveStereotype s) :=
  ⟨rfl, (List.append_nil _).symm, (List.append_nil _).symm⟩

end Classifier.Gains

/-! ## Lines of a body -/

/-- The member on a line of a class body, if the line is not blank, a comment or a stereotype. -/
def memberOnLine? (dialect : Dialect) (raw : Text) : Option Member :=
  let line := raw.trim
  if line.isEmpty || isComment line || (readStereotypeLine? line).isSome then none
  else Member.read? line dialect

namespace ClassReader

variable {dialect : Dialect} {number : Nat} {name : Text} {d : ClassDiagram} {blocks : List ClassBlock}

/-- What a line between the braces of a class changes. -/
def innerChanges (dialect : Dialect) (name raw : Text) : List ClassChange :=
  let line := raw.trim
  if line.isEmpty || isComment line || isClassDirective line then [] else [bodyChange dialect name line]

theorem step_body {raw : Text} (h : startsWith raw.trim ['\x7d'] = false) :
    step dialect ⟨d, .body name :: blocks, none⟩ number raw =
      ⟨(innerChanges dialect name raw).foldl ClassDiagram.change d, .body name :: blocks, none⟩ := by
  unfold step innerChanges
  dsimp only
  split
  · rfl
  · rw [h]
    exact bodyLine_eq _ dialect name raw.trim

theorem run_body {body : List Text} (h : ∀ raw ∈ body, startsWith raw.trim ['\x7d'] = false) :
    run dialect number body ⟨d, .body name :: blocks, none⟩ =
      ⟨(body.flatMap (innerChanges dialect name)).foldl ClassDiagram.change d, .body name :: blocks, none⟩ := by
  induction body generalizing number d with
  | nil => rfl
  | cons raw body ih =>
    obtain ⟨hraw, hbody⟩ := List.forall_mem_cons.1 h
    rw [run, step_body hraw, ih hbody, List.flatMap_cons, List.foldl_append]

/-- Changes within a body are about its class alone. -/
theorem innerChanges_others {c : Classifier} (hc : name ≠ c.name) (raw : Text) :
    (innerChanges dialect name raw).foldl Classifier.changedBy c = c := by
  unfold innerChanges
  dsimp only
  split
  · rfl
  · unfold bodyChange
    split <;> exact if_neg hc

theorem bodyChange_gains (dialect : Dialect) (c : Classifier) (line : Text) :
    c.Gains (if (readStereotypeLine? line).isSome then none else Member.read? line dialect).toList
      (c.changedBy (bodyChange dialect c.name line)) := by
  unfold bodyChange
  rcases readStereotypeLine? line with _ | label
  · rw [if_neg (by simp), Classifier.changedBy_member]
    exact .addMember? c _
  · rw [if_pos (by simp), Classifier.changedBy_stereotype]
    exact .giveStereotype c _

/-- A line that is no directive gives the class the member that is on it. -/
theorem innerChanges_gains (dialect : Dialect) (c : Classifier) (raw : Text) :
    c.Gains (if isClassDirective raw.trim then [] else (memberOnLine? dialect raw).toList)
      ((innerChanges dialect c.name raw).foldl Classifier.changedBy c) := by
  unfold innerChanges memberOnLine?
  dsimp only
  cases isClassDirective raw.trim with
  | true =>
    rw [Bool.or_true]
    exact .refl c
  | false =>
    rw [Bool.or_false]
    cases raw.trim.isEmpty || isComment raw.trim with
    | true => exact .refl c
    | false =>
      rw [Bool.false_or]
      exact bodyChange_gains dialect c raw.trim

/-- The members on the lines of a body, less those that begin like a directive. -/
def membersOn (dialect : Dialect) (body : List Text) : List Member :=
  (body.filter fun raw => !isClassDirective raw.trim).filterMap (memberOnLine? dialect)

theorem membersOn_cons (dialect : Dialect) (raw : Text) (body : List Text) :
    membersOn dialect (raw :: body) =
      (if isClassDirective raw.trim then [] else (memberOnLine? dialect raw).toList) ++ membersOn dialect body := by
  unfold membersOn
  by_cases h : isClassDirective raw.trim
  · simp [h]
  · cases hm : memberOnLine? dialect raw <;> simp [h, hm]

theorem body_gains (body : List Text) {c : Classifier} (hc : name = c.name) :
    c.Gains (membersOn dialect body)
      ((body.flatMap (innerChanges dialect name)).foldl Classifier.changedBy c) := by
  induction body generalizing c with
  | nil => exact .refl c
  | cons raw body ih =>
    subst hc
    have hraw := innerChanges_gains dialect c raw
    rw [List.flatMap_cons, List.foldl_append, membersOn_cons]
    exact hraw.trans (ih hraw.name.symm)

theorem body_others (body : List Text) {c : Classifier} (hc : name ≠ c.name) :
    (body.flatMap (innerChanges dialect name)).foldl Classifier.changedBy c = c := by
  induction body with
  | nil => rfl
  | cons raw body ih => rw [List.flatMap_cons, List.foldl_append, innerChanges_others hc, ih]

/-- A body changes nothing but classes. -/
theorem body_classes (body : List Text) (d : ClassDiagram) :
    (body.flatMap (innerChanges dialect name)).foldl ClassDiagram.change d =
      { d with classes := ((body.flatMap (innerChanges dialect name)).foldl ClassDiagram.change d).classes } := by
  induction body generalizing d with
  | nil => rfl
  | cons raw body ih =>
    rw [List.flatMap_cons, List.foldl_append, ih]
    have hraw : (innerChanges dialect name raw).foldl ClassDiagram.change d =
        { d with classes := ((innerChanges dialect name raw).foldl ClassDiagram.change d).classes } := by
      unfold innerChanges bodyChange
      dsimp only
      split
      · rfl
      · split <;> rfl
    rw [hraw]

/-! ## Braces -/

theorem step_opening (h : isClassName name = true) (hcolons : contains name ":::" = false) {r : ClassReader}
    (hnote : r.note = none) (hblocks : ∀ other, r.blocks.head? ≠ some (.body other)) :
    r.step dialect number ("class " ++ name ++ " \x7b") =
      ⟨r.diagram.change (.stereotype name none), .body name :: r.blocks, none⟩ := by
  rw [step_statement (declaration_readable h) hnote hblocks, ClassStatement.read_declaration h hcolons]
  obtain ⟨d, blocks, note⟩ := r
  obtain rfl : note = none := hnote
  rfl

/-- Outside notes a line that begins with a closing brace closes the innermost block. -/
theorem step_brace {raw : Text} (h : startsWith raw.trim ['\x7d'] = true) :
    step dialect ⟨d, blocks, none⟩ number raw = closeBlock ⟨d, blocks, none⟩ number := by
  obtain ⟨rest, hrest⟩ : ∃ rest, raw.trim = "\x7d" ++ rest := by
    obtain ⟨rest, hrest⟩ := List.isPrefixOf_iff_prefix.1 h
    exact ⟨rest, hrest.symm⟩
  have hcomment : isComment ("\x7d" ++ rest) = false := startsWithAny_of_apart (by decide) rest
  have hdirective : isClassDirective ("\x7d" ++ rest) = false := startsWithAny_of_apart (by decide) rest
  unfold step
  rw [hrest] at h ⊢
  dsimp only
  rw [hcomment, hdirective, h]
  rfl

/-- Between `class X` with an opening brace and the next line that begins with a closing one, the class gains
the members on the lines that are no directives, other classes stay as they are, and so does everything but
the classes. -/
theorem run_classBody (dialect : Dialect) (number : Nat) (name : Text) (body : List Text) (closing : Text)
    (r : ClassReader) (hname : isClassName name = true) (hcolons : contains name ":::" = false)
    (hnote : r.note = none) (hblocks : ∀ other, r.blocks.head? ≠ some (.body other))
    (hbody : ∀ raw ∈ body, startsWith raw.trim ['\x7d'] = false)
    (hclosing : startsWith closing.trim ['\x7d'] = true) :
    let r' := r.run dialect number (("class " ++ name ++ " \x7b" : Text) :: (body ++ [closing]))
    (r.diagram.classifier name).Gains (membersOn dialect body) (r'.diagram.classifier name) ∧
      (∀ other, other ≠ name → r'.diagram.classifier other = r.diagram.classifier other) ∧
      r' = { r with diagram := { r.diagram with classes := r'.diagram.classes } } := by
  intro r'
  have hr' : r' = ⟨(body.flatMap (innerChanges dialect name)).foldl ClassDiagram.change
      (r.diagram.change (.stereotype name none)), r.blocks, none⟩ := by
    show r.run dialect number (_ :: (body ++ [closing])) = _
    rw [run, step_opening hname hcolons hnote hblocks, run_append, run_body hbody, run, step_brace hclosing, run,
      closeBlock]
  -- the line with the opening brace gives no stereotype, so it changes no class that is there
  have hopening : ∀ c : Classifier, c.changedBy (.stereotype name none) = c := by
    intro c
    show (if name = c.name then c.giveStereotype none else c) = c
    split <;> rfl
  -- hence of each class it is the changes within the braces that count
  have hclass : ∀ n, r'.diagram.classifier n =
      (body.flatMap (innerChanges dialect name)).foldl Classifier.changedBy (r.diagram.classifier n) := by
    intro n
    rw [hr', ClassDiagram.classifier_foldl_change, ClassDiagram.classifier_change, hopening]
  refine ⟨?_, ?_, ?_⟩
  · rw [hclass]
    exact body_gains body (r.diagram.name_classifier name).symm
  · intro other hother
    rw [hclass]
    refine body_others body ?_
    rw [ClassDiagram.name_classifier]
    exact hother.symm
  · rw [hr', body_classes]
    obtain ⟨d, blocks, note⟩ := r
    obtain rfl : note = none := hnote
    rfl

/-- A second body, within a group, of a class that has an attribute. -/
theorem run_classBody_again :
    let r : ClassReader := ⟨⟨[⟨"A", none, [⟨.public, "id", none⟩], []⟩], [], [], []⟩, [.group "p"], none⟩
    let c := (r.run .mermaid 5 ["class A \x7b", "  +x : Int", "  f()", "\x7d"]).diagram.classifier "A"
    c.attributes = [⟨.public, "id", none⟩, ⟨.public, "x", some "Int"⟩] ∧
      c.methods = [⟨.unspecified, "f", [], none⟩] := by
  intro r
  have h := (run_classBody .mermaid 5 "A" ["  +x : Int", "  f()"] "\x7d" r (by decide) (by decide) rfl
    (by simp [r]) (by decide) (by decide)).1
  have hmembers : membersOn .mermaid ["  +x : Int", "  f()"] =
      [.field ⟨.public, "x", some "Int"⟩, .method ⟨.unspecified, "f", [], none⟩] := by decide
  rw [hmembers] at h
  exact ⟨h.attributes, h.methods⟩

end ClassReader

/-- An attribute called `title` is lost, as its line begins like the title of a diagram. -/
theorem ClassDiagram.read_title :
    memberOnLine? .mermaid "  title : String" = some (.field ⟨.unspecified, "title", some "String"⟩) ∧
      (read .mermaid "class A \x7b\n  title : String\n\x7d").classes = [.ofName "A"] := by
  decide +kernel

end DiagramProse
