import DiagramProse.Proofs.ClassDiagram.Changes
import DiagramProse.Proofs.ClassDiagram.Lines

/-!
A class diagram that is written and read again comes back as it was (`ClassDiagram.read_source`), in both
dialects and in every style. The lines of a class put it behind the classes read so far; relations and
notes mention no class that is not there already.
-/

namespace DiagramProse

open Text

/-! ## Classes read so far -/

namespace Classifier

variable {name : Text} {cs : List Classifier}

theorem alter_of_not_mem (h : name ∉ cs.map Classifier.name) (f : Classifier → Classifier) :
    alter name f cs = cs ++ [f (ofName name)] := by
  induction cs with
  | nil => rfl
  | cons c cs ih =>
    rw [List.map_cons, List.mem_cons, not_or] at h
    rw [alter, if_neg (Ne.symm h.1), ih h.2]
    rfl

theorem alter_append (h : name ∉ cs.map Classifier.name) {c : Classifier} (hc : c.name = name)
    (f : Classifier → Classifier) : alter name f (cs ++ [c]) = cs ++ [f c] := by
  induction cs with
  | nil => simp [alter, hc]
  | cons d cs ih =>
    rw [List.map_cons, List.mem_cons, not_or] at h
    rw [List.cons_append, alter, if_neg (Ne.symm h.1), ih h.2]
    rfl

theorem alter_id (h : name ∈ cs.map Classifier.name) : alter name id cs = cs := by
  induction cs with
  | nil => simp at h
  | cons c cs ih =>
    by_cases hc : c.name = name
    · simp [alter, hc]
    · have hm : name ∈ cs.map Classifier.name := by
        rcases List.mem_cons.1 h with he | hm
        · exact absurd he.symm hc
        · exact hm
      rw [alter, if_neg hc, ih hm]

theorem foldl_method (c : Classifier) (ms : List Method) :
    (ms.map Member.method).foldl addMember c = { c with methods := c.methods ++ ms } := by
  induction ms generalizing c with
  | nil => simp
  | cons m ms ih => simp [ih, addMember]

theorem foldl_field (c : Classifier) (as : List Attribute) :
    (as.map Member.field).foldl addMember c = { c with attributes := c.attributes ++ as } := by
  induction as generalizing c with
  | nil => simp
  | cons a as ih => simp [ih, addMember]

theorem foldl_members (c : Classifier) :
    c.members.foldl addMember { c with attributes := [], methods := [] } = c := by
  rw [members, List.foldl_append, foldl_method, foldl_field]
  rfl

end Classifier

/-! ## Readers between and within classes -/

namespace ClassReader

/-- A reader that is in no block. -/
def outside (d : ClassDiagram) : ClassReader := ⟨d, [], none⟩

/-- A reader that is in the body of the class `c`, which stands behind those of `d`. -/
def within (d : ClassDiagram) (c : Classifier) : ClassReader :=
  ⟨{ d with classes := d.classes ++ [c] }, [.body c.name], none⟩

variable {dialect : Dialect} {number : Nat} {d : ClassDiagram} {c : Classifier}

/-- A line that declares a class and opens its body. -/
theorem reads_opening {raw line : Text} (hr : Readable raw line)
    (hread : ClassStatement.read line = .declaration ⟨c.name, none, [], true, []⟩) (hd : c.name ∉ d.names) :
    Reads (step dialect) number [raw] (outside d) (within d (.ofName c.name)) := by
  refine (Reads.single hr.isLine).trans_eq ?_
  rw [step_of_readable hr rfl, hread]
  have halter := Classifier.alter_of_not_mem hd fun c => { c with stereotype := none <|> c.stereotype }
  simp only [outside, apply, ClassDiagram.declare, ClassDiagram.alterClass, halter]
  rfl

theorem reads_declaration (h : isCapitalised c.name = true) (hd : c.name ∉ d.names) :
    Reads (step dialect) number ["class " ++ c.name ++ " \x7b"] (outside d) (within d (.ofName c.name)) := by
  have hid := isPlainName_of_isCapitalised h
  have hname := isClassName_of_isPlainName hid
  have hcolons : contains c.name ":::" = false :=
    not_contains (d := ':') (by decide) (not_mem_of_isPlainName hid (by decide))
  exact reads_opening (declaration_readable hname) (ClassStatement.read_declaration hname hcolons) hd

theorem reads_stereotype {s : Stereotype} (h : s.isWritable = true) (hd : c.name ∉ d.names) :
    Reads (step dialect) number [s.line] (within d c) (within d { c with stereotype := some s }) := by
  obtain ⟨hr, label, hlabel, hof⟩ := s.read_line h
  refine (Reads.single hr.isLine).trans_eq ?_
  have halter := Classifier.alter_append hd (rfl : c.name = c.name) fun c => { c with stereotype := some s }
  rw [step_of_readable hr rfl]
  simp only [within, bodyLine, hlabel, hof, ClassDiagram.setStereotype, ClassDiagram.alterClass, halter]

/-- A line in the body that is no stereotype gives the class the member that is on it. -/
theorem reads_bodyLine {raw line : Text} (hr : Readable raw line) (hs : readStereotypeLine? line = none)
    (hd : c.name ∉ d.names) :
    Reads (step dialect) number [raw] (within d c) (within d (c.addMember? (Member.read? line dialect))) := by
  refine (Reads.single hr.isLine).trans_eq ?_
  have halter := Classifier.alter_append hd (rfl : c.name = c.name) fun c =>
    ((Member.read? line dialect).map c.addMember).getD c
  have hname := Classifier.name_addMember? (Member.read? line dialect) c
  rw [step_of_readable hr rfl]
  simp only [within, bodyLine, hs, ClassDiagram.addMember, ClassDiagram.alterClass, hname, halter]
  rfl

theorem reads_member {m : Member} (h : m.isWritable = true) (hd : c.name ∉ d.names) :
    Reads (step dialect) number [m.line] (within d c) (within d (c.addMember m)) := by
  obtain ⟨hr, hs⟩ := m.readable_line h
  have hline : Reads (step dialect) number [m.line] (within d c)
      (within d (c.addMember? (Member.read? m.line dialect))) := reads_bodyLine hr hs hd
  rwa [m.read?_line h dialect] at hline

theorem reads_members {ms : List Member} (h : ms.all Member.isWritable = true) (hd : c.name ∉ d.names) :
    Reads (step dialect) number (ms.map Member.line) (within d c)
      (within d (ms.foldl Classifier.addMember c)) := by
  have hname : ∀ (k : Classifier) (m : Member), k.name ∉ d.names → (k.addMember m).name ∉ d.names := by
    intro k m hk
    cases m <;> exact hk
  exact .foldl hd hname fun m hm n k hk => reads_member (List.all_eq_true.1 h m hm) hk

theorem reads_closing : Reads (step dialect) number ["\x7d"] (within d c)
    (outside { d with classes := d.classes ++ [c] }) := by
  refine (Reads.single closing_isLine).trans_eq ?_
  rfl

/-- The lines of a class put it behind the others. -/
theorem reads_class (h : c.isWritable = true) (hd : c.name ∉ d.names) :
    Reads (step dialect) number c.lines (outside d) (outside { d with classes := d.classes ++ [c] }) := by
  have hmembers := c.foldl_members
  rcases c with ⟨name, stereotype, attributes, methods⟩
  simp only [Classifier.isWritable, Bool.and_eq_true] at h
  obtain ⟨⟨hname, hstereotype⟩, hwritable⟩ := h
  have hs : ∀ n, Reads (step dialect) n (stereotype.toList.map Stereotype.line) (within d (.ofName name))
      (within d ⟨name, stereotype, [], []⟩) := by
    intro n
    cases stereotype with
    | none => exact .nil
    | some s => exact reads_stereotype (c := .ofName name) hstereotype hd
  have hm : ∀ n, Reads (step dialect) n ((Classifier.members ⟨name, stereotype, attributes, methods⟩).map
      Member.line) (within d ⟨name, stereotype, [], []⟩) (within d ⟨name, stereotype, attributes, methods⟩) :=
    fun n => (reads_members (c := ⟨name, stereotype, [], []⟩) hwritable hd).trans_eq
      (congrArg (within d) hmembers)
  refine (reads_declaration (c := ⟨name, stereotype, [], []⟩) hname hd).append fun n => ?_
  refine (hs n).append fun m => ?_
  exact (hm m).append fun k => reads_closing

theorem reads_classes {cs : List Classifier} (h : cs.all Classifier.isWritable = true)
    (hd : (d.names ++ cs.map Classifier.name).Nodup) :
    Reads (step dialect) number (cs.flatMap Classifier.lines) (outside d)
      (outside { d with classes := d.classes ++ cs }) := by
  induction cs generalizing d number with
  | nil =>
    rw [List.append_nil]
    exact .nil
  | cons c cs ih =>
    rw [List.all_cons, Bool.and_eq_true] at h
    have hc : c.name ∉ d.names := by
      intro hm
      exact (List.nodup_append.1 hd).2.2 _ hm _ (by simp) rfl
    have hnames : (ClassDiagram.names { d with classes := d.classes ++ [c] } ++
        cs.map Classifier.name).Nodup := by
      simpa [ClassDiagram.names] using hd
    refine ((reads_class h.1 hc).append fun n => ih h.2 hnames).trans_eq ?_
    simp [List.append_assoc]

/-! ## Relations and notes -/

variable (style : ClassStyle)

theorem reads_relations {rs : List Relation} (h : rs.all (Relation.isWritable d.names) = true)
    (hnames : ∀ n ∈ d.names, isCapitalised n = true) :
    Reads (step dialect) number (rs.map fun r => r.line (style.arrow r)) (outside d)
      (outside { d with relations := d.relations ++ rs }) := by
  induction rs generalizing d number with
  | nil =>
    rw [List.append_nil]
    exact .nil
  | cons r rs ih =>
    rw [List.all_cons, Bool.and_eq_true] at h
    obtain ⟨hr, hs⟩ := r.readable_line h.1 (style.arrow_mem r) hnames
    -- both classes are there, so that they are mentioned changes nothing
    have hmention : d.addRelation r = { d with relations := d.relations ++ [r] } := by
      have hw := h.1
      simp only [Relation.isWritable, Bool.and_eq_true, List.contains_iff_mem] at hw
      obtain ⟨⟨⟨⟨hsource, htarget⟩, -⟩, -⟩, -⟩ := hw
      simp only [ClassDiagram.addRelation, ClassDiagram.mention, ClassDiagram.alterClass,
        Classifier.alter_id hsource, Classifier.alter_id htarget]
    have hone : Reads (step dialect) number [r.line (style.arrow r)] (outside d)
        (outside { d with relations := d.relations ++ [r] }) := by
      refine (Reads.single hr.isLine).trans_eq ?_
      rw [step_of_readable hr rfl, hs, ← hmention]
      rfl
    refine (hone.append fun n => ih h.2 hnames).trans_eq ?_
    simp [List.append_assoc]

theorem reads_notes {ns : List ClassNote} (h : ns.all ClassNote.isWritable = true) :
    Reads (step dialect) number (ns.map fun n => n.line (style.place n)) (outside d)
      (outside { d with notes := d.notes ++ ns }) := by
  induction ns generalizing d number with
  | nil =>
    rw [List.append_nil]
    exact .nil
  | cons n ns ih =>
    rw [List.all_cons, Bool.and_eq_true] at h
    obtain ⟨line, hr, hs⟩ := n.readable_line h.1 (style.place n)
    have hone : Reads (step dialect) number [n.line (style.place n)] (outside d)
        (outside { d with notes := d.notes ++ [n] }) := by
      refine (Reads.single hr.isLine).trans_eq ?_
      rw [step_of_readable hr rfl, hs]
      rfl
    refine (hone.append fun n => ih h.2).trans_eq ?_
    simp [List.append_assoc]

theorem run_of_reads {ls : List Text} {r r' : ClassReader} (h : Reads (step dialect) number ls r r') :
    r.run dialect number ls = r' := by
  induction h with
  | nil => rfl
  | cons _ hstep _ ih => rw [run, hstep, ih]

end ClassReader

theorem ClassDiagram.read_of_reads {dialect : Dialect} {ls : List Text} {d : ClassDiagram}
    (h : Reads (ClassReader.step dialect) 1 ls .start (.outside d)) : read dialect (join "\n" ls) = d := by
  have hlines : Text.lines (join "\n" ls) = ls := lines_join h.isLine
  rw [read, hlines, ofLines, ClassReader.run_of_reads h]
  rfl

/-! ## The diagram -/

/-- A diagram that is written in any style comes back as it was, without remarks. -/
theorem ClassDiagram.read_source (style : ClassStyle) (dialect : Dialect) (d : ClassDiagram)
    (h : d.isWritable = true) :
    ClassDiagram.read dialect (d.source style) = { d with diagnostics := [] } := by
  simp only [isWritable, Bool.and_eq_true, decide_eq_true_eq] at h
  obtain ⟨⟨⟨hnodup, hclasses⟩, hrelations⟩, hnotes⟩ := h
  have hnames : ∀ n ∈ d.names, isCapitalised n = true := by
    intro n hn
    obtain ⟨c, hc, rfl⟩ := List.mem_map.1 hn
    have := List.all_eq_true.1 hclasses c hc
    simp only [Classifier.isWritable, Bool.and_eq_true] at this
    exact this.1.1
  have hc : ∀ n, Reads (ClassReader.step dialect) n (d.classes.flatMap Classifier.lines) .start
      (.outside ⟨d.classes, [], [], []⟩) := fun n => ClassReader.reads_classes (d := .empty) hclasses hnodup
  have hr : ∀ n, Reads (ClassReader.step dialect) n (d.relations.map fun r => r.line (style.arrow r))
      (.outside ⟨d.classes, [], [], []⟩) (.outside ⟨d.classes, d.relations, [], []⟩) := fun n =>
    ClassReader.reads_relations (d := ⟨d.classes, [], [], []⟩) style hrelations hnames
  have hn : ∀ n, Reads (ClassReader.step dialect) n (d.notes.map fun n => n.line (style.place n))
      (.outside ⟨d.classes, d.relations, [], []⟩) (.outside ⟨d.classes, d.relations, d.notes, []⟩) := fun n =>
    ClassReader.reads_notes (d := ⟨d.classes, d.relations, [], []⟩) style hnotes
  exact ClassDiagram.read_of_reads (((hc 1).append hr).append hn)

/-- Two classes with members, relations in both directions and a note. -/
theorem ClassDiagram.read_source_order :
    ClassDiagram.read .plantUml (ClassDiagram.source .usual
      ⟨[⟨"Order", some (.custom "root"), [⟨.«private», "lines", some "Map<Key, Line[]>"⟩],
          [⟨.«public», "add", [⟨"line", some "Line"⟩, ⟨"n", none⟩], some "bool"⟩]⟩, ⟨"Line", none, [], []⟩],
        [⟨"Order", "Line", .composition, some "holds", some "1", some "0..*", false⟩,
          ⟨"Order", "Line", .dependency, none, none, none, true⟩], [⟨"Line", "as sent"⟩], []⟩) =
      ⟨[⟨"Order", some (.custom "root"), [⟨.«private», "lines", some "Map<Key, Line[]>"⟩],
          [⟨.«public», "add", [⟨"line", some "Line"⟩, ⟨"n", none⟩], some "bool"⟩]⟩, ⟨"Line", none, [], []⟩],
        [⟨"Order", "Line", .composition, some "holds", some "1", some "0..*", false⟩,
          ⟨"Order", "Line", .dependency, none, none, none, true⟩], [⟨"Line", "as sent"⟩], []⟩ :=
  ClassDiagram.read_source .usual .plantUml _ (by decide +kernel)

/-- A multiplicity over two lines and a written line break in a note do not come back, the one because lines
are read one by one, the other because it stands for a space. -/
theorem ClassDiagram.read_source_lineBreaks :
    (isMultiplicity "1..\n2" = true ∧ trim "1..\n2" = "1..\n2" ∧
      ClassDiagram.read .plantUml (ClassDiagram.source .usual ⟨[⟨"A", none, [], []⟩],
        [⟨"A", "A", .association, none, some "1..\n2", none, false⟩], [], []⟩) ≠
        ⟨[⟨"A", none, [], []⟩], [⟨"A", "A", .association, none, some "1..\n2", none, false⟩], [], []⟩) ∧
    squeeze "a\\nb" = "a\\nb" ∧
      ClassDiagram.read .plantUml (ClassDiagram.source .usual ⟨[⟨"A", none, [], []⟩], [],
        [⟨"A", "a\\nb"⟩], []⟩) ≠ ⟨[⟨"A", none, [], []⟩], [], [⟨"A", "a\\nb"⟩], []⟩ := by
  decide +kernel

end DiagramProse
