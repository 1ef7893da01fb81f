import DiagramProse.Proofs.ClassDiagram.Bodies

/-!
Groups are transparent: a source without remarks that is put into packages and namespaces, one within the other, is
read as the same diagram, without remarks (`ClassDiagram.read_grouped`).

Class bodies and groups are closed by the same brace, so that a brace too many in the source would close a group
instead. But that brace has a remark when the source is read on its own.
-/

namespace DiagramProse

open Text

/-! ## Groups around a source -/

inductive GroupWord where
  | package
  | «namespace»
deriving DecidableEq, Repr

def GroupWord.text : GroupWord → Text
  | package => "package "
  | «namespace» => "namespace "

/-- A group is opened by its word and its name. -/
structure ClassGroup where
  word : GroupWord
  name : Text
deriving DecidableEq, Repr

namespace ClassGroup

def opening (g : ClassGroup) : Text := g.word.text ++ g.name ++ " \x7b"

/-- The source between the braces of a group. -/
def around (g : ClassGroup) (source : Text) : Text := g.opening ++ "\n" ++ source ++ "\n\x7d"

end ClassGroup

/-- The source in groups of which the outermost comes first. -/
def grouped (groups : List ClassGroup) (source : Text) : Text := groups.foldr ClassGroup.around source

/-! ## Braces of a group -/

namespace ClassGroup

variable {g : ClassGroup}

theorem opening_eq (g : ClassGroup) : g.opening = g.word.text ++ (g.name ++ " \x7b") := List.append_assoc ..

theorem readable_opening (h : isPlainName g.name = true) : Readable g.opening g.opening := by
  have htight : Tight g.opening := by
    have hword : ∃ w, g.word.text = w ++ [' '] ∧ Tight w ∧ w ≠ [] := by
      cases g.word
      · exact ⟨"package", by decide⟩
      · exact ⟨"namespace", by decide⟩
    obtain ⟨w, hword, hw, hne⟩ := hword
    have := tight_append (m := ' ' :: (g.name ++ [' '])) hw (by decide : Tight "\x7b") hne (by decide)
    simpa [opening, hword] using this
  have hfeed : '\n' ∉ g.opening := by
    have hname : '\n' ∉ g.name := not_mem_of_isPlainName h (by decide)
    have hword : '\n' ∉ g.word.text := by cases g.word <;> decide
    simp [opening, hname, hword]
  obtain ⟨c, s, hword, hc⟩ : ∃ c s, g.word.text = c :: s ∧ c ∉ skippedHeads := by
    cases g.word
    · exact ⟨'p', "ackage ", by decide, by decide⟩
    · exact ⟨'n', "amespace ", by decide, by decide⟩
  have hline : g.opening = c :: (s ++ (g.name ++ " \x7b")) := by rw [opening_eq, hword, List.cons_append]
  rw [hline] at hfeed htight ⊢
  exact readable_of_tight hc htight hfeed

/-- Behind the word of a group its name is left, and no other word is there. -/
theorem findSome?_word (w : GroupWord) (rest : Text) :
    List.findSome? (dropPrefix? (w.text ++ rest)) ["package ", "namespace ", "together"] = some rest := by
  cases w with
  | package =>
    have hself : dropPrefix? (GroupWord.package.text ++ rest) "package " = some rest := dropPrefix?_append _ rest
    rw [List.findSome?_cons, hself]
  | «namespace» =>
    have hapart : apart GroupWord.namespace.text "package " = true := by decide
    have hother : dropPrefix? (GroupWord.namespace.text ++ rest) "package " = none := dropPrefix?_of_apart hapart rest
    have hself : dropPrefix? (GroupWord.namespace.text ++ rest) "namespace " = some rest := dropPrefix?_append _ rest
    rw [List.findSome?_cons, hother, List.findSome?_cons, hself]

theorem readGroup?_opening (h : isPlainName g.name = true) : readGroup? g.opening = some g.name := by
  have hname : Tight g.name := tight_of_not_blank (not_blank_of_isPlainName h)
  have hbrace : dropSuffix? (g.name ++ " \x7b") ['\x7b'] = some (g.name ++ [' ']) := by
    simp [dropSuffix?, dropPrefix?]
  have hrest : Tight (g.name ++ " \x7b") := DiagramProse.tight_opening (isClassName_of_isPlainName h)
  rw [readGroup?, opening_eq, findSome?_word]
  simp only [Option.bind_eq_bind, Option.bind_some, trim_eq_self hrest, hbrace, trim_append_space hname]
  exact congrArg some (unquote_of_not_mem hname (not_mem_of_isPlainName h (by decide)))

theorem read_opening (h : isPlainName g.name = true) : ClassStatement.read g.opening = .openGroup g.name := by
  have hwords : apart (g.word.text) "note" = true := by cases g.word <;> decide
  have hnote : readClassNote? g.opening = none := by
    rw [opening_eq, readClassNote?, dropPrefix?_of_apart hwords]
    rfl
  have hnote' : startsWith g.opening "note " = false := by
    have hwords : apart g.word.text "note " = true := by cases g.word <;> decide
    rw [opening_eq, startsWith_of_apart hwords]
  rw [ClassStatement.read, hnote, hnote', readGroup?_opening h]
  rfl

theorem lines_around (h : isPlainName g.name = true) (source : Text) :
    lines (g.around source) =
      g.opening :: ((splitBy (· == '\n') source).map dropCarriageReturn ++ [(['\x7d'] : Text)]) := by
  have haround : g.around source = g.opening ++ '\n' :: (source ++ '\n' :: ['\x7d']) := by
    simp [around]
  have hline := (readable_opening h).isLine
  have hclosing : lines (['\x7d'] : Text) = [['\x7d']] := by decide
  rw [haround, lines_cons hline.noLineFeed, dropCarriageReturn_eq_self hline.last, lines_append, hclosing]

theorem step_opening (h : isPlainName g.name = true) (dialect : Dialect) (number : Nat) :
    ClassReader.start.step dialect number g.opening = ⟨.empty, [.group g.name], none⟩ := by
  rw [ClassReader.step_of_readable (readable_opening h) rfl, read_opening h]
  rfl

theorem follows_opening (name : Text) :
    ClassReader.start.Follows [name] ⟨.empty, [.group name], none⟩ :=
  ⟨.refl _, rfl, rfl⟩

end ClassGroup

/-! ## Sources in groups -/

namespace ClassDiagram

/-- One group around a source without remarks. -/
theorem read_around {g : ClassGroup} (h : isPlainName g.name = true) {dialect : Dialect} {source : Text}
    (hquiet : (read dialect source).diagnostics = []) : read dialect (g.around source) = read dialect source := by
  let pieces := splitBy (· == '\n') source
  let d := read dialect source
  have halone : ClassReader.start.run dialect 1 pieces = ⟨d, [], none⟩ := by
    have hread : (ClassReader.start.run dialect 1 pieces).finish source.lines.length = d :=
      congrArg (ClassReader.finish · _) (ClassReader.run_linesOfPieces .start dialect 1 pieces).symm
    exact hread ▸ ClassReader.eq_of_quiet_finish (hread ▸ hquiet)
  -- the same pieces within the group: only the group is left open behind them
  have hwithin : ClassReader.run dialect 2 pieces ⟨.empty, [.group g.name], none⟩ = ⟨d, [.group g.name], none⟩ := by
    have hfollows : (ClassReader.start.run dialect 1 pieces).Follows [g.name]
        (ClassReader.run dialect 2 pieces ⟨.empty, [.group g.name], none⟩) := by
      refine (ClassGroup.follows_opening g.name).run pieces (.inr ?_)
      rw [halone]
      exact hquiet
    rw [halone] at hfollows
    exact hfollows.eq_of_quiet hquiet
  have hclosing (number : Nat) :
      ClassReader.step dialect ⟨d, [.group g.name], none⟩ number ['\x7d'] = ⟨d, [], none⟩ :=
    ClassReader.step_brace (by decide)
  rw [read, ofLines, ClassGroup.lines_around h, ClassReader.run, ClassGroup.step_opening h, ClassReader.run_append,
    ClassReader.run_map trim_dropCarriageReturn, hwithin, ClassReader.run, hclosing]
  rfl

/-- Groups change nothing in a diagram that is read without remarks. -/
theorem read_grouped (dialect : Dialect) (groups : List ClassGroup) (source : Text)
    (hnames : ∀ g ∈ groups, isPlainName g.name = true) (hquiet : (read dialect source).diagnostics = []) :
    read dialect (grouped groups source) = read dialect source := by
  induction groups with
  | nil => rfl
  | cons g groups ih =>
    obtain ⟨hg, hgroups⟩ := List.forall_mem_cons.1 hnames
    have hinner : read dialect (grouped groups source) = read dialect source := ih hgroups
    rw [← hinner]
    exact read_around hg (hinner ▸ hquiet)

/-- A body, a relation and a note within two groups. -/
theorem read_grouped_nested :
    let groups : List ClassGroup := [⟨.package, "outer"⟩, ⟨.namespace, "inner_1"⟩]
    let source : Text := "class A \x7b\n  id\n\x7d\nA --|> B\nnote left of A\n  kept\nend note"
    (∀ g ∈ groups, isPlainName g.name = true) ∧ (read .plantUml source).diagnostics = [] ∧
      grouped groups source = "package outer \x7b\nnamespace inner_1 \x7b\n" ++ source ++ "\n\x7d\n\x7d" ∧
      (read .plantUml (grouped groups source)).classes = [⟨"A", none, [⟨.unspecified, "id", none⟩], []⟩, .ofName "B"] ∧
      (read .plantUml (grouped groups source)).notes = [⟨"A", "kept"⟩] := by
  intro groups source
  have hnames : ∀ g ∈ groups, isPlainName g.name = true := by decide
  have hquiet : (read .plantUml source).diagnostics = [] := by decide +kernel
  refine ⟨hnames, hquiet, by decide, ?_⟩
  rw [read_grouped .plantUml groups source hnames hquiet]
  decide +kernel

end ClassDiagram

end DiagramProse
