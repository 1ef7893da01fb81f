import DiagramProse.Proofs.ClassDiagram.Headers
import DiagramProse.Proofs.Text.Replacement

/-!
Generic arguments in a declaration. Behind the name of the class they are passed over, whatever is nested in them;
behind the name of a parent they stay, and the parent is another one (`ClassStatement.read_generics`). What looks
like the mark of a stereotype in an argument is taken for one, so that such arguments are left out
(`ClassHeader.isUnmistakable`): of two nested arguments the closing brackets stand side by side, and a stereotype
behind them is lost (`ClassStatement.read_generics_lost`).
-/

namespace DiagramProse

open Text

/-! ## Declarations with arguments -/

/-- Whether angle brackets are closed, `depth` being open already, with names, commas and spaces around them. -/
def isAngled : (depth : Nat) → Text → Bool
  | depth, [] => depth == 0
  | depth, c :: s =>
    if c = '<' then isAngled (depth + 1) s
    else if c = '>' then
      match depth with
      | 0 => false
      | depth + 1 => isAngled depth s
    else isListChar c && isAngled depth s

/-- What may stand between the angle brackets behind a name. -/
def isGenericArgument (s : Text) : Bool := !s.isEmpty && isAngled 0 s

/-- An argument in its brackets. -/
def angled (argument : Option Text) : Text :=
  match argument with
  | some s => '<' :: (s ++ ['>'])
  | none => []

/-- A name, perhaps with a generic argument right behind it. -/
structure GenericName where
  name : Text
  argument : Option Text
deriving DecidableEq, Repr

namespace GenericName

def text (n : GenericName) : Text := n.name ++ angled n.argument

def withoutArgument (n : GenericName) : GenericName := { n with argument := none }

def isWritable (n : GenericName) : Bool := isPlainName n.name && n.argument.all isGenericArgument

end GenericName

/-- A class, perhaps with a stereotype, with a class that it extends and with one that it implements. -/
structure ClassHeader where
  name : GenericName
  stereotype : Option Text
  extended : Option GenericName
  implemented : Option GenericName
deriving DecidableEq, Repr

namespace ClassHeader

/-- The mark of the stereotype behind the name. -/
def mark (h : ClassHeader) : Text :=
  match h.stereotype with
  | some label => " <<" ++ label ++ ">>"
  | none => []

def parentsText (h : ClassHeader) : Text :=
  clauses (h.extended.map GenericName.text) (h.implemented.map GenericName.text)

/-- What stands behind the keyword. -/
def rest (h : ClassHeader) : Text := h.name.text ++ h.mark ++ h.parentsText

def line (h : ClassHeader) : Text := "class " ++ h.rest

def withoutArguments (h : ClassHeader) : ClassHeader where
  name := h.name.withoutArgument
  stereotype := h.stereotype
  extended := h.extended.map GenericName.withoutArgument
  implemented := h.implemented.map GenericName.withoutArgument

/-- Whether there is an argument behind the name of a parent. -/
def hasGenericParent (h : ClassHeader) : Bool :=
  h.extended.any (·.argument.isSome) || h.implemented.any (·.argument.isSome)

def isWritable (h : ClassHeader) : Bool :=
  h.name.isWritable && h.stereotype.all isPlainName && h.extended.all GenericName.isWritable &&
    h.implemented.all GenericName.isWritable

end ClassHeader

/-- Two opening angle brackets side by side in front of the first two closing ones. -/
def holdsMark (s : Text) : Bool := (cut? ">>" s).any fun (before, _) => contains before "<<"

/-- Whether no argument is taken for the mark of a stereotype, nor hides the one that is there. -/
def ClassHeader.isUnmistakable (h : ClassHeader) : Bool :=
  match h.stereotype with
  | some _ => !contains h.name.text "<<" && !contains h.name.text ">>"
  | none => !holdsMark h.rest

/-! ## Arguments are passed over -/

/-- The argument ends at the bracket that closes the first one. -/
theorem afterAngles_append (depth : Nat) {s : Text} (h : isAngled depth s = true) (rest : Text) :
    afterAngles (depth + 1) (s ++ '>' :: rest) = trim rest := by
  fun_induction isAngled depth s with
  | case1 depth =>
    obtain rfl : depth = 0 := by simpa using h
    rfl
  | case2 depth s ih =>
    rw [List.cons_append, afterAngles, if_pos rfl]
    exact ih h
  | case3 => cases h
  | case4 s depth hopen ih =>
    rw [List.cons_append, afterAngles, if_neg hopen, if_pos rfl, if_neg (by omega)]
    exact ih h
  | case5 depth c s hopen hclose ih =>
    rw [Bool.and_eq_true] at h
    rw [List.cons_append, afterAngles, if_neg hopen, if_neg hclose]
    exact ih h.2

theorem isHeaderChar_of_isAngled (depth : Nat) {s : Text} (h : isAngled depth s = true) : s.all isHeaderChar = true := by
  fun_induction isAngled depth s with
  | case1 => rfl
  | case2 depth s ih => rw [List.all_cons, ih h]; rfl
  | case3 => cases h
  | case4 s depth _ ih => rw [List.all_cons, ih h]; rfl
  | case5 depth c s _ _ ih =>
    rw [Bool.and_eq_true] at h
    rw [List.all_cons, ih h.2, Bool.and_true, isHeaderChar, h.1]
    rfl

/-- What is known of a name with an argument that can be written. -/
structure GenericName.Written (n : GenericName) : Prop where
  name : isPlainName n.name = true
  argument : ∀ s ∈ n.argument, isAngled 0 s = true

namespace GenericName

variable {n : GenericName}

theorem written (h : n.isWritable = true) : n.Written := by
  rw [isWritable, Bool.and_eq_true, Option.all_eq_true] at h
  refine ⟨h.1, fun s hs => ?_⟩
  have hargument := h.2 s hs
  rw [isGenericArgument, Bool.and_eq_true] at hargument
  exact hargument.2

namespace Written

theorem withoutArgument (h : n.Written) : n.withoutArgument.Written := ⟨h.name, by simp [GenericName.withoutArgument]⟩

theorem chars (h : n.Written) : n.text.all isHeaderChar = true := by
  have hname := isHeaderChar_of_isListChar (isListChar_of_isPlainName h.name)
  have hargument : (angled n.argument).all isHeaderChar = true := by
    cases hn : n.argument with
    | none => rfl
    | some s =>
      have hs := isHeaderChar_of_isAngled 0 (h.argument s hn)
      rw [angled, List.all_cons, List.all_append, hs]
      decide
  rw [text, List.all_append, hname, hargument]
  rfl

theorem ne_nil (h : n.Written) : n.text ≠ [] := by simp [text, ne_nil_of_isPlainName h.name]

theorem tight (h : n.Written) : Tight n.text := by
  have hname := tight_of_not_blank (not_blank_of_isPlainName h.name)
  cases hn : n.argument with
  | none => simpa [text, angled, hn] using hname
  | some s =>
    have := tight_append (m := '<' :: s) hname (by decide : Tight ['>']) (ne_nil_of_isPlainName h.name) (by decide)
    simpa [text, angled, hn] using this

/-- What stands behind a name and its argument. -/
theorem skipGeneric (h : n.Written) {rest : Text} (hrest : ∀ c ∈ rest.head?, c = ' ') :
    DiagramProse.skipGeneric (angled n.argument ++ rest) = trim rest := by
  cases hn : n.argument with
  | none => exact skipGeneric_of_space hrest
  | some s =>
    have hskip := afterAngles_append 0 (h.argument s hn) rest
    simpa [angled, DiagramProse.skipGeneric] using hskip

theorem splitName? (h : n.Written) {rest : Text} (hrest : ∀ c ∈ rest.head?, c = ' ') :
    DiagramProse.splitName? (n.text ++ rest) = some (n.name, trim rest) := by
  have hhead : ∀ c ∈ (angled n.argument ++ rest).head?, c = ' ' ∨ c = '<' := by
    cases n.argument with
    | none => exact fun c hc => .inl (hrest c hc)
    | some s => simp [angled]
  rw [text, List.append_assoc, splitName?_append h.name hhead, h.skipGeneric hrest]

end Written

end GenericName

/-! ## Marks of stereotypes -/

/-- A text is cut where its first character is found first. -/
theorem cut?_append_of_head {c : Char} {s : Text} (h : c ∉ s) (p t : Text) :
    cut? (c :: p) (s ++ (c :: p ++ t)) = some (s, t) := by
  induction s with
  | nil => exact cut?_self_append (List.cons_ne_nil c p) t
  | cons d s ih =>
    obtain ⟨hd, hs⟩ := not_or.1 (mt List.mem_cons.2 h)
    have hdrop : dropPrefix? (d :: (s ++ (c :: p ++ t))) (c :: p) = none := by
      rw [dropPrefix?, if_neg (Ne.symm hd)]
    rw [List.cons_append, cut?, hdrop, ih hs]
    rfl

/-- Opening brackets are left alone unless the closing ones come behind them. -/
theorem splitStereotype_of_not_holdsMark {s : Text} (h : holdsMark s = false) : splitStereotype s = (none, s) := by
  unfold splitStereotype
  split
  · next before after upToEnd rest hopen hclose =>
    refine if_neg fun hlt => ?_
    -- the opening brackets stand in front of the closing ones
    have hs : before ++ ("<<" ++ after) = upToEnd ++ (">>" ++ rest) := by
      rw [← List.append_assoc, ← List.append_assoc, ← cut?_eq_some hopen, ← cut?_eq_some hclose]
    have hfound : contains upToEnd "<<" = true := by
      rcases List.append_eq_append_iff.1 hs with ⟨a, rfl, ha⟩ | ⟨a, rfl, -⟩
      · rcases a with _ | ⟨c, _ | ⟨d, a⟩⟩
        · simp at hlt
        · simp at ha
        · obtain ⟨rfl, rfl, -⟩ : '<' = c ∧ '<' = d ∧ after = a ++ (">>" ++ rest) := by simpa using ha
          exact contains_iff.2 ⟨before, a, List.append_assoc ..⟩
      · exact absurd hlt (by simp)
    rw [holdsMark, hclose] at h
    exact absurd hfound (Bool.eq_false_iff.1 h)
  · rfl

theorem splitStereotype_mark {a label t : Text} (hopen : contains a "<<" = false) (hclose : contains a ">>" = false)
    (hlabel : '>' ∉ label) :
    splitStereotype (a ++ ' ' :: ("<<" ++ (label ++ (">>" ++ t)))) = (some (.ofLabel label), a ++ ' ' :: ' ' :: t) := by
  have hnone : ∀ {p : Text}, contains a p = false → cut? p a = none := fun h => by
    rwa [contains, Option.isSome_eq_false_iff, Option.isNone_iff_eq_none] at h
  have hcutOpen : cut? "<<" (a ++ ' ' :: ("<<" ++ (label ++ (">>" ++ t)))) = some (a ++ [' '], label ++ (">>" ++ t)) := by
    rw [cut?_append_cons (by decide) (by decide), hnone hopen, cut?_self_append (by decide)]
    rfl
  have hcutClose : cut? ">>" (a ++ ' ' :: ("<<" ++ (label ++ (">>" ++ t)))) = some (a ++ ' ' :: ("<<" ++ label), t) := by
    have hmark : '>' ∉ ("<<" ++ label : Text) := by simp [hlabel]
    have hcut := cut?_append_of_head hmark ['>'] t
    rw [List.append_assoc] at hcut
    rw [cut?_append_cons (by decide) (by decide), hnone hclose]
    exact congrArg (Option.map _) hcut
  have hlength : (a ++ [' ']).length < (a ++ ' ' :: ("<<" ++ label)).length := by
    simp only [List.length_append, List.length_cons, List.length_nil]
    have : 2 ≤ ("<<" : Text).length := by decide
    omega
  have hdrop : (a ++ ' ' :: ("<<" ++ label)).drop ((a ++ [' ']).length + 2) = label := by
    have hmark : a ++ ' ' :: ("<<" ++ label) = (a ++ [' '] ++ "<<") ++ label := by
      rw [List.append_assoc, List.append_assoc]
      rfl
    rw [hmark]
    exact List.drop_left' List.length_append
  rw [splitStereotype, hcutOpen, hcutClose]
  dsimp only
  rw [if_pos hlength, hdrop, List.append_assoc]
  rfl

/-! ## Reading declarations -/

namespace ClassHeader

variable {h : ClassHeader}

/-- What is known of a declaration that can be written. -/
structure Written (h : ClassHeader) : Prop where
  name : h.name.Written
  stereotype : ∀ label ∈ h.stereotype, isPlainName label = true
  extended : ∀ n ∈ h.extended, n.Written
  implemented : ∀ n ∈ h.implemented, n.Written

theorem written (hw : h.isWritable = true) : h.Written := by
  simp only [isWritable, Bool.and_eq_true, Option.all_eq_true] at hw
  obtain ⟨⟨⟨hname, hstereotype⟩, hextended⟩, himplemented⟩ := hw
  exact ⟨GenericName.written hname, hstereotype, fun n hn => GenericName.written (hextended n hn),
    fun n hn => GenericName.written (himplemented n hn)⟩

namespace Written

theorem withoutArguments (hw : h.Written) : h.withoutArguments.Written :=
  ⟨hw.name.withoutArgument, hw.stereotype, Option.forall_mem_map.2 fun n hn => (hw.extended n hn).withoutArgument,
    Option.forall_mem_map.2 fun n hn => (hw.implemented n hn).withoutArgument⟩

theorem parentsText_chars (hw : h.Written) : h.parentsText.all isHeaderChar = true :=
  clauses_all (by decide) (Option.forall_mem_map.2 fun n hn => (hw.extended n hn).chars)
    (Option.forall_mem_map.2 fun n hn => (hw.implemented n hn).chars)

theorem chars (hw : h.Written) : h.rest.all isHeaderChar = true := by
  have hmark : h.mark.all isHeaderChar = true := by
    rw [mark]
    split
    · next label hlabel =>
      have hplain := isHeaderChar_of_isListChar (isListChar_of_isPlainName (hw.stereotype label hlabel))
      rw [List.all_append, List.all_append, hplain]
      decide
    · rfl
  rw [rest, List.all_append, List.all_append, hw.name.chars, hmark, hw.parentsText_chars]
  rfl

theorem tight (hw : h.Written) : Tight h.rest := by
  have hmarked : Tight (h.name.text ++ h.mark) := by
    rw [mark]
    split
    · next label _ =>
      have := tight_append (m := " <<" ++ label) hw.name.tight (by decide : Tight ">>") hw.name.ne_nil (by decide)
      rwa [List.append_assoc] at this
    · rw [List.append_nil]
      exact hw.name.tight
  have hparent : ∀ n : GenericName, n.Written → n.text ≠ [] ∧ ∀ c ∈ n.text.getLast?, isBlank c = false :=
    fun n hn => ⟨hn.ne_nil, hn.tight.last⟩
  exact tight_append_clauses hmarked (by simp [hw.name.ne_nil]) (Option.forall_mem_map.2 fun n hn => hparent n (hw.extended n hn))
    (Option.forall_mem_map.2 fun n hn => hparent n (hw.implemented n hn))

/-- The stereotype is found, and blanks stand in its place. -/
theorem splitStereotype (hw : h.Written) (hmarks : h.isUnmistakable = true) :
    ∃ gap : Text, (∀ c ∈ gap, c = ' ') ∧ DiagramProse.splitStereotype h.rest =
      (h.stereotype.map .ofLabel, h.name.text ++ (gap ++ h.parentsText)) := by
  rw [isUnmistakable] at hmarks
  rw [rest, mark]
  split at hmarks
  · next label hlabel =>
    rw [Bool.and_eq_true, Bool.not_eq_true', Bool.not_eq_true'] at hmarks
    have hclose : '>' ∉ label := not_mem_of_isPlainName (hw.stereotype label hlabel) (by decide)
    have hmark := splitStereotype_mark hmarks.1 hmarks.2 hclose (t := h.parentsText)
    refine ⟨"  ", by decide, ?_⟩
    rw [hlabel]
    simpa using hmark
  · next hlabel =>
    have hnone : DiagramProse.splitStereotype h.rest = (none, h.rest) :=
      splitStereotype_of_not_holdsMark (by simpa using hmarks)
    refine ⟨[], by simp, ?_⟩
    rw [rest, mark, hlabel] at hnone
    rw [hlabel]
    simpa using hnone

end Written

/-- What is read of a declaration whose marks are plain. -/
theorem read_line (hw : h.Written) (hmarks : h.isUnmistakable = true) :
    ClassStatement.read h.line = .declaration
      ⟨h.name.name, h.stereotype.map .ofLabel, (readClauses none (words h.parentsText)).2, false, []⟩ := by
  obtain ⟨gap, hgap, hgiven⟩ := hw.splitStereotype hmarks
  have hgapChars : gap.all isHeaderChar = true := List.all_eq_true.2 fun c hc => by
    rw [hgap c hc]
    decide
  have hleft : (h.name.text ++ (gap ++ h.parentsText)).all isHeaderChar = true := by
    rw [List.all_append, List.all_append, hw.name.chars, hgapChars, hw.parentsText_chars]
    rfl
  have hblank : ∀ c ∈ gap, isBlank c = true := fun c hc => by
    rw [hgap c hc]
    rfl
  have hhead : ∀ c ∈ (trimEnd (gap ++ h.parentsText)).head?, c = ' ' := by
    intro c hc
    obtain ⟨after, hafter⟩ : trimEnd (gap ++ h.parentsText) <+: gap ++ h.parentsText := dropEndWhile_prefix isBlank _
    have hfirst : c ∈ (gap ++ h.parentsText).head? := by
      rw [← hafter, List.head?_append, Option.mem_def.1 hc]
      rfl
    cases gap with
    | nil => exact clauses_head _ _ c hfirst
    | cons d gap =>
      obtain rfl : d = c := Option.some.inj hfirst
      exact hgap d List.mem_cons_self
  have hsplit : splitName? (trim (h.name.text ++ (gap ++ h.parentsText))) =
      some (h.name.name, trim (trimEnd (gap ++ h.parentsText))) := by
    rw [trim_append hw.name.tight hw.name.ne_nil, hw.name.splitName? hhead]
  have hwords : words (trim (trimEnd (gap ++ h.parentsText))) = words h.parentsText := by
    rw [trim_trimEnd, words_trim]
    exact fields_separators_append hblank _
  have hread := ClassDeclaration.read?_header hw.tight hw.chars hgiven hleft hw.name.name hsplit
    (by rw [hwords]; exact readClauses_clauses_fst _ _)
  rw [hwords] at hread
  exact ClassStatement.read_class hread

/-! ### With arguments and without -/

theorem withoutArguments_text (n : GenericName) : n.withoutArgument.text = n.name := List.append_nil _

theorem withoutArguments_chars (hw : h.Written) : h.withoutArguments.parentsText.all isListChar = true := by
  have hparent : ∀ {o : Option GenericName}, (∀ n ∈ o, n.Written) →
      ∀ t ∈ (o.map GenericName.withoutArgument).map GenericName.text, t.all isListChar = true := by
    intro o ho
    refine Option.forall_mem_map.2 (Option.forall_mem_map.2 fun n hn => ?_)
    rw [withoutArguments_text]
    exact isListChar_of_isPlainName (ho n hn).name
  exact clauses_all (by decide) (hparent hw.extended) (hparent hw.implemented)

/-- Without arguments there is nothing that could be mistaken. -/
theorem withoutArguments_isUnmistakable (hw : h.Written) : h.withoutArguments.isUnmistakable = true := by
  have hopen : '<' ∉ h.name.name := not_mem_of_isPlainName hw.name.name (by decide)
  have hclose : '>' ∉ h.name.name := not_mem_of_isPlainName hw.name.name (by decide)
  have htext : h.withoutArguments.name.text = h.name.name := withoutArguments_text h.name
  rw [isUnmistakable]
  split
  · rw [htext, not_contains (d := '<') (by decide) hopen, not_contains (d := '>') (by decide) hclose]
    rfl
  · next hnone =>
    have hparents : '>' ∉ h.withoutArguments.parentsText := not_mem_of_all (withoutArguments_chars hw) (by decide)
    have hrest : '>' ∉ h.withoutArguments.rest := by
      rw [rest, mark, hnone, htext]
      simp [hclose, hparents]
    rw [holdsMark, cut?_eq_none (d := '>') (by decide) hrest]
    rfl

/-- Arguments behind parents are seen in the text of the parents. -/
theorem angle_mem_parentsText (hgeneric : h.hasGenericParent = true) : '<' ∈ h.parentsText := by
  have hparent : ∀ {o : Option GenericName} {word : Text}, o.any (·.argument.isSome) = true →
      '<' ∈ clause word (o.map GenericName.text) := by
    intro o word ho
    obtain ⟨n, rfl, hn⟩ := (Option.any_eq_true _ _).1 ho
    obtain ⟨s, hs⟩ := Option.isSome_iff_exists.1 hn
    simp [clause, GenericName.text, angled, hs]
  rw [hasGenericParent, Bool.or_eq_true] at hgeneric
  rw [parentsText, clauses, List.mem_append]
  exact hgeneric.imp hparent hparent

theorem parentsText_withoutArguments (hplain : h.hasGenericParent = false) :
    h.withoutArguments.parentsText = h.parentsText := by
  have hparent : ∀ {o : Option GenericName}, o.any (·.argument.isSome) = false →
      o.map GenericName.withoutArgument = o := by
    intro o ho
    rcases o with _ | ⟨name, _ | s⟩
    · rfl
    · rfl
    · cases ho
  rw [hasGenericParent, Bool.or_eq_false_iff] at hplain
  rw [parentsText, parentsText, withoutArguments, hparent hplain.1, hparent hplain.2]

end ClassHeader

/-- Arguments behind the name of a class change nothing in what is declared, and arguments behind the name of a
parent always make another parent of it. -/
theorem ClassStatement.read_generics (h : ClassHeader) (hw : h.isWritable = true) (hmarks : h.isUnmistakable = true) :
    ∃ parents parents',
      ClassStatement.read h.line =
        .declaration ⟨h.name.name, h.stereotype.map .ofLabel, parents, false, []⟩ ∧
      ClassStatement.read h.withoutArguments.line =
        .declaration ⟨h.name.name, h.stereotype.map .ofLabel, parents', false, []⟩ ∧
      (parents = parents' ↔ h.hasGenericParent = false) := by
  have hwritten := ClassHeader.written hw
  refine ⟨_, _, ClassHeader.read_line hwritten hmarks, ClassHeader.read_line hwritten.withoutArguments
    (ClassHeader.withoutArguments_isUnmistakable hwritten), fun heq => ?_, fun hplain => ?_⟩
  · -- an argument would put an angle bracket into the name of a parent
    refine Bool.eq_false_iff.2 fun hgeneric => ?_
    obtain ⟨p, hp, hangle⟩ := (angle_mem_parents _ _).2 (ClassHeader.angle_mem_parentsText hgeneric)
    have hin := (angle_mem_parents _ _).1 ⟨p, heq ▸ hp, hangle⟩
    exact not_mem_of_all (ClassHeader.withoutArguments_chars hwritten) (by decide) hin
  · rw [ClassHeader.parentsText_withoutArguments hplain]

/-- An argument with another one nested in it, and a stereotype behind it. The argument of the parent makes it another
one. -/
theorem ClassStatement.read_generics_nested :
    let h : ClassHeader := ⟨⟨"Box", some "K<X>, V"⟩, some "entity", some ⟨"Base", some "T"⟩, some ⟨"Q", none⟩⟩
    h.isWritable = true ∧ h.isUnmistakable = true ∧
      h.line = "class Box<K<X>, V> <<entity>> extends Base<T> implements Q" ∧
      h.withoutArguments.line = "class Box <<entity>> extends Base implements Q" ∧
      ∃ parents parents',
        ClassStatement.read h.line = .declaration ⟨"Box", some (.custom "entity"), parents, false, []⟩ ∧
        ClassStatement.read h.withoutArguments.line =
          .declaration ⟨"Box", some (.custom "entity"), parents', false, []⟩ ∧
        parents ≠ parents' := by
  intro h
  have hw : h.isWritable = true := by decide +kernel
  have hmarks : h.isUnmistakable = true := by decide +kernel
  obtain ⟨parents, parents', hread, hread', hparents⟩ := read_generics h hw hmarks
  exact ⟨hw, hmarks, by decide, by decide, parents, parents', hread, hread', mt hparents.1 (by decide)⟩

/-- The argument of a parent becomes part of its name, and a comma in it makes two parents of one. The brackets that
close two arguments hide a stereotype behind them. -/
theorem ClassStatement.read_generics_lost :
    ClassStatement.read "class Box extends Base<T>" =
        .declaration ⟨"Box", none, [("Base<T>", .inheritance)], false, []⟩ ∧
      ClassStatement.read "class Box extends Base<K,V>" =
        .declaration ⟨"Box", none, [("Base<K", .inheritance), ("V>", .inheritance)], false, []⟩ ∧
      ClassStatement.read "class Box extends Base" =
        .declaration ⟨"Box", none, [("Base", .inheritance)], false, []⟩ ∧
      ClassStatement.read "class Box<List<T>> <<entity>>" = .declaration ⟨"Box", none, [], false, []⟩ ∧
      ClassStatement.read "class Box <<entity>>" =
        .declaration ⟨"Box", some (.custom "entity"), [], false, []⟩ := by
  decide +kernel

end DiagramProse
