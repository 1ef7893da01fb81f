import DiagramProse.ActivityDiagram.Reading
import Mathlib.Tactic.Common

/-!
No activity is lost, read twice or moved. Of any source, the activities of the diagram are some of
those that the lines add, in the order of the lines; they are all of them if there is no remark
(`activityTexts_sublist_added`). What a line adds is said without regard to open blocks, so that the
order of the lines is the measure of the walk through the diagram; it is what reading the line puts
there (`contents_step`).

The texts within open blocks are counted along (`contents`): a step puts the new activity behind all
of them, moves texts from a block to what is around it, or drops blocks and remarks on that.
-/

namespace DiagramProse

open Text

/-! ## Activities of a source -/

/-- The activity that a statement adds, if any. -/
def FlowStatement.added : FlowStatement → List Text
  | .activity text => [cleanActivity text]
  | .openRepeat (some first) => [cleanActivity first]
  | _ => []

namespace FlowReader

/-- The activity that is added when a line is read. -/
def added (r : FlowReader) (raw : Text) : List Text :=
  match r.pending with
  | some a =>
    match dropSuffix? raw.trim [';'] with
    | some last => [cleanActivity (join [' '] (a.parts ++ [last]))]
    | none => []
  | none => if r.inNote then [] else (FlowStatement.read raw.trim).added

/-- The activities that are added when lines are read, the first of which has the given number. -/
def addedBy : (number : Nat) → List Text → FlowReader → List Text
  | _, [], _ => []
  | number, line :: rest, r => r.added line ++ addedBy (number + 1) rest (r.step number line)

end FlowReader

/-- The activities that the lines of a source add, in order. -/
def ActivityDiagram.added (source : Text) : List Text := FlowReader.start.addedBy 1 source.lines

/-! ## Texts within open blocks -/

theorem textsOf_append (es fs : List FlowElement) :
    FlowElement.textsOf (es ++ fs) = FlowElement.textsOf es ++ FlowElement.textsOf fs := by
  induction es with
  | nil => rfl
  | cons e es ih => simp [FlowElement.textsOf, ih]

theorem textsOf_singleton (e : FlowElement) : FlowElement.textsOf [e] = e.texts := by
  simp [FlowElement.textsOf]

theorem textsOfBranches_append (bs cs : List (List FlowElement)) :
    FlowElement.textsOfBranches (bs ++ cs) =
      FlowElement.textsOfBranches bs ++ FlowElement.textsOfBranches cs := by
  induction bs with
  | nil => rfl
  | cons b bs ih => simp [FlowElement.textsOfBranches, ih]

theorem textsOfBranches_singleton (b : List FlowElement) :
    FlowElement.textsOfBranches [b] = FlowElement.textsOf b := by
  simp [FlowElement.textsOfBranches]

namespace OpenBlock

/-- The texts of the activities read within a block. -/
def texts : OpenBlock → List Text
  | partition _ es => FlowElement.textsOf es
  | decision _ yes no _ _ => FlowElement.textsOf yes ++ FlowElement.textsOf no
  | whileLoop _ _ es => FlowElement.textsOf es
  | repeatLoop es => FlowElement.textsOf es
  | fork bs current => FlowElement.textsOfBranches bs ++ FlowElement.textsOf current

/-- A decision has a no-branch only if that is the branch that is read. -/
def Tidy : OpenBlock → Prop
  | decision _ _ no inElse _ => inElse = false → no = []
  | _ => True

theorem texts_add {b : OpenBlock} (h : b.Tidy) (e : FlowElement) :
    (b.add e).texts = b.texts ++ e.texts := by
  cases b with
  | decision c yes no inElse chained =>
    cases inElse with
    | false =>
      obtain rfl := h rfl
      simp [add, texts, textsOf_append, FlowElement.textsOf]
    | true => simp [add, texts, textsOf_append, textsOf_singleton]
  | _ => simp [add, texts, textsOf_append, textsOf_singleton]

theorem Tidy.add {b : OpenBlock} (h : b.Tidy) (e : FlowElement) : (b.add e).Tidy := by
  cases b with
  | decision c yes no inElse chained =>
    cases inElse with
    | false => exact h
    | true => simp [OpenBlock.add, Tidy]
  | _ => trivial

end OpenBlock

namespace FlowReader

/-- The texts within open blocks, outer blocks first. -/
def openTexts (entries : List BlockEntry) : List Text := entries.reverse.flatMap fun e => e.block.texts

/-- All texts that a reader has kept. -/
def contents (r : FlowReader) : List Text := FlowElement.textsOf r.elements ++ openTexts r.blocks

def Tidy (r : FlowReader) : Prop := ∀ e ∈ r.blocks, e.block.Tidy

@[simp] theorem openTexts_cons (e : BlockEntry) (entries : List BlockEntry) :
    openTexts (e :: entries) = openTexts entries ++ e.block.texts := by
  simp [openTexts]

@[simp] theorem openTexts_append (inner outer : List BlockEntry) :
    openTexts (inner ++ outer) = openTexts outer ++ openTexts inner := by
  simp [openTexts]

/-! ## What a step keeps -/

/-- `r'` is reached from `r` by adding some texts: it has the texts of `r` and then the added ones,
less those whose loss is remarked on. -/
structure Keeps (r r' : FlowReader) (added : List Text) : Prop where
  tidy : r'.Tidy
  diagnostics : r.diagnostics <+: r'.diagnostics
  sublist : r'.contents.Sublist (r.contents ++ added)
  whole : r'.diagnostics = [] → r'.contents = r.contents ++ added

namespace Keeps

variable {r r' r'' : FlowReader} {xs ys : List Text}

theorem of_eq (tidy : r'.Tidy) (diagnostics : r.diagnostics <+: r'.diagnostics)
    (contents : r'.contents = r.contents ++ xs) : Keeps r r' xs :=
  ⟨tidy, diagnostics, contents ▸ List.Sublist.refl _, fun _ => contents⟩

theorem refl (h : r.Tidy) : Keeps r r [] := of_eq h (List.prefix_refl _) (by simp)

theorem trans (h : Keeps r r' xs) (h' : Keeps r' r'' ys) : Keeps r r'' (xs ++ ys) := by
  refine ⟨h'.tidy, h.diagnostics.trans h'.diagnostics, ?_, fun hd => ?_⟩
  · have hs := h'.sublist.trans (h.sublist.append (List.Sublist.refl ys))
    rwa [List.append_assoc] at hs
  · have hd' : r'.diagnostics = [] := List.prefix_nil.1 (hd ▸ h'.diagnostics)
    rw [h'.whole hd, h.whole hd', List.append_assoc]

end Keeps

variable {r : FlowReader}

theorem report_keeps (h : r.Tidy) (line : Nat) (problem : FlowProblem) :
    Keeps r (r.report line problem) [] :=
  .of_eq h (List.prefix_append _ _) (by simp [contents, report])

/-- A new element goes behind everything that was kept, since the innermost block is the last. -/
theorem contents_add (h : r.Tidy) (e : FlowElement) : (r.add e).contents = r.contents ++ e.texts := by
  unfold add
  split
  · next hb => simp [contents, hb, textsOf_append, textsOf_singleton, openTexts]
  · next top rest hb =>
    have htop : top.block.Tidy := h top (by simp [hb])
    simp [contents, hb, OpenBlock.texts_add htop]

theorem tidy_add (h : r.Tidy) (e : FlowElement) : (r.add e).Tidy := by
  unfold add
  split
  · exact h
  · next top rest hb =>
    intro x hx
    rcases List.mem_cons.1 hx with rfl | hx
    · exact OpenBlock.Tidy.add (h top (by simp [hb])) e
    · exact h x (by simp [hb, hx])

theorem add_keeps (h : r.Tidy) (e : FlowElement) : Keeps r (r.add e) e.texts := by
  have hd : (r.add e).diagnostics = r.diagnostics := by
    unfold add
    split <;> rfl
  exact .of_eq (tidy_add h e) (hd ▸ List.prefix_refl _) (contents_add h e)

theorem addActivity_keeps (h : r.Tidy) (text : Text) :
    Keeps r (r.addActivity text) [cleanActivity text] := add_keeps h _

theorem contents_openBlock (line : Nat) {b : OpenBlock} (ht : b.texts = []) :
    (r.openBlock line b).contents = r.contents := by
  simp [contents, openBlock, ht]

theorem openBlock_keeps (h : r.Tidy) (line : Nat) {b : OpenBlock} (hb : b.Tidy) (ht : b.texts = []) :
    Keeps r (r.openBlock line b) [] := by
  refine .of_eq ?_ (List.prefix_refl _) (by rw [contents_openBlock line ht, List.append_nil])
  intro x hx
  rcases List.mem_cons.1 hx with rfl | hx
  · exact hb
  · exact h x hx

/-- A block that ends becomes an element of what is around it; the blocks within it are lost. -/
theorem close_keeps {r' : FlowReader} {kind : BlockKind} {line : Nat} {keyword : Text} {b : OpenBlock}
    (h : r.Tidy) (hc : r.close kind line keyword = (r', some b)) {e : FlowElement}
    (he : e.texts = b.texts) : Keeps r (r'.add e) [] := by
  unfold close at hc
  split at hc
  · cases hc
  · next within found around hf =>
    obtain ⟨line', hl⟩ := findBlock?_eq_some hf
    cases hc
    -- the reader between the end of the block and the new element: what was within is gone
    have hadd := add_keeps (r := { r with
      blocks := around
      diagnostics := r.diagnostics ++ within.map fun e => ⟨e.line, .closedBefore e.block.blockName keyword⟩ })
      (fun x hx => h x (by simp [hl, hx])) e
    have hcontents : r.contents = FlowElement.textsOf r.elements ++ openTexts around ++ b.texts ++
        openTexts within := by
      simp [contents, hl]
    refine ⟨hadd.tidy, (List.prefix_append _ _).trans hadd.diagnostics, ?_, fun hd => ?_⟩
    · rw [List.append_nil, hcontents, ← he]
      exact hadd.sublist.trans (List.sublist_append_left _ _)
    · -- each block within is remarked on, so without remarks there is none
      have hd' := List.prefix_nil.1 (hd ▸ hadd.diagnostics)
      obtain ⟨-, hw⟩ := List.append_eq_nil_iff.1 hd'
      obtain rfl := List.map_eq_nil_iff.1 hw
      rw [hadd.whole hd, hcontents, he]
      simp [contents, openTexts]

theorem kind_of_findBlock? {kind : BlockKind} {entries within around : List BlockEntry} {b : OpenBlock}
    (h : findBlock? kind entries = some (within, b, around)) : b.kind = kind := by
  induction entries generalizing within with
  | nil => cases h
  | cons e rest ih =>
    unfold findBlock? at h
    split at h
    · cases h; assumption
    · obtain ⟨⟨w, f, a⟩, hw, he⟩ := Option.map_eq_some_iff.1 h
      cases he
      exact ih hw

/-- Where no block ends there is a remark and nothing else. -/
theorem close_keeps_none {r' : FlowReader} {kind : BlockKind} {line : Nat} {keyword : Text}
    {found : Option OpenBlock} (h : r.Tidy) (hc : r.close kind line keyword = (r', found))
    (hn : ∀ b, found = some b → b.kind ≠ kind) : Keeps r r' [] := by
  unfold close at hc
  split at hc
  · cases hc; exact report_keeps h _ _
  · next hf => cases hc; exact absurd (kind_of_findBlock? hf) (hn _ rfl)

theorem closeDecision_keeps (h : r.Tidy) (line : Nat) : Keeps r (r.closeDecision line) [] := by
  -- one step for each decision of a chain; a decision that is not chained ends it
  fun_induction closeDecision r line with
  | case1 r r' condition yes no inElse r'' hc ih =>
    have hk : Keeps r r'' [] := close_keeps h hc rfl
    exact hk.trans (ih hk.tidy)
  | case2 r r' condition yes no inElse chained hc r'' => exact close_keeps h hc rfl
  | case3 r r' found hne hc =>
    refine close_keeps_none h hc fun b hb hk => ?_
    cases b with
    | decision c yes no inElse chained => exact hne c yes no inElse chained hb
    | _ => cases hk

theorem endWhile_keeps (h : r.Tidy) (line : Nat) (exit : Option Text) :
    Keeps r (r.endWhile line exit) [] := by
  unfold endWhile
  split
  · next hc => exact close_keeps h hc rfl
  · next hc => exact close_keeps_none h hc fun b hb hk => by cases b <;> simp_all [OpenBlock.kind]

theorem endRepeat_keeps (h : r.Tidy) (line : Nat) (condition : Text) :
    Keeps r (r.endRepeat line condition) [] := by
  unfold endRepeat
  split
  · next hc => exact close_keeps h hc rfl
  · next hc => exact close_keeps_none h hc fun b hb hk => by cases b <;> simp_all [OpenBlock.kind]

theorem endFork_keeps (h : r.Tidy) (line : Nat) (keyword : Text) :
    Keeps r (r.endFork line keyword) [] := by
  unfold endFork
  split
  · next hc =>
    refine close_keeps h hc ?_
    simp [FlowElement.texts, OpenBlock.texts, textsOfBranches_append, textsOfBranches_singleton]
  · next hc => exact close_keeps_none h hc fun b hb hk => by cases b <;> simp_all [OpenBlock.kind]

theorem endPartition_keeps (h : r.Tidy) (line : Nat) (keyword : Text) :
    Keeps r (r.endPartition line keyword) [] := by
  unfold endPartition
  split
  · next hc => exact close_keeps h hc rfl
  · next hc => exact close_keeps_none h hc fun b hb hk => by cases b <;> simp_all [OpenBlock.kind]

theorem enterElse?_keeps {r' : FlowReader} (h : r.Tidy) (he : r.enterElse? = some r') :
    Keeps r r' [] := by
  unfold enterElse? at he
  split at he
  · next c yes no inElse chained line rest hb =>
    cases he
    refine .of_eq ?_ (List.prefix_refl _) (by simp [contents, hb, OpenBlock.texts])
    intro x hx
    rcases List.mem_cons.1 hx with rfl | hx
    · intro hf
      cases hf
    · exact h x (by simp [hb, hx])
  · cases he

theorem nextBranch?_keeps {r' : FlowReader} (h : r.Tidy) (hn : r.nextBranch? = some r') :
    Keeps r r' [] := by
  unfold nextBranch? at hn
  split at hn
  · next branches current line rest hb =>
    cases hn
    refine .of_eq ?_ (List.prefix_refl _) ?_
    · intro x hx
      rcases List.mem_cons.1 hx with rfl | hx
      · trivial
      · exact h x (by simp [hb, hx])
    · simp [contents, hb, OpenBlock.texts, textsOfBranches_append, textsOfBranches_singleton,
        FlowElement.textsOf]
  · cases hn

theorem apply_keeps (h : r.Tidy) (line : Nat) (s : FlowStatement) :
    Keeps r (r.apply line s) s.added := by
  cases s with
  | skip => exact .refl h
  | note isOpen =>
    exact .of_eq h (List.prefix_refl _) (by simp [FlowReader.apply, FlowStatement.added, contents])
  | activity text => exact addActivity_keeps h text
  | openActivity first =>
    exact .of_eq h (List.prefix_refl _) (by simp [FlowReader.apply, FlowStatement.added, contents])
  | start => exact add_keeps h .start
  | stop => exact add_keeps h .stop
  | finish => exact add_keeps h .finish
  | openIf condition => exact openBlock_keeps h line (fun _ => rfl) rfl
  | elseIf condition =>
    cases he : r.enterElse? with
    | none => simpa [FlowReader.apply, FlowStatement.added, he] using report_keeps h line .strayElseIf
    | some r' =>
      have hk := enterElse?_keeps h he
      have ho := openBlock_keeps (b := .decision condition [] [] false true) hk.tidy line (fun _ => rfl) rfl
      simpa [FlowReader.apply, FlowStatement.added, he] using hk.trans ho
  | elseBranch =>
    cases he : r.enterElse? with
    | none => simpa [FlowReader.apply, FlowStatement.added, he] using report_keeps h line .strayElse
    | some r' => simpa [FlowReader.apply, FlowStatement.added, he] using enterElse?_keeps h he
  | endIf => exact closeDecision_keeps h line
  | openWhile condition value => exact openBlock_keeps h line trivial rfl
  | endWhile exit => exact endWhile_keeps h line exit
  | openRepeat first =>
    have ho := openBlock_keeps (b := .repeatLoop []) h line trivial rfl
    cases first with
    | none => exact ho
    | some first => exact ho.trans (addActivity_keeps ho.tidy first)
  | endRepeat condition => exact endRepeat_keeps h line condition
  | openFork => exact openBlock_keeps h line trivial rfl
  | forkAgain keyword =>
    cases hn : r.nextBranch? with
    | none =>
      simpa [FlowReader.apply, FlowStatement.added, hn] using report_keeps h line (.strayBranch keyword)
    | some r' => simpa [FlowReader.apply, FlowStatement.added, hn] using nextBranch?_keeps h hn
  | endFork keyword => exact endFork_keeps h line keyword
  | openPartition name => exact openBlock_keeps h line trivial rfl
  | endPartition keyword => exact endPartition_keeps h line keyword

theorem step_keeps (h : r.Tidy) (number : Nat) (raw : Text) :
    Keeps r (r.step number raw) (r.added raw) := by
  unfold step added
  cases hp : r.pending with
  | some a =>
    simp only [continueActivity]
    cases dropSuffix? raw.trim [';'] with
    | none => exact .of_eq h (List.prefix_refl _) (by simp [contents])
    | some last =>
      have hr : Keeps r { r with pending := none } [] := .of_eq h (List.prefix_refl _) (by simp [contents])
      exact hr.trans (addActivity_keeps hr.tidy _)
  | none =>
    simp only
    split
    · exact .of_eq h (List.prefix_refl _) (by simp [contents])
    · exact apply_keeps h number _

/-- What a line is said to add is there as soon as the line is read, behind all texts kept before: nothing
is lost on a line that adds something. -/
theorem contents_step (h : r.Tidy) (number : Nat) {raw : Text} (ha : r.added raw ≠ []) :
    (r.step number raw).contents = r.contents ++ r.added raw := by
  unfold step
  unfold added at ha ⊢
  cases hp : r.pending with
  | some a =>
    simp only [hp, continueActivity] at ha ⊢
    cases hd : dropSuffix? raw.trim [';'] with
    | none => simp [hd] at ha
    | some last => exact contents_add (r := { r with pending := none }) h _
  | none =>
    simp only [hp] at ha ⊢
    split
    · next hn => simp [hn] at ha
    · next hn =>
      rw [if_neg hn] at ha
      -- only two statements add an activity
      generalize FlowStatement.read raw.trim = s at ha ⊢
      cases s with
      | activity text => exact contents_add h _
      | openRepeat first =>
        have ho := openBlock_keeps (b := .repeatLoop []) h number trivial rfl
        cases first with
        | none => exact absurd rfl ha
        | some first =>
          refine (contents_add ho.tidy _).trans ?_
          rw [contents_openBlock number rfl]
          rfl
      | _ => exact absurd rfl ha

theorem run_keeps (h : r.Tidy) (number : Nat) (lines : List Text) :
    Keeps r (r.run number lines) (r.addedBy number lines) := by
  induction lines generalizing r number with
  | nil => exact .refl h
  | cons line rest ih =>
    have hs := step_keeps h number line
    exact hs.trans (ih hs.tidy (number + 1))

end FlowReader

/-! ## The diagram -/

/-- The activities of a diagram are, in order, some of those that its lines add, and all of them if
there is no remark on the source. -/
theorem activityTexts_sublist_added (source : Text) :
    (ActivityDiagram.read source).activityTexts.Sublist (ActivityDiagram.added source) ∧
      ((ActivityDiagram.read source).diagnostics = [] →
        (ActivityDiagram.read source).activityTexts = ActivityDiagram.added source ∧
        (ActivityDiagram.read source).activityCount = (ActivityDiagram.added source).length) := by
  have hk := FlowReader.run_keeps (r := .start) (by simp [FlowReader.Tidy, FlowReader.start]) 1 source.lines
  have h0 : FlowReader.start.contents = [] := rfl
  refine ⟨?_, fun hd => ?_⟩
  · have hs := hk.sublist
    rw [h0, List.nil_append] at hs
    exact (List.sublist_append_left _ _).trans hs
  · -- without remarks no block is open at the end
    simp only [ActivityDiagram.read, ActivityDiagram.ofLines, FlowReader.finish,
      List.append_eq_nil_iff, List.map_eq_nil_iff] at hd
    obtain ⟨⟨hd, -⟩, hb⟩ := hd
    have hw := hk.whole hd
    rw [h0, List.nil_append] at hw
    have htexts : (ActivityDiagram.read source).activityTexts = ActivityDiagram.added source := by
      rw [ActivityDiagram.added, ← hw]
      simp [FlowReader.contents, hb, FlowReader.openTexts, ActivityDiagram.activityTexts,
        ActivityDiagram.read, ActivityDiagram.ofLines, FlowReader.finish]
    exact ⟨htexts, by rw [ActivityDiagram.activityCount, htexts]⟩

end DiagramProse
