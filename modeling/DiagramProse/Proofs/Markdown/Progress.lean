import DiagramProse.Proofs.Markdown.Steps

/-!
Every step of the walk takes at least one character (`Walk.step_length`). So the walk reaches the end of the
text, and what it finds does not depend on its fuel (`Walk.fencesFrom_eq`): the fences of a text are those of
the first step and those behind it (`Walk.read_step`).
-/

namespace DiagramProse.Markdown

open Text

variable {s : Text}

/-! ## Readers that take something -/

theorem afterBlankLine?_length {r : Text} (h : afterBlankLine? s = some r) (hne : s ≠ []) : r.length < s.length := by
  have hle := (List.dropWhile_suffix (l := s) isGap).length_le
  have hpos := List.length_pos_iff.2 hne
  unfold afterBlankLine? at h
  generalize s.dropWhile isGap = u at h hle
  unfold afterLineEnd? at h
  split at h
  · cases h
    exact hpos
  all_goals
    cases h
    try (simp only [List.length_cons] at hle; omega)

theorem afterBreak?_length {r : Text} (h : afterBreak? s = some r) : r.length < s.length := by
  unfold afterBreak? at h
  split at h
  · cases h
  · next c u =>
    dsimp only at h
    split at h
    · next hbreak =>
      -- the marks stand in front of the end of the line
      simp only [Bool.and_eq_true, decide_eq_true_eq] at hbreak
      have hmarks := Nat.le_trans hbreak.2 (List.count_le_length)
      have hle := (afterLineEnd?_suffix h).length_le
      have hprefix := (List.takeWhile_prefix (l := c :: u) fun x => !isLineEnd x).length_le
      rw [List.length_drop] at hle
      omega
    · cases h

theorem afterProse_length (ks : List Container) (fuel : Nat) (hne : s ≠ []) :
    (afterProse ks fuel s).length < s.length := by
  cases fuel with
  | zero => exact List.length_pos_iff.2 hne
  | succ fuel =>
    refine Nat.lt_of_le_of_lt (List.IsSuffix.length_le ?_) (afterLine_length hne)
    have hline := innerLine_suffix ks (afterLine s)
    simp only [afterProse]
    split
    · next rest hrest => exact (InnerLine.afterUnderline?_suffix hrest).trans hline
    · split
      · exact List.suffix_rfl
      · exact ((afterProse_suffix _ _ _).trans (Cursor.skipSpaces_suffix _)).trans hline

theorem afterReference?_length {ks : List Container} {r : Text} (h : afterReference? ks s = some r) :
    r.length < s.length := by
  obtain ⟨label, rfl, hr⟩ := afterReference?_cases h
  exact Nat.lt_succ_of_le hr.length_le

theorem afterParagraph_length (ks : List Container) (fuel : Nat) (hne : s ≠ []) :
    (afterParagraph ks fuel s).length < s.length := by
  cases fuel with
  | zero => exact List.length_pos_iff.2 hne
  | succ fuel =>
    simp only [afterParagraph]
    split
    · exact afterProse_length ks _ hne
    · next after hafter =>
      refine Nat.lt_of_le_of_lt (List.IsSuffix.length_le ?_) (afterReference?_length hafter)
      split
      · exact List.suffix_rfl
      · next next hnext =>
        have hn := afterBlankLine?_suffix hnext
        split
        · exact hn
        · exact (((afterParagraph_suffix ks _ _).trans (Cursor.skipSpaces_suffix _)).trans
            (innerLine_suffix ks next)).trans hn

theorem afterIndentedCode_length (ks : List Container) (fuel : Nat) (hne : s ≠ []) (blank : Bool) :
    (afterIndentedCode ks fuel s blank).2.length < s.length := by
  cases fuel with
  | zero => exact List.length_pos_iff.2 hne
  | succ fuel =>
    refine Nat.lt_of_le_of_lt (List.IsSuffix.length_le ?_) (splitLineFeed_length hne)
    simp only [afterIndentedCode]
    split
    · exact List.suffix_rfl
    · exact ((afterIndentedCode_suffix _ _ _ _).trans (Cursor.advance_suffix _ 4)).trans (innerLine_suffix ks _)

/-! ## The walk -/

namespace Walk

theorem readFence_length (w : Walk) {mark : FenceMark} (indent total : Nat) (hmark : fenceMark? s = some mark) :
    (w.readFence mark indent total s).2.length < s.length := by
  obtain ⟨hcount, hle, -⟩ := fenceMark?_cases hmark
  obtain ⟨hnext, hafter⟩ := fencedCode_suffix w.containers mark indent (s.length + 1)
    (splitLineFeed (s.drop mark.count)).2
  have hshort := ((hnext.trans hafter).trans (splitLineFeed_suffix _)).length_le
  rw [List.length_drop] at hshort
  show (fencedCode w.containers mark indent (s.length + 1) (splitLineFeed (s.drop mark.count)).2).next.length < _
  omega

theorem readBlock_length (w : Walk) (indent total : Nat) (hne : s ≠ []) :
    (w.readBlock indent total s).2.1.length < s.length := by
  simp only [readBlock]
  split
  · exact afterHtml_length _ _ _ hne
  · split
    · next rest hrest => exact afterBreak?_length hrest
    · split
      · exact afterLine_length hne
      · split
        · next mark hmark => exact readFence_length _ indent total hmark
        · exact afterParagraph_length _ _ hne

/-- What is left behind an item with nothing else in its line is less than the line. -/
theorem openContainers_length {fuel : Nat} {w v : Walk} {c d : Cursor} {rest : Text}
    (h : openContainers fuel w c = (v, d, some rest)) : rest.length < c.rest.length := by
  induction fuel generalizing w c with
  | zero => cases h
  | succ fuel ih =>
    have hc := (c.advance_suffix 4).length_le
    simp only [openContainers] at h
    split at h
    · cases h
    · split at h
      · next mark indent e he =>
        have hshort := itemMarker?_length he
        split at h
        · next r hr =>
          cases h
          have hle := (afterBlankLine?_suffix hr).length_le
          omega
        · have := ih h
          omega
      · split at h
        · next e he =>
          have hshort := Container.afterQuoteMark?_length he
          have := ih h
          omega
        · cases h

theorem step_length (w : Walk) (total : Nat) (hne : s ≠ []) : (w.step total s).2.1.length < s.length := by
  have hpos := List.length_pos_iff.2 hne
  -- a reader of a part of the text takes something of that part, if anything is left of it
  have hpart : ∀ {u r : Text}, u <:+ s → r <:+ u → (u ≠ [] → r.length < u.length) → r.length < s.length := by
    intro u r hu hr h
    have hle := hu.length_le
    have hle' := hr.length_le
    by_cases hempty : u = []
    · subst hempty
      simp only [List.length_nil] at hle'
      omega
    · have := h hempty
      omega
  simp only [step]
  generalize hf : Container.follow w.containers (.atLineStart s) = followed
  generalize ho : (w.keep followed.1).openContainers (s.length + 1) followed.2 = opened
  obtain ⟨u, d, item⟩ := opened
  have hfollowed : followed.2.rest <:+ s := hf ▸ Container.follow_suffix w.containers (.atLineStart s)
  have hd : d.rest <:+ s := (openContainers_suffix ho).1.trans hfollowed
  have he : (d.advance 4).2.rest <:+ s := (d.advance_suffix 4).trans hd
  dsimp only
  split
  · next blank hblank =>
    rcases hi : item with _ | r
    · rw [hi] at hblank
      exact hpart hd (afterBlankLine?_suffix hblank) (afterBlankLine?_length hblank)
    · subst hi
      cases hblank
      exact Nat.lt_of_lt_of_le (openContainers_length ho) hfollowed.length_le
  · split
    · exact hpart he (afterIndentedCode_suffix _ _ _ _) fun h => afterIndentedCode_length _ _ h false
    · exact hpart he (readBlock_isBetween (Prod.eta _).symm).1 fun h => readBlock_length u _ total h

/-- Fuel for every character is enough. -/
theorem fencesFrom_eq (total : Nat) {fuel fuel' : Nat} (w : Walk) (hf : s.length ≤ fuel) (hf' : s.length ≤ fuel') :
    fencesFrom total fuel w s = fencesFrom total fuel' w s := by
  induction fuel generalizing w s fuel' with
  | zero =>
    obtain rfl := List.length_eq_zero_iff.1 (Nat.le_zero.1 hf)
    cases fuel' <;> rfl
  | succ fuel ih =>
    by_cases hne : s = []
    · subst hne
      cases fuel' <;> rfl
    · have hshort := w.step_length total hne
      obtain ⟨fuel', rfl⟩ : ∃ n, fuel' = n + 1 :=
        ⟨fuel' - 1, by have := List.length_pos_iff.2 hne; omega⟩
      have hrest : fencesFrom total fuel (w.step total s).1 (w.step total s).2.1 =
          fencesFrom total fuel' (w.step total s).1 (w.step total s).2.1 := ih _ (by omega) (by omega)
      simp only [fencesFrom, hrest]

/-- The fences of a text, in a document of the given length that ends with it. -/
def read (w : Walk) (total : Nat) (s : Text) : List Fence := fencesFrom total s.length w s

theorem read_step (w : Walk) (total : Nat) (hne : s ≠ []) :
    w.read total s = (w.step total s).2.2.toList ++ (w.step total s).1.read total (w.step total s).2.1 := by
  have hshort := w.step_length total hne
  obtain ⟨n, hn⟩ : ∃ n, s.length = n + 1 := ⟨s.length - 1, by omega⟩
  have hempty : s.isEmpty = false := by simpa using hne
  unfold read
  rw [hn, fencesFrom, hempty, fencesFrom_eq total _ (Nat.le_refl _) (Nat.le_of_lt_succ (hn ▸ hshort))]
  rfl

/-! ## What fences say -/

/-- What the fences of a text say. -/
def contents (w : Walk) (s : Text) : List (Text × Text) := (w.read s.length s).map Fence.content

theorem readBlock_start {w : Walk} {indent total : Nat} {f : Fence} (h : f ∈ (w.readBlock indent total s).2.2) :
    f.start = total - s.length ∧ BeginsFence s := by
  simp only [readBlock] at h
  split at h
  · cases h
  · split at h
    · cases h
    · split at h
      · cases h
      · split at h
        · next mark hmark =>
          cases h
          exact ⟨rfl, Option.isSome_of_eq_some hmark⟩
        · cases h

/-- A fence that is read in a line begins in front of the next line. -/
theorem step_start {w : Walk} {total : Nat} {f : Fence} {t : Text} (hs : '\n' ∈ s) (htotal : (s ++ t).length ≤ total)
    (h : f ∈ (w.step total (s ++ t)).2.2) : f.start < total - t.length := by
  obtain ⟨hopened, hmem⟩ := opened_append w hs t
  have hmem' := Cursor.mem_advance hmem 4
  have hpos := List.length_pos_iff.2 (List.ne_nil_of_mem hmem')
  have hpos' := List.length_pos_iff.2 (List.ne_nil_of_mem hs)
  rw [step_eq, hopened] at h
  dsimp only at h
  split at h
  · cases h
  · split at h
    · cases h
    · have hstart := (readBlock_start h).1
      rw [Cursor.advance_append hmem, Cursor.rest_append, List.length_append] at hstart
      rw [List.length_append] at htotal
      omega

end Walk

end DiagramProse.Markdown
