import DiagramProse.Proofs.Markdown.LineMarks

/-!
Paragraphs and indented code end in front of a fence at the margin, whatever comes behind the fence
(`afterParagraph_append`, `afterIndentedCode_append`). The fence does the same for them as the end of the
text.

The definitions of link targets at the beginning of a paragraph are read in the same way, with one exception:
within a label, a backslash takes the end of its line with it, so that the next line is part of the label even
if a fence stands there. The lines in front of the fence must not end like that (`EndsLine`).
-/

namespace DiagramProse.Markdown

open Text

/-! ## Lines in front of a fence -/

/-- Lines that are ended, the last one not by a line feed behind a backslash; or no lines at all. -/
def EndsLine (x : Text) : Prop := x = [] ∨ ∃ u, x = u ++ ['\n'] ∧ u.getLast? ≠ some '\\'

variable {ks : List Container} {x r t : Text}

theorem EndsLine.of_suffix (h : EndsLine x) (hr : r <:+ x) : EndsLine r := by
  obtain ⟨p, rfl⟩ := hr
  rcases h with h | ⟨u, hu, hlast⟩
  · exact .inl (List.append_eq_nil_iff.1 h).2
  · rcases List.eq_nil_or_concat' r with rfl | ⟨v, c, rfl⟩
    · exact .inl rfl
    · rw [← List.append_assoc] at hu
      obtain ⟨hpv, hc⟩ := List.append_inj' hu rfl
      obtain rfl : c = '\n' := by simpa using hc
      refine .inr ⟨v, rfl, fun hv => hlast ?_⟩
      have hne : v ≠ [] := by rintro rfl; cases hv
      rw [← hpv, List.getLast?_append_of_ne_nil _ hne, hv]

theorem EndsLine.mem (h : EndsLine x) (hx : x ≠ []) : '\n' ∈ x := by
  rcases h with rfl | ⟨u, rfl, -⟩
  · exact absurd rfl hx
  · simp

/-- A backslash does not take the last line feed. -/
theorem EndsLine.of_backslash {c : Char} (h : EndsLine ('\\' :: c :: x)) : '\n' ∈ x := by
  rcases h with h | ⟨u, hu, hlast⟩
  · cases h
  · rcases u with _ | ⟨d, _ | ⟨e, u⟩⟩
    · cases hu
    · cases hu
      exact absurd rfl hlast
    · cases hu
      simp

/-- An opening fence, at the margin. -/
def BeginsFence (t : Text) : Prop := (fenceMark? t).isSome

theorem BeginsFence.cases (h : BeginsFence t) : ∃ c u, t = c :: u ∧ (c = '~' ∨ c = '\x60') := by
  unfold BeginsFence at h
  rcases t with _ | ⟨c, u⟩
  · cases h
  · refine ⟨c, u, rfl, ?_⟩
    unfold fenceMark? at h
    dsimp only at h
    split at h
    · next hc => exact .inl hc.1
    · split at h
      · next hc => exact .inr hc.1
      · cases h

theorem BeginsFence.advance (h : BeginsFence t) (n : Nat) :
    (Cursor.atLineStart t).advance n = (n, .atLineStart t) := by
  obtain ⟨c, u, rfl, hc⟩ := h.cases
  cases n with
  | zero => rfl
  | succ n => rcases hc with rfl | rfl <;> rfl

/-- The containers that go on at the margin of a line with something in it. -/
def Container.isOpenAtMargin : Container → Bool
  | list .. | item 0 => true
  | _ => false

theorem follow_fence (h : BeginsFence t) (ks : List Container) :
    Container.follow ks (.atLineStart t) = ((ks.takeWhile Container.isOpenAtMargin).length, .atLineStart t) := by
  induction ks with
  | nil => rfl
  | cons k ks ih =>
    obtain ⟨c, u, hcu, hc⟩ := h.cases
    have hcontinued : Container.continued? (.atLineStart t) k =
        if k.isOpenAtMargin then some (.atLineStart t) else none := by
      cases k with
      | quote =>
        simp only [Container.continued?, h.advance, Container.afterQuoteMark?, Cursor.take?]
        subst hcu
        rcases hc with rfl | rfl <;> rfl
      | list mark isTight => rfl
      | item indent =>
        simp only [Container.continued?, h.advance]
        cases indent with
        | zero => rfl
        | succ n =>
          subst hcu
          rcases hc with rfl | rfl <;> rfl
    rw [Container.follow, hcontinued, List.takeWhile_cons]
    split
    · next hk => split at hk <;> simp_all
    · next hk => split at hk <;> simp_all

theorem innerLine_fence (h : BeginsFence t) (ks : List Container) :
    innerLine ks t = ⟨(ks.takeWhile Container.isOpenAtMargin).length = ks.length, .atLineStart t⟩ := by
  unfold innerLine
  rw [follow_fence h]

/-- The line of a fence, as paragraphs see it. -/
theorem interrupts_fence (h : BeginsFence t) (ks : List Container) : (innerLine ks t).interrupts = true := by
  rw [innerLine_fence h]
  simp only [InnerLine.interrupts, InnerLine.afterSmallIndent?, h.advance]
  have hfence : (fenceMark? t).isSome = true := h
  simp [interruptsParagraph, Cursor.atLineStart, hfence]

theorem afterUnderline?_fence (h : BeginsFence t) (ks : List Container) :
    (innerLine ks t).afterUnderline? = none := by
  rw [innerLine_fence h]
  simp only [InnerLine.afterUnderline?, InnerLine.afterSmallIndent?, h.advance]
  obtain ⟨c, u, rfl, hc⟩ := h.cases
  split
  · rcases hc with rfl | rfl <;> rfl
  · rfl

/-- Where the text ends there is nothing in the line. -/
theorem innerLine_nil (ks : List Container) : (innerLine ks []).contents = .atLineStart [] := by
  have hadvance : ∀ n, (Cursor.atLineStart []).advance n = (n, .atLineStart []) := by
    rintro (_ | n) <;> rfl
  show (Container.follow ks (.atLineStart [])).2 = .atLineStart []
  induction ks with
  | nil => rfl
  | cons k ks ih =>
    cases k with
    | quote => rfl
    | list mark isTight => exact ih
    | item indent =>
      have hitem : Container.continued? (.atLineStart []) (.item indent) = some (.atLineStart []) := by
        simp only [Container.continued?, hadvance]
        simp [Cursor.isAtEnd, Cursor.atLineStart]
      rw [Container.follow, hitem]
      exact ih

theorem interrupts_nil (ks : List Container) : (innerLine ks []).interrupts = true := by
  unfold InnerLine.interrupts InnerLine.afterSmallIndent?
  rw [innerLine_nil]
  rfl

theorem afterUnderline?_nil (ks : List Container) : (innerLine ks []).afterUnderline? = none := by
  unfold InnerLine.afterUnderline? InnerLine.afterSmallIndent?
  rw [innerLine_nil]
  split <;> rfl

/-! ## Definitions of link targets -/

theorem continuedLine?_append (ks : List Container) (hx : EndsLine x) (ht : BeginsFence t) :
    continuedLine? ks (x ++ t) = (continuedLine? ks x).map (· ++ t) ∧ ∀ r ∈ continuedLine? ks x, '\n' ∈ r := by
  by_cases hne : x = []
  · subst hne
    unfold continuedLine?
    simp [interrupts_fence ht, interrupts_nil]
  · have hmem := mem_innerLine ks (hx.mem hne)
    unfold continuedLine?
    simp only [innerLine_append ks (hx.mem hne), InnerLine.interrupts_append hmem,
      InnerLine.afterUnderline?_append hmem, Option.isSome_map]
    split
    · exact ⟨rfl, by simp⟩
    · refine ⟨rfl, ?_⟩
      rintro r ⟨⟩
      exact hmem

theorem afterSpace?_append (ks : List Container) (hx : EndsLine x) (hne : x ≠ []) (ht : BeginsFence t) :
    afterSpace? ks (x ++ t) = (afterSpace? ks x).map (fun p => (p.1, p.2 ++ t)) ∧
      ∀ p ∈ afterSpace? ks x, '\n' ∈ p.2 := by
  have hgap := mem_dropWhile (f := isGap) (hx.mem hne) rfl
  unfold afterSpace?
  simp only [dropWhile_append (f := isGap) (hx.mem hne) rfl, afterLineEnd?_append hgap]
  rcases hend : afterLineEnd? (x.dropWhile isGap) with _ | next
  · refine ⟨rfl, ?_⟩
    rintro p ⟨⟩
    exact hgap
  · have hnext : EndsLine next := hx.of_suffix ((afterLineEnd?_suffix hend).trans (List.dropWhile_suffix _))
    obtain ⟨happend, hmem⟩ := continuedLine?_append ks hnext ht
    dsimp only [Option.map_some]
    rw [happend]
    rcases hr : continuedLine? ks next with _ | r
    · exact ⟨rfl, by simp⟩
    · have hu := mem_dropWhile (f := isGap) (hmem r hr) rfl
      have hsame := congrArg Option.isSome (afterLineEnd?_append hu t)
      rw [Option.isSome_map] at hsame
      simp only [Option.map_some, Option.bind_eq_bind, Option.bind_some,
        dropWhile_append (f := isGap) (hmem r hr) rfl, hsame]
      split
      · exact ⟨rfl, by simp⟩
      · refine ⟨rfl, ?_⟩
        rintro p ⟨⟩
        exact hu

/-- A blank or the end of a line is taken. -/
theorem afterSpace?_length {c : Char} {isNewLine : Bool} (hc : isGapOrEnd c = true)
    (h : afterSpace? ks (c :: x) = some (isNewLine, r)) : r.length ≤ x.length := by
  by_cases hgap : isGap c = true
  · have hskip : afterSpace? ks (c :: x) = afterSpace? ks x := by
      unfold afterSpace?
      rw [List.dropWhile_cons_of_pos hgap]
    exact (afterSpace?_suffix (hskip ▸ h)).length_le
  · have hend : isLineEnd c = true := by simpa [isGapOrEnd, hgap] using hc
    obtain ⟨next, hnext, hshort⟩ : ∃ next, afterLineEnd? (c :: x) = some next ∧ next.length ≤ x.length := by
      have hcases : c = '\n' ∨ c = '\r' := by simpa [isLineEnd, or_iff_not_imp_left] using hend
      rcases hcases with rfl | rfl
      · exact ⟨x, rfl, Nat.le_refl _⟩
      · unfold afterLineEnd?
        split <;> simp_all
    unfold afterSpace? at h
    rw [List.dropWhile_cons_of_neg hgap] at h
    simp only [hnext] at h
    obtain ⟨u, hu, h⟩ := Option.bind_eq_some_iff.1 h
    split at h
    · cases h
    · cases h
      exact (((List.dropWhile_suffix _).trans (continuedLine?_suffix hu)).length_le).trans hshort

/-- What is read of a label at a character that means nothing of its own. -/
theorem afterLabel?_cons {c : Char} (hopen : c ≠ '[') (hclose : c ≠ ']') (hescape : c ≠ '\\') (fuel size : Nat)
    (isBlank : Bool) (x : Text) :
    afterLabel? ks (fuel + 1) size isBlank (c :: x) =
      if 1000 ≤ size then none
      else if isGapOrEnd c then
        (afterSpace? ks (c :: x)).bind fun p =>
          afterLabel? ks fuel (size + ((c :: x).length - p.2.length)) isBlank p.2
      else afterLabel? ks fuel (if c.toNat < 128 then size else size + c.utf8Size) false x := by
  conv_lhs => unfold afterLabel?
  split
  · rfl
  · split <;> simp_all

/-- As long as the fuel is enough, it does not matter how much there is. -/
theorem afterLabel?_append (ks : List Container) (fuel fuel' : Nat) (hx : EndsLine x) (hne : x ≠ [])
    (ht : BeginsFence t) (hf : x.length ≤ fuel) (hf' : x.length ≤ fuel') (size : Nat) (isBlank : Bool) :
    afterLabel? ks fuel' size isBlank (x ++ t) = (afterLabel? ks fuel size isBlank x).map (· ++ t) ∧
      ∀ r ∈ afterLabel? ks fuel size isBlank x, '\n' ∈ r := by
  induction fuel generalizing x fuel' size isBlank with
  | zero => exact absurd (List.length_eq_zero_iff.1 (Nat.le_zero.1 hf)) hne
  | succ fuel ih =>
    obtain ⟨fuel', rfl⟩ : ∃ n, fuel' = n + 1 := ⟨fuel' - 1, by have := List.length_pos_iff.2 hne; omega⟩
    have hmem := hx.mem hne
    -- reading goes on with an end of the text in which the last line feed still is
    have hgo : ∀ (u : Text) (size : Nat) (isBlank : Bool), u <:+ x → '\n' ∈ u → u.length < x.length →
        afterLabel? ks fuel' size isBlank (u ++ t) = (afterLabel? ks fuel size isBlank u).map (· ++ t) ∧
          ∀ r ∈ afterLabel? ks fuel size isBlank u, '\n' ∈ r := by
      intro u size isBlank hu hm hshort
      exact ih fuel' (hx.of_suffix hu) (List.ne_nil_of_mem hm) (by omega) (by omega) size isBlank
    rcases x with _ | ⟨c, x⟩
    · exact absurd rfl hne
    · by_cases hopen : c = '['
      · subst hopen
        simp [afterLabel?]
      · by_cases hclose : c = ']'
        · subst hclose
          have hm : '\n' ∈ x := mem_of_cons hmem (by decide)
          simp only [List.cons_append, afterLabel?]
          split
          · exact ⟨rfl, by simp⟩
          · split
            · exact ⟨rfl, by simp⟩
            · refine ⟨rfl, ?_⟩
              rintro r ⟨⟩
              exact hm
        · by_cases hescape : c = '\\'
          · subst hescape
            rcases x with _ | ⟨d, x⟩
            · exact absurd hmem (by decide)
            · simp only [List.cons_append, afterLabel?]
              split
              · exact ⟨rfl, by simp⟩
              · exact hgo x _ _ (List.suffix_append ['\\', d] x) hx.of_backslash
                  (by simp only [List.length_cons]; omega)
          · rw [List.cons_append, afterLabel?_cons hopen hclose hescape, afterLabel?_cons hopen hclose hescape]
            split
            · exact ⟨rfl, by simp⟩
            · split
              · next hgap =>
                obtain ⟨happend, hmem'⟩ := afterSpace?_append ks hx hne ht
                rw [List.cons_append] at happend
                rw [happend]
                rcases hs : afterSpace? ks (c :: x) with _ | ⟨isNewLine, u⟩
                · exact ⟨rfl, by simp⟩
                · have hshort := afterSpace?_length hgap hs
                  have hsize : (c :: (x ++ t)).length - (u ++ t).length = (c :: x).length - u.length := by
                    simp only [List.length_cons, List.length_append]
                    omega
                  simp only [Option.map_some, Option.bind_some, hsize]
                  exact hgo u _ _ (afterSpace?_suffix hs) (hmem' _ hs) (by simp; omega)
              · next hgap =>
                have hc : c ≠ '\n' := by rintro rfl; exact hgap rfl
                exact hgo x _ _ (List.suffix_cons _ _) (mem_of_cons hmem hc) (by simp)

/-- A backslash that escapes nothing is the last character of a text, and so not in a line that is ended. -/
theorem ne_backslash {c : Char} (hs : '\n' ∈ c :: x) (h : ∀ d v, c = '\\' → x = d :: v → False) : c ≠ '\\' := by
  rintro rfl
  rcases x with _ | ⟨d, v⟩
  · exact absurd hs (by decide)
  · exact h d v rfl rfl

/-- A destination stays on its line. -/
theorem onLine_afterBracketed? : OnLine afterBracketed? := by
  refine .of_exists fun s hs => ⟨afterBracketed? s, ?_⟩
  fun_induction afterBracketed? s with
  | case1 => cases hs
  | case2 rest => exact ⟨fun t => rfl, by rintro r ⟨⟩; exact mem_of_cons hs (by decide)⟩
  | case3 c rest hc ih =>
    have hne : c ≠ '\n' := by rintro rfl; cases hc
    obtain ⟨happend, hmem⟩ := ih (mem_of_cons (mem_of_cons hs (by decide)) hne)
    refine ⟨fun t => ?_, hmem⟩
    rw [List.cons_append, List.cons_append, afterBracketed?, if_pos hc]
    exact happend t
  | case4 c rest hc ih =>
    obtain ⟨happend, hmem⟩ := ih (mem_of_cons hs (by decide))
    refine ⟨fun t => ?_, hmem⟩
    rw [List.cons_append, List.cons_append, afterBracketed?, if_neg hc]
    exact happend t
  | case5 c rest hbracket hescape hc =>
    refine ⟨fun t => ?_, by simp⟩
    rw [List.cons_append, afterBracketed?, if_pos hc]
    · rfl
    · exact hbracket
    · exact fun _ _ he _ => ne_backslash hs hescape he
  | case6 c rest hbracket hescape hc ih =>
    have hne : c ≠ '\n' := by rintro rfl; exact hc (.inr rfl)
    obtain ⟨happend, hmem⟩ := ih (mem_of_cons hs hne)
    refine ⟨fun t => ?_, hmem⟩
    rw [List.cons_append, afterBracketed?, if_neg hc]
    · exact happend t
    · exact hbracket
    · exact fun _ _ he _ => ne_backslash hs hescape he

theorem onLine_afterBare? (depth : Nat) : OnLine (afterBare? depth) := by
  refine .of_exists fun s hs => ⟨afterBare? depth s, ?_⟩
  fun_induction afterBare? depth s with
  | case1 | case2 => cases hs
  | case3 depth c rest hc ih =>
    have hne : c ≠ '\n' := by rintro rfl; cases hc
    obtain ⟨happend, hmem⟩ := ih (mem_of_cons (mem_of_cons hs (by decide)) hne)
    refine ⟨fun t => ?_, hmem⟩
    rw [List.cons_append, List.cons_append, afterBare?, if_pos hc]
    exact happend t
  | case4 depth c rest hc ih =>
    obtain ⟨happend, hmem⟩ := ih (mem_of_cons hs (by decide))
    refine ⟨fun t => ?_, hmem⟩
    rw [List.cons_append, List.cons_append, afterBare?, if_neg hc]
    exact happend t
  | case5 c rest hescape hc =>
    refine ⟨fun t => ?_, by rintro r ⟨⟩; exact hs⟩
    rw [List.cons_append, afterBare?, if_pos hc, if_pos rfl]
    · rfl
    · exact fun _ _ he _ => ne_backslash hs hescape he
  | case6 depth c rest hescape hc hdepth =>
    refine ⟨fun t => ?_, by simp⟩
    rw [List.cons_append, afterBare?, if_pos hc, if_neg hdepth]
    · rfl
    · exact fun _ _ he _ => ne_backslash hs hescape he
  | case7 depth rest hdepth =>
    exact ⟨fun t => by simp [afterBare?, hdepth], by simp⟩
  | case8 depth rest hdepth hescape hc ih =>
    obtain ⟨happend, hmem⟩ := ih (mem_of_cons hs (by decide))
    refine ⟨fun t => ?_, hmem⟩
    rw [← happend t]
    simp [afterBare?, hdepth]
  | case9 rest hescape hc hopen =>
    exact ⟨fun t => by simp [afterBare?], by rintro r ⟨⟩; exact hs⟩
  | case10 depth rest hdepth hescape hc hopen ih =>
    obtain ⟨happend, hmem⟩ := ih (mem_of_cons hs (by decide))
    refine ⟨fun t => ?_, hmem⟩
    rw [← happend t]
    simp [afterBare?, hdepth]
  | case11 depth c rest hescape hc hopen hclose ih =>
    have hne : c ≠ '\n' := by rintro rfl; exact hc (by decide)
    obtain ⟨happend, hmem⟩ := ih (mem_of_cons hs hne)
    refine ⟨fun t => ?_, hmem⟩
    rw [List.cons_append, afterBare?, if_neg hc, if_neg hopen, if_neg hclose]
    · exact happend t
    · exact fun _ _ he _ => ne_backslash hs hescape he

theorem onLine_afterDestination? : OnLine afterDestination? := by
  refine .of_exists fun s hs => ⟨afterDestination? s, fun t => ?_, fun r hr => ?_⟩
  · rcases s with _ | ⟨c, s⟩
    · cases hs
    · by_cases hc : c = '<'
      · subst hc
        exact onLine_afterBracketed?.append (mem_of_cons hs (by decide)) t
      · have hbare : ∀ u, afterDestination? (c :: u) =
            (afterBare? 0 (c :: u)).filter fun rest => rest.length < (c :: u).length := by
          intro u
          unfold afterDestination?
          split
          · next he => cases he; exact absurd rfl hc
          · rfl
        have happend := (onLine_afterBare? 0).append hs t
        rw [List.cons_append] at happend ⊢
        rw [hbare, hbare, happend]
        rcases afterBare? 0 (c :: s) with _ | r
        · rfl
        · have hlength : ((r ++ t).length < (c :: (s ++ t)).length) = (r.length < (c :: s).length) := by
            simp only [List.length_append, List.length_cons, eq_iff_iff]
            omega
          simp only [Option.map_some, Option.filter_some, hlength]
          split <;> rfl
  · unfold afterDestination? at hr
    split at hr
    · exact onLine_afterBracketed?.mem (mem_of_cons hs (by decide)) r hr
    · exact (onLine_afterBare? 0).mem hs r (Option.filter_eq_some_iff.1 hr).1

theorem afterLine_length (h : x ≠ []) : (afterLine x).length < x.length := by
  have hle : (x.dropWhile fun c => !isLineEnd c).length ≤ x.length := (List.dropWhile_suffix _).length_le
  have hpos := List.length_pos_iff.2 h
  unfold afterLine
  generalize (x.dropWhile fun c => !isLineEnd c) = u at hle
  rcases hr : afterLineEnd? u with _ | r
  · exact hpos
  · unfold afterLineEnd? at hr
    split at hr
    · cases hr
      exact hpos
    all_goals
      cases hr
      try (simp only [List.length_cons, Option.getD_some] at hle ⊢; omega)

/-- A title may go over several lines; it ends in front of a fence. -/
theorem afterTitleMark?_append (ks : List Container) {closing : Char} (hclosing : closing ≠ '\n') (fuel fuel' : Nat)
    (hx : EndsLine x) (hne : x ≠ []) (ht : BeginsFence t) (hf : x.length ≤ fuel) (hf' : x.length ≤ fuel') :
    afterTitleMark? ks closing fuel' (x ++ t) = (afterTitleMark? ks closing fuel x).map (· ++ t) ∧
      ∀ r ∈ afterTitleMark? ks closing fuel x, '\n' ∈ r := by
  induction fuel generalizing x fuel' with
  | zero => exact absurd (List.length_eq_zero_iff.1 (Nat.le_zero.1 hf)) hne
  | succ fuel ih =>
    obtain ⟨fuel', rfl⟩ : ∃ n, fuel' = n + 1 := ⟨fuel' - 1, by have := List.length_pos_iff.2 hne; omega⟩
    have hmem := hx.mem hne
    have hgo : ∀ u : Text, u <:+ x → '\n' ∈ u → u.length < x.length →
        afterTitleMark? ks closing fuel' (u ++ t) = (afterTitleMark? ks closing fuel u).map (· ++ t) ∧
          ∀ r ∈ afterTitleMark? ks closing fuel u, '\n' ∈ r := by
      intro u hu hm hshort
      exact ih fuel' (hx.of_suffix hu) (List.ne_nil_of_mem hm) (by omega) (by omega)
    rcases x with _ | ⟨c, x⟩
    · exact absurd rfl hne
    · rw [List.cons_append]
      unfold afterTitleMark?
      dsimp only
      split
      · next hc =>
        refine ⟨rfl, ?_⟩
        rintro r ⟨⟩
        exact mem_of_cons hmem (hc ▸ hclosing)
      · split
        · exact ⟨rfl, by simp⟩
        · split
          · -- the next line, if the title goes on in it
            have hnext : EndsLine (afterLine (c :: x)) := hx.of_suffix (afterLine_suffix _)
            obtain ⟨happend, hmem'⟩ := continuedLine?_append ks hnext ht
            have hafter := afterLine_append hmem t
            rw [List.cons_append] at hafter
            rw [hafter, happend]
            rcases hr : continuedLine? ks (afterLine (c :: x)) with _ | r
            · exact ⟨rfl, by simp⟩
            · have hm := hmem' r hr
              have hskip := Cursor.skipSpaces_append (c := .atLineStart r) hm t
              have hspaces := Cursor.mem_skipSpaces (c := .atLineStart r) hm
              have hsuffix := ((Cursor.skipSpaces_suffix (.atLineStart r)).trans (continuedLine?_suffix hr)).trans
                (afterLine_suffix (c :: x))
              have hlength := ((Cursor.skipSpaces_suffix (.atLineStart r)).trans (continuedLine?_suffix hr)).length_le
              have hshort := afterLine_length hne
              simp only [Option.map_some, Option.bind_some, ofLine_afterBlankLine? hm t, Cursor.atLineStart_append,
                hskip, Cursor.rest_append]
              split
              · exact ⟨rfl, by simp⟩
              · exact hgo _ hsuffix hspaces (by omega)
          · next hend =>
            have hm : '\n' ∈ x := mem_of_cons hmem (by rintro rfl; exact hend rfl)
            by_cases hescape : c = '\\'
            · subst hescape
              rcases x with _ | ⟨d, x⟩
              · cases hm
              · dsimp only [List.cons_append]
                by_cases hd : isLineEnd d = true
                · simp only [hd, if_true]
                  exact hgo _ (List.suffix_cons _ _) hm (by simp)
                · simp only [hd, if_false, Bool.false_eq_true]
                  have hne' : d ≠ '\n' := by rintro rfl; exact hd rfl
                  exact hgo x (List.suffix_append ['\\', d] x) (mem_of_cons hm hne')
                    (by simp only [List.length_cons]; omega)
            · split
              · next he => exact absurd rfl hescape
              · split
                · exact absurd rfl hescape
                · exact hgo x (List.suffix_cons _ _) hm (by simp)

theorem afterTitle?_append (ks : List Container) (hx : EndsLine x) (hne : x ≠ []) (ht : BeginsFence t) :
    afterTitle? ks (x ++ t) = (afterTitle? ks x).map (· ++ t) ∧ ∀ r ∈ afterTitle? ks x, '\n' ∈ r := by
  rcases x with _ | ⟨c, x⟩
  · exact absurd rfl hne
  have hmark : ∀ closing, closing ≠ '\n' → c ≠ '\n' →
      (afterTitleMark? ks closing (c :: (x ++ t)).length (x ++ t)).filter
          (fun rest => (afterBlankLine? rest).isSome) =
        ((afterTitleMark? ks closing (c :: x).length x).filter
          fun rest => (afterBlankLine? rest).isSome).map (· ++ t) ∧
      ∀ r ∈ (afterTitleMark? ks closing (c :: x).length x).filter fun rest => (afterBlankLine? rest).isSome,
        '\n' ∈ r := by
    intro closing hclosing hc
    have hm := mem_of_cons (hx.mem hne) hc
    obtain ⟨happend, hmem⟩ := afterTitleMark?_append ks hclosing (c :: x).length (c :: (x ++ t)).length
      (hx.of_suffix (List.suffix_cons c x)) (List.ne_nil_of_mem hm) ht (by simp) (by simp; omega)
    rw [happend]
    refine ⟨?_, fun r hr => hmem r (Option.filter_eq_some_iff.1 hr).1⟩
    rcases hr : afterTitleMark? ks closing (c :: x).length x with _ | r
    · rfl
    · simp only [Option.map_some, Option.filter_some, ofLine_afterBlankLine? (hmem r hr) t]
      split <;> rfl
  by_cases hapostrophe : c = '\''
  · subst hapostrophe
    exact hmark '\'' (by decide) (by decide)
  by_cases hquote : c = '"'
  · subst hquote
    exact hmark '"' (by decide) (by decide)
  by_cases hparenthesis : c = '('
  · subst hparenthesis
    exact hmark ')' (by decide) (by decide)
  · have hnone : ∀ u, afterTitle? ks (c :: u) = none := fun u => by
      simp [afterTitle?, hapostrophe, hquote, hparenthesis]
    rw [List.cons_append, hnone, hnone]
    exact ⟨rfl, by simp⟩

/-- A definition ends in front of a fence. -/
theorem afterReference?_append (ks : List Container) (hx : EndsLine x) (hne : x ≠ []) (ht : BeginsFence t) :
    afterReference? ks (x ++ t) = (afterReference? ks x).map (· ++ t) ∧ ∀ r ∈ afterReference? ks x, '\n' ∈ r := by
  have hopen : OnLine fun s => dropPrefix? s ['['] := onLine_dropPrefix? (by decide)
  have hcolon : OnLine fun s => dropPrefix? s [':'] := onLine_dropPrefix? (by decide)
  have hmem := hx.mem hne
  unfold afterReference?
  simp only [Option.bind_eq_bind]
  rw [hopen.append hmem]
  -- each part is an end of the text, with the last line feed in it
  rcases hlabel : dropPrefix? x ['['] with _ | label
  · exact ⟨rfl, by simp⟩
  have hlabel' : EndsLine label := hx.of_suffix (dropPrefix?_suffix hlabel)
  have hm := hopen.mem hmem label hlabel
  have hlength := (dropPrefix?_suffix hlabel).length_le
  obtain ⟨happend, hmems⟩ := afterLabel?_append ks x.length (x ++ t).length hlabel' (List.ne_nil_of_mem hm) ht
    hlength (by rw [List.length_append]; omega) 0 true
  simp only [Option.map_some, Option.bind_some, happend]
  rcases hclose : afterLabel? ks x.length 0 true label with _ | close
  · exact ⟨rfl, by simp⟩
  have hclose' : EndsLine close := hlabel'.of_suffix (afterLabel?_suffix hclose)
  have hm := hmems close hclose
  simp only [Option.map_some, Option.bind_some]
  rw [hcolon.append hm]
  rcases htarget : dropPrefix? close [':'] with _ | target
  · exact ⟨rfl, by simp⟩
  have htarget' : EndsLine target := hclose'.of_suffix (dropPrefix?_suffix htarget)
  have hm := hcolon.mem hm target htarget
  obtain ⟨happend, hmems⟩ := afterSpace?_append ks htarget' (List.ne_nil_of_mem hm) ht
  simp only [Option.map_some, Option.bind_some, happend]
  rcases hspace : afterSpace? ks target with _ | ⟨b, destination⟩
  · exact ⟨rfl, by simp⟩
  have hdestination' : EndsLine destination := htarget'.of_suffix (afterSpace?_suffix hspace)
  have hm := hmems _ hspace
  simp only [Option.map_some, Option.bind_some]
  rw [onLine_afterDestination?.append hm]
  rcases hafter : afterDestination? destination with _ | after
  · exact ⟨rfl, by simp⟩
  have hafter' : EndsLine after := hdestination'.of_suffix (afterDestination?_suffix hafter)
  have hm := onLine_afterDestination?.mem hm after hafter
  obtain ⟨happend, hmems⟩ := afterSpace?_append ks hafter' (List.ne_nil_of_mem hm) ht
  simp only [Option.map_some, Option.bind_some, happend]
  rcases htitle : afterSpace? ks after with _ | ⟨isNewLine, title⟩
  · refine ⟨rfl, ?_⟩
    rintro r ⟨⟩
    exact hm
  have htitle' : EndsLine title := hafter'.of_suffix (afterSpace?_suffix htitle)
  have hlengths : ((title ++ t).length = (after ++ t).length) = (title.length = after.length) := by
    simp only [List.length_append, Nat.add_right_cancel_iff]
  obtain ⟨happend, hmems⟩ := afterTitle?_append ks htitle' (List.ne_nil_of_mem (hmems _ htitle)) ht
  simp only [Option.map_some, hlengths, happend]
  split
  · exact ⟨rfl, by simp⟩
  · rcases hread : afterTitle? ks title with _ | rest
    · cases isNewLine with
      | false => exact ⟨rfl, by simp⟩
      | true =>
        refine ⟨rfl, ?_⟩
        rintro r ⟨⟩
        exact hm
    · refine ⟨rfl, ?_⟩
      rintro r ⟨⟩
      exact hmems rest hread

/-! ## Blocks that end in front of a fence -/

/-- The text of a paragraph ends in front of a fence. -/
theorem afterProse_append (ks : List Container) (fuel fuel' : Nat) (hx : EndsLine x) (hne : x ≠ [])
    (ht : BeginsFence t) (hf : x.length < fuel) (hf' : x.length < fuel') :
    afterProse ks fuel' (x ++ t) = afterProse ks fuel x ++ t := by
  induction fuel generalizing x fuel' with
  | zero => omega
  | succ fuel ih =>
    obtain ⟨fuel', rfl⟩ : ∃ n, fuel' = n + 1 := ⟨fuel' - 1, by omega⟩
    have hshort := afterLine_length hne
    have hnext : EndsLine (afterLine x) := hx.of_suffix (afterLine_suffix x)
    simp only [afterProse, afterLine_append (hx.mem hne)]
    by_cases hlast : afterLine x = []
    · simp [hlast, afterUnderline?_fence ht, interrupts_fence ht, afterUnderline?_nil, interrupts_nil]
    · have hm := mem_innerLine ks (hnext.mem hlast)
      have hskip := Cursor.skipSpaces_append hm t
      have hmem := Cursor.mem_skipSpaces hm
      have hline := (Cursor.skipSpaces_suffix (innerLine ks (afterLine x)).contents).trans
        (innerLine_suffix ks (afterLine x))
      rw [innerLine_append ks (hnext.mem hlast), InnerLine.afterUnderline?_append hm, InnerLine.interrupts_append hm]
      rcases hunder : (innerLine ks (afterLine x)).afterUnderline? with _ | rest
      · have hend := Cursor.isAtEnd_append hmem t
        simp only [Option.map_none, InnerLine.append, hskip, hend, Cursor.rest_append]
        split
        · rfl
        · have hlength := hline.length_le
          exact ih fuel' (hnext.of_suffix hline) (List.ne_nil_of_mem hmem) (by omega) (by omega)
      · rfl

/-- A paragraph ends in front of a fence, whatever definitions it begins with. -/
theorem afterParagraph_append (ks : List Container) (fuel fuel' : Nat) (hx : EndsLine x) (hne : x ≠ [])
    (ht : BeginsFence t) (hf : x.length < fuel) (hf' : x.length < fuel') :
    afterParagraph ks fuel' (x ++ t) = afterParagraph ks fuel x ++ t := by
  induction fuel generalizing x fuel' with
  | zero => omega
  | succ fuel ih =>
    obtain ⟨fuel', rfl⟩ : ∃ n, fuel' = n + 1 := ⟨fuel' - 1, by omega⟩
    obtain ⟨happend, hmems⟩ := afterReference?_append ks hx hne ht
    simp only [afterParagraph, happend]
    rcases hreference : afterReference? ks x with _ | after
    · exact afterProse_append ks (x.length + 1) ((x ++ t).length + 1) hx hne ht (by omega)
        (by rw [List.length_append]; omega)
    · have hshort : after.length < x.length := by
        obtain ⟨label, rfl, hr⟩ := afterReference?_cases hreference
        have := hr.length_le
        simp only [List.length_cons]
        omega
      have hm := hmems after hreference
      have hafter : EndsLine after := hx.of_suffix (afterReference?_suffix hreference)
      simp only [Option.map_some, afterBlankLine?_append hm]
      rcases hblank : afterBlankLine? after with _ | next
      · rfl
      · have hnext : EndsLine next := hafter.of_suffix (afterBlankLine?_suffix hblank)
        simp only [Option.map_some]
        by_cases hlast : next = []
        · simp [hlast, interrupts_fence ht, interrupts_nil]
        · have hmem := mem_innerLine ks (hnext.mem hlast)
          have hskip := Cursor.skipSpaces_append hmem t
          have hline := (Cursor.skipSpaces_suffix (innerLine ks next).contents).trans (innerLine_suffix ks next)
          rw [innerLine_append ks (hnext.mem hlast), InnerLine.isBlank_append hmem, InnerLine.interrupts_append hmem]
          simp only [InnerLine.append, hskip, Cursor.rest_append]
          split
          · rfl
          · have hlength := (hline.trans (afterBlankLine?_suffix hblank)).length_le
            exact ih fuel' (hnext.of_suffix hline) (List.ne_nil_of_mem (Cursor.mem_skipSpaces hmem)) (by omega)
              (by omega)

theorem splitLineFeed_length (h : x ≠ []) : (splitLineFeed x).2.length < x.length := by
  rcases x with _ | ⟨c, x⟩
  · exact absurd rfl h
  · have hle : (splitLineFeed (c :: x)).2 <:+ x := by
      unfold splitLineFeed
      split
      · exact List.suffix_rfl
      · exact splitLineFeed_suffix x
    have := hle.length_le
    simp only [List.length_cons]
    omega

theorem afterIndentedCode_append (ks : List Container) (fuel fuel' : Nat) (hx : EndsLine x) (hne : x ≠ [])
    (ht : BeginsFence t) (hf : x.length < fuel) (hf' : x.length < fuel') (blank : Bool) :
    afterIndentedCode ks fuel' (x ++ t) blank =
      ((afterIndentedCode ks fuel x blank).1, (afterIndentedCode ks fuel x blank).2 ++ t) := by
  induction fuel generalizing x fuel' blank with
  | zero => omega
  | succ fuel ih =>
    obtain ⟨fuel', rfl⟩ : ∃ n, fuel' = n + 1 := ⟨fuel' - 1, by omega⟩
    have hshort := splitLineFeed_length hne
    have hnext : EndsLine (splitLineFeed x).2 := hx.of_suffix (splitLineFeed_suffix x)
    simp only [afterIndentedCode, splitLineFeed_append_of_mem (hx.mem hne)]
    by_cases hlast : (splitLineFeed x).2 = []
    · -- the fence is not indented, and where the text ends there is no code
      have hend : (Cursor.atLineStart t).isAtEnd = false := by
        obtain ⟨c, u, rfl, hc⟩ := ht.cases
        rcases hc with rfl | rfl <;> rfl
      have hempty : ((innerLine ks []).contents.advance 4).2.rest = [] := by
        rw [innerLine_nil]
        rfl
      rw [hlast]
      simp [innerLine_fence ht, ht.advance, hend, hempty]
    · have hm := mem_innerLine ks (hnext.mem hlast)
      have hmem := Cursor.mem_advance hm 4
      have hend := Cursor.isAtEnd_append hmem t
      have hempty : ∀ u : Text, '\n' ∈ u → u.isEmpty = false ∧ (u ++ t).isEmpty = false := by
        rintro (_ | ⟨c, u⟩) hu
        · cases hu
        · exact ⟨rfl, rfl⟩
      have hline := (Cursor.advance_suffix (innerLine ks (splitLineFeed x).2).contents 4).trans
        (innerLine_suffix ks (splitLineFeed x).2)
      rw [innerLine_append ks (hnext.mem hlast)]
      simp only [InnerLine.append, Cursor.advance_append hm, hend, Cursor.rest_append, (hempty _ hmem).1,
        (hempty _ hmem).2, ofLine_afterBlankLine? hmem t]
      split
      · rfl
      · have hlength := hline.length_le
        exact ih fuel' (hnext.of_suffix hline) (List.ne_nil_of_mem hmem) (by omega) (by omega) _

end DiagramProse.Markdown
