import DiagramProse.Proofs.Markdown.FenceOrder
import DiagramProse.Proofs.Markdown.Paragraphs
import Mathlib.Data.Option.Basic

/-!
One step of the walk, in lines with a fence at the margin behind them (`Walk.step_cases`). There are two
possibilities, and which of them it is depends on the lines alone. Either the step ends in front of the fence,
and then it reads what it would read if the text ended there; or it goes beyond, as raw HTML and the code of
another fence may do, and then what looks like a fence is none.
-/

namespace DiagramProse.Markdown

open Text

variable {x t : Text}

/-! ## Raw HTML -/

/-- Whether a block of raw HTML ends with its line `current`, behind which the text `next` begins. -/
def endsHtml (ks : List Container) (limit : HtmlEnd) (current next : Text) : Bool :=
  let line := innerLine ks next
  let isLast :=
    match limit with
    | .mark mark => current.contains mark
    | .blankLine => line.isBlank
  !line.isInside || isLast || line.contents.rest.isEmpty

theorem afterHtml_succ (ks : List Container) (limit : HtmlEnd) (fuel : Nat) (s : Text) :
    afterHtml ks limit (fuel + 1) s =
      if endsHtml ks limit (splitLineFeed s).1 (splitLineFeed s).2 then (splitLineFeed s).2
      else afterHtml ks limit fuel (innerLine ks (splitLineFeed s).2).contents.rest := rfl

theorem afterHtml_length (ks : List Container) (limit : HtmlEnd) (fuel : Nat) (ht : t ≠ []) :
    (afterHtml ks limit fuel t).length < t.length := by
  cases fuel with
  | zero => exact List.length_pos_iff.2 ht
  | succ fuel =>
    have hnext := splitLineFeed_length ht
    have hline := (afterHtml_suffix ks limit fuel (innerLine ks (splitLineFeed t).2).contents.rest).trans
      (innerLine_suffix ks (splitLineFeed t).2)
    have hle := hline.length_le
    rw [afterHtml_succ]
    split
    · exact hnext
    · omega

theorem BeginsFence.ne_nil (h : BeginsFence t) : t ≠ [] := by
  rintro rfl
  cases h

theorem isBlank_fence (h : BeginsFence t) (ks : List Container) : (innerLine ks t).isBlank = false := by
  rw [innerLine_fence h]
  obtain ⟨c, u, rfl, hc⟩ := h.cases
  rcases hc with rfl | rfl <;> rfl

theorem isEmpty_eq_false {u : Text} (h : '\n' ∈ u) : u.isEmpty = false := by
  cases u with
  | nil => cases h
  | cons c u => rfl

/-- The line in front of a fence decides whether the fence is HTML too. -/
theorem endsHtml_fence (ks : List Container) (limit : HtmlEnd) (current : Text) :
    ∃ ends, ∀ t, BeginsFence t → endsHtml ks limit current t = ends := by
  have hcases : ∀ t, BeginsFence t → endsHtml ks limit current t =
      (!(decide ((ks.takeWhile Container.isOpenAtMargin).length = ks.length)) ||
        match limit with
        | .mark mark => current.contains mark
        | .blankLine => false) := by
    intro t ht
    have hsome : t.isEmpty = false := by
      obtain ⟨c, u, rfl, -⟩ := ht.cases
      rfl
    have hblank := isBlank_fence ht ks
    rw [innerLine_fence ht] at hblank
    simp only [endsHtml, innerLine_fence ht, hblank]
    cases limit <;> simp [Cursor.atLineStart, hsome]
  exact ⟨_, hcases⟩

theorem endsHtml_append (ks : List Container) (limit : HtmlEnd) (current : Text) (h : '\n' ∈ x) (t : Text) :
    endsHtml ks limit current (x ++ t) = endsHtml ks limit current x := by
  have hmem := mem_innerLine ks h
  simp only [endsHtml, innerLine_append ks h, InnerLine.isBlank_append hmem]
  simp only [InnerLine.append, Cursor.rest_append, isEmpty_eq_false hmem,
    isEmpty_eq_false (List.mem_append_left t hmem)]

/-- Raw HTML in the lines `x`. -/
theorem afterHtml_cases (ks : List Container) (limit : HtmlEnd) (hx : EndsLine x) (hne : x ≠ []) :
    (∀ t fuel fuel', BeginsFence t → x.length < fuel → x.length < fuel' →
      afterHtml ks limit fuel' (x ++ t) = afterHtml ks limit fuel x ++ t) ∨
    ∀ t fuel, BeginsFence t → (afterHtml ks limit fuel (x ++ t)).length < t.length := by
  induction hn : x.length using Nat.strong_induction_on generalizing x with
  | _ n ih =>
    subst hn
    have hnext : EndsLine (splitLineFeed x).2 := hx.of_suffix (splitLineFeed_suffix x)
    have hshort := splitLineFeed_length hne
    have hsplit := splitLineFeed_append_of_mem (hx.mem hne)
    by_cases hlast : (splitLineFeed x).2 = []
    · obtain ⟨ends, hfence⟩ := endsHtml_fence ks limit (splitLineFeed x).1
      have hself : ∀ fuel, x.length < fuel → afterHtml ks limit fuel x = [] := by
        intro fuel hf
        obtain ⟨fuel, rfl⟩ : ∃ n, fuel = n + 1 := ⟨fuel - 1, by omega⟩
        have hempty : (innerLine ks []).contents.rest.isEmpty = true := by rw [innerLine_nil]; rfl
        rw [afterHtml_succ, hlast]
        simp only [endsHtml, hempty, Bool.or_true, if_true]
      cases ends with
      | true =>
        refine .inl fun t fuel fuel' ht hf hf' => ?_
        obtain ⟨fuel', rfl⟩ : ∃ n, fuel' = n + 1 := ⟨fuel' - 1, by omega⟩
        simp only [hself fuel hf, afterHtml_succ, hsplit, hlast, List.nil_append, hfence t ht, if_true]
      | false =>
        refine .inr fun t fuel ht => ?_
        cases fuel with
        | zero => exact List.length_pos_iff.2 ht.ne_nil
        | succ fuel =>
          simp only [afterHtml_succ, hsplit, hlast, List.nil_append, hfence t ht, Bool.false_eq_true, if_false,
            innerLine_fence ht]
          exact afterHtml_length ks limit fuel ht.ne_nil
    · have hmem := mem_innerLine ks (hnext.mem hlast)
      have hsame := endsHtml_append ks limit (splitLineFeed x).1 (hnext.mem hlast)
      have hline : (innerLine ks (splitLineFeed x).2).contents.rest <:+ (splitLineFeed x).2 := innerLine_suffix ks _
      have hlength := hline.length_le
      have hrest : ∀ t, (innerLine ks ((splitLineFeed x).2 ++ t)).contents.rest =
          (innerLine ks (splitLineFeed x).2).contents.rest ++ t := by
        intro t
        rw [innerLine_append ks (hnext.mem hlast)]
        rfl
      cases hend : endsHtml ks limit (splitLineFeed x).1 (splitLineFeed x).2 with
      | true =>
        refine .inl fun t fuel fuel' _ hf hf' => ?_
        obtain ⟨fuel, rfl⟩ : ∃ n, fuel = n + 1 := ⟨fuel - 1, by omega⟩
        obtain ⟨fuel', rfl⟩ : ∃ n, fuel' = n + 1 := ⟨fuel' - 1, by omega⟩
        simp only [afterHtml_succ, hsplit, hsame, hend, if_true]
      | false =>
        rcases ih _ (by omega) (hnext.of_suffix hline) (List.ne_nil_of_mem hmem) rfl with h | h
        · refine .inl fun t fuel fuel' ht hf hf' => ?_
          obtain ⟨fuel, rfl⟩ : ∃ n, fuel = n + 1 := ⟨fuel - 1, by omega⟩
          obtain ⟨fuel', rfl⟩ : ∃ n, fuel' = n + 1 := ⟨fuel' - 1, by omega⟩
          simp only [afterHtml_succ, hsplit, hsame, hend, hrest, Bool.false_eq_true, if_false]
          exact h t fuel fuel' ht (by omega) (by omega)
        · refine .inr fun t fuel ht => ?_
          cases fuel with
          | zero => exact List.length_pos_iff.2 ht.ne_nil
          | succ fuel =>
            simp only [afterHtml_succ, hsplit, hsame, hend, hrest, Bool.false_eq_true, if_false]
            exact h t fuel ht

/-! ## Fenced code -/

theorem fenceMark?_cases {mark : FenceMark} (h : fenceMark? t = some mark) :
    3 ≤ mark.count ∧ mark.count ≤ t.length ∧ mark.mark ≠ '\n' ∧ t.drop mark.count = t.dropWhile (· == mark.mark) := by
  rcases t with _ | ⟨c, u⟩
  · cases h
  · have hle := (List.takeWhile_prefix (l := c :: u) (· == c)).length_le
    have hdrop := drop_takeWhile (c :: u) (· == c)
    unfold fenceMark? at h
    dsimp only at h
    split at h
    · next hc =>
      cases h
      exact ⟨hc.2, hle, hc.1 ▸ (by decide : '~' ≠ '\n'), hdrop⟩
    · split at h
      · next hc =>
        cases h
        exact ⟨hc.2.1, hle, hc.1 ▸ (by decide : '\x60' ≠ '\n'), hdrop⟩
      · cases h

/-- What is behind fenced code, and the code, with more text at the end. -/
def FencedCode.append (c : FencedCode) (t : Text) : FencedCode := ⟨c.code, c.after ++ t, c.next ++ t⟩

/-- Whether the code ends in its line, and what follows it then. -/
def closing? (mark : FenceMark) (indent : Nat) (c : Cursor) : Option Text :=
  let (missing, place) := c.advance (4 - indent)
  if missing = 0 then none else afterClosingFence? mark place.rest

theorem fencedCode_succ (ks : List Container) (mark : FenceMark) (indent fuel : Nat) (s : Text) :
    fencedCode ks mark indent (fuel + 1) s =
      if !(innerLine ks s).isInside then ⟨[], s, s⟩
      else
        let contents := ((innerLine ks s).contents.advance indent).2
        match closing? mark indent contents with
        | some after => ⟨[], after, (afterBlankLine? after).getD after⟩
        | none =>
          let further := fencedCode ks mark indent fuel (splitLineFeed contents.rest).2
          { further with
            code := List.replicate contents.pending ' ' ++ codeLine (splitLineFeed contents.rest).1 ++
              further.code } :=
  rfl

theorem closing?_append {mark : FenceMark} (hmark : mark.mark ≠ '\n') (indent : Nat) {c : Cursor} (h : '\n' ∈ c.rest)
    (t : Text) : closing? mark indent (c.append t) = (closing? mark indent c).map (· ++ t) ∧
      ∀ r ∈ closing? mark indent c, '\n' ∈ r := by
  unfold closing?
  simp only [Cursor.advance_append h, Cursor.rest_append]
  have hmem := Cursor.mem_advance h (4 - indent)
  split
  · exact ⟨rfl, by simp⟩
  · exact ⟨(onLine_afterClosingFence? hmark).append hmem t, (onLine_afterClosingFence? hmark).mem hmem⟩

theorem fencedCode_length {mark : FenceMark} (hcount : 0 < mark.count) (ks : List Container)
    (indent fuel : Nat) (ht : BeginsFence t) (hinside : (innerLine ks t).isInside = true) :
    (fencedCode ks mark indent fuel t).next.length < t.length := by
  have hpos : 0 < t.length := List.length_pos_iff.2 ht.ne_nil
  cases fuel with
  | zero => exact hpos
  | succ fuel =>
    have hcontents : ((innerLine ks t).contents.advance indent).2 = .atLineStart t := by
      rw [innerLine_fence ht]
      exact congrArg Prod.snd (ht.advance indent)
    rw [fencedCode_succ, hinside, hcontents]
    simp only [Bool.not_true, Bool.false_eq_true, if_false]
    split
    · next after hafter =>
      -- a fence that closes has marks of its own
      have hshort : after.length < t.length := by
        simp only [closing?, ht.advance, afterClosingFence?] at hafter
        split at hafter
        · cases hafter
        · split at hafter
          · next hclose =>
            cases hafter
            have hempty : (Cursor.atLineStart t).rest.isEmpty = false := by
              simpa [Cursor.atLineStart] using ht.ne_nil
            rw [hempty] at hclose
            have hmarks : mark.count ≤ (t.takeWhile (· == mark.mark)).length := by
              simp only [Bool.false_or, Bool.and_eq_true, decide_eq_true_eq] at hclose
              exact hclose.1
            refine Nat.lt_of_le_of_lt (List.dropWhile_suffix _).length_le ?_
            show (t.drop (t.takeWhile (· == mark.mark)).length).length < t.length
            rw [List.length_drop]
            omega
          · cases hafter
      have hnext : (afterBlankLine? after).getD after <:+ after := by
        rcases hblank : afterBlankLine? after with _ | next
        · exact List.suffix_rfl
        · exact afterBlankLine?_suffix hblank
      exact Nat.lt_of_le_of_lt hnext.length_le hshort
    · obtain ⟨hnext, hafter⟩ := fencedCode_suffix ks mark indent fuel (splitLineFeed t).2
      exact Nat.lt_of_le_of_lt (hnext.trans hafter).length_le (splitLineFeed_length ht.ne_nil)

/-- One line of code, with more text behind it. -/
theorem fencedCode_append_succ {mark : FenceMark} (hmark : mark.mark ≠ '\n') (ks : List Container) (indent : Nat)
    (h : '\n' ∈ x) (fuel : Nat) (t : Text) :
    fencedCode ks mark indent (fuel + 1) (x ++ t) =
      if !(innerLine ks x).isInside then ⟨[], x ++ t, x ++ t⟩
      else
        match closing? mark indent ((innerLine ks x).contents.advance indent).2 with
        | some after => ⟨[], after ++ t, (afterBlankLine? after).getD after ++ t⟩
        | none =>
          let contents := ((innerLine ks x).contents.advance indent).2
          let further := fencedCode ks mark indent fuel ((splitLineFeed contents.rest).2 ++ t)
          { further with
            code := List.replicate contents.pending ' ' ++ codeLine (splitLineFeed contents.rest).1 ++
              further.code } := by
  have hmem := mem_innerLine ks h
  have hcontents := Cursor.mem_advance hmem indent
  obtain ⟨happend, hmems⟩ := closing?_append hmark indent hcontents t
  rw [fencedCode_succ, innerLine_append ks h]
  simp only [InnerLine.append, Cursor.advance_append hmem, happend, Cursor.rest_append,
    splitLineFeed_append_of_mem hcontents]
  rcases hafter : closing? mark indent ((innerLine ks x).contents.advance indent).2 with _ | after
  · rfl
  · simp only [Option.map_some, afterBlankLine?_append (hmems after hafter)]
    cases afterBlankLine? after <;> rfl

/-- Where the text ends, code ends too. -/
theorem fencedCode_nil (ks : List Container) (mark : FenceMark) {indent : Nat} (hindent : indent < 4) (fuel : Nat) :
    fencedCode ks mark indent fuel [] = ⟨[], [], []⟩ := by
  cases fuel with
  | zero => rfl
  | succ fuel =>
    have hadvance : ∀ n, (Cursor.atLineStart []).advance n = (n, .atLineStart []) := by
      rintro (_ | n) <;> rfl
    have hclosing : closing? mark indent (.atLineStart []) = some [] := by
      simp only [closing?, hadvance, if_neg (Nat.sub_ne_zero_of_lt hindent)]
      rfl
    simp only [fencedCode_succ, innerLine_nil, hadvance, hclosing]
    split <;> rfl

/-- Code in the lines `x`. -/
theorem fencedCode_cases {mark : FenceMark} (hmark : mark.mark ≠ '\n') (hcount : 0 < mark.count) (ks : List Container)
    {indent : Nat} (hindent : indent < 4) (hx : EndsLine x) :
    (∀ t fuel fuel', BeginsFence t → x.length < fuel → x.length < fuel' →
      fencedCode ks mark indent fuel' (x ++ t) = (fencedCode ks mark indent fuel x).append t) ∨
    ∀ t fuel, BeginsFence t → (fencedCode ks mark indent fuel (x ++ t)).next.length < t.length := by
  induction hn : x.length using Nat.strong_induction_on generalizing x with
  | _ n ih =>
    subst hn
    by_cases hne : x = []
    · -- whether the fence is code, its containers tell
      subst hne
      by_cases hinside : (ks.takeWhile Container.isOpenAtMargin).length = ks.length
      · refine .inr fun t fuel ht => fencedCode_length hcount ks indent fuel ht ?_
        show (innerLine ks t).isInside = true
        rw [innerLine_fence ht]
        exact decide_eq_true hinside
      · refine .inl fun t fuel fuel' ht _ hf' => ?_
        obtain ⟨fuel', rfl⟩ : ∃ n, fuel' = n + 1 := ⟨fuel' - 1, by omega⟩
        rw [fencedCode_nil ks mark hindent, List.nil_append, fencedCode_succ, innerLine_fence ht,
          decide_eq_false hinside]
        rfl
    · have hmem := mem_innerLine ks (hx.mem hne)
      have hcontents := Cursor.mem_advance hmem indent
      have hline := (Cursor.advance_suffix (innerLine ks x).contents indent).trans (innerLine_suffix ks x)
      have hnext := (splitLineFeed_suffix ((innerLine ks x).contents.advance indent).2.rest).trans hline
      have hshort : (splitLineFeed ((innerLine ks x).contents.advance indent).2.rest).2.length < x.length :=
        Nat.lt_of_lt_of_le (splitLineFeed_length (List.ne_nil_of_mem hcontents)) hline.length_le
      have hunfold := fencedCode_append_succ hmark ks indent (hx.mem hne)
      have hself : ∀ fuel, fencedCode ks mark indent (fuel + 1) x = _ := fun fuel => by
        simpa only [List.append_nil] using hunfold fuel []
      cases hinside : (innerLine ks x).isInside with
      | false =>
        refine .inl fun t fuel fuel' _ hf hf' => ?_
        obtain ⟨fuel, rfl⟩ : ∃ n, fuel = n + 1 := ⟨fuel - 1, by omega⟩
        obtain ⟨fuel', rfl⟩ : ∃ n, fuel' = n + 1 := ⟨fuel' - 1, by omega⟩
        rw [hunfold, hself, hinside]
        rfl
      | true =>
        rcases hafter : closing? mark indent ((innerLine ks x).contents.advance indent).2 with _ | after
        · rcases ih _ hshort (hx.of_suffix hnext) rfl with h | h
          · refine .inl fun t fuel fuel' ht hf hf' => ?_
            obtain ⟨fuel, rfl⟩ : ∃ n, fuel = n + 1 := ⟨fuel - 1, by omega⟩
            obtain ⟨fuel', rfl⟩ : ∃ n, fuel' = n + 1 := ⟨fuel' - 1, by omega⟩
            rw [hunfold, hself, hinside, hafter]
            simp only [Bool.not_true, Bool.false_eq_true, if_false, h t fuel fuel' ht (by omega) (by omega)]
            rfl
          · refine .inr fun t fuel ht => ?_
            cases fuel with
            | zero => exact List.length_pos_iff.2 ht.ne_nil
            | succ fuel =>
              rw [hunfold, hinside, hafter]
              exact h t fuel ht
        · refine .inl fun t fuel fuel' _ hf hf' => ?_
          obtain ⟨fuel, rfl⟩ : ∃ n, fuel = n + 1 := ⟨fuel - 1, by omega⟩
          obtain ⟨fuel', rfl⟩ : ∃ n, fuel' = n + 1 := ⟨fuel' - 1, by omega⟩
          rw [hunfold, hself, hinside, hafter]
          rfl

/-- What a fence says. -/
def Fence.content (f : Fence) : Text × Text := (f.info, f.code)

/-! ## Containers that begin in a line -/

theorem Cursor.skip_append {c : Cursor} {n : Nat} (h : n ≤ c.rest.length) (t : Text) :
    (c.append t).skip n = (c.skip n).append t := by
  simp only [Cursor.skip, Cursor.append, List.drop_append_of_le_length h]

theorem Container.afterQuoteMark?_length {c d : Cursor} (h : afterQuoteMark? c = some d) :
    d.rest.length < c.rest.length := by
  unfold afterQuoteMark? at h
  obtain ⟨e, he, rfl⟩ := Option.map_eq_some_iff.1 h
  have hshort : e.rest.length < c.rest.length := by
    unfold Cursor.take? at he
    split at he
    · next hhead =>
      cases he
      rcases hr : c.rest with _ | ⟨x, r⟩
      · rw [hr] at hhead; cases hhead
      · simp [Cursor.skip, hr]
    · cases he
  dsimp only
  split
  · exact Nat.lt_of_le_of_lt (Cursor.advance_suffix e 1).length_le hshort
  · exact hshort

namespace Walk

/-- What `itemMarker?` finds, in a line that is not the last. -/
theorem itemMarker?_append (outer : Nat) {c : Cursor} (h : '\n' ∈ c.rest) (t : Text) :
    itemMarker? outer (c.append t) =
      (itemMarker? outer c).map fun (mark, indent, d) => (mark, indent, d.append t) := by
  have hbreak := congrArg Option.isNone (afterBreak?_append h t)
  rw [Option.isNone_map] at hbreak
  simp only [itemMarker?, Cursor.rest_append, ofLine_head? h, hbreak, ofLine_listMarker? h, Option.bind_eq_bind]
  by_cases hbullet : (!c.rest.head?.any isBullet || (afterBreak? c.rest).isNone) = true
  · simp only [hbullet, guard_true, Option.pure_def, Option.bind_some]
    rcases hm : listMarker? c.rest with _ | marker
    · rfl
    · have hmem : '\n' ∈ (c.skip marker.width).rest := mem_drop_marker h hm
      simp only [Option.bind_some, Cursor.skip_append (length_marker h hm), Cursor.advance_append hmem]
      generalize hd : (c.skip marker.width).advance 1 = d
      have hmem' : '\n' ∈ d.2.rest := hd ▸ Cursor.mem_advance hmem 1
      simp only [Cursor.isAtEnd_append hmem', Cursor.rest_append, ofLine_afterBlankLine? hmem' t,
        Cursor.advance_append hmem']
      by_cases hends : (decide (d.1 = 0) || d.2.isAtEnd) = true
      · simp only [hends, guard_true, Option.pure_def, Option.bind_some]
        split
        · rfl
        · split <;> rfl
      · simp only [hends]
        rfl
  · simp only [hbullet]
    rfl

theorem itemMarker?_cases {outer : Nat} {c d : Cursor} {mark : Char} {indent : Nat}
    (h : itemMarker? outer c = some (mark, indent, d)) :
    0 < indent ∧ ∃ marker, listMarker? c.rest = some marker ∧
      (d = ((c.skip marker.width).advance 1).2 ∨ d = (((c.skip marker.width).advance 1).2.advance 4).2) := by
  unfold itemMarker? at h
  obtain ⟨-, -, h⟩ := Option.bind_eq_some_iff.1 h
  obtain ⟨marker, hmarker, h⟩ := Option.bind_eq_some_iff.1 h
  obtain ⟨-, -, h⟩ := Option.bind_eq_some_iff.1 h
  simp only at h
  split at h
  · cases h
    exact ⟨by omega, marker, hmarker, .inl rfl⟩
  · split at h
    · cases h
      exact ⟨by omega, marker, hmarker, .inl rfl⟩
    · cases h
      exact ⟨by omega, marker, hmarker, .inr rfl⟩

theorem itemMarker?_length {outer : Nat} {c d : Cursor} {mark : Char} {indent : Nat}
    (h : itemMarker? outer c = some (mark, indent, d)) : d.rest.length < c.rest.length := by
  obtain ⟨-, marker, hmarker, hd⟩ := itemMarker?_cases h
  have hwidth : 0 < marker.width ∧ 0 < c.rest.length := by
    unfold listMarker? at hmarker
    split at hmarker
    · cases hmarker
    · next hrest =>
      rw [hrest]
      refine ⟨?_, Nat.succ_pos _⟩
      split at hmarker
      · cases hmarker
        exact Nat.one_pos
      · dsimp only at hmarker
        split at hmarker
        · cases hmarker
        · split at hmarker
          · cases hmarker
          · cases hmarker
            exact Nat.succ_pos _
  have hskip : (c.skip marker.width).rest.length < c.rest.length := by
    simp only [Cursor.skip, List.length_drop]
    omega
  have hadvance := (Cursor.advance_suffix (c.skip marker.width) 1).length_le
  rcases hd with rfl | rfl
  · omega
  · have hmore := (Cursor.advance_suffix ((c.skip marker.width).advance 1).2 4).length_le
    omega

theorem mem_itemMarker? {outer : Nat} {c d : Cursor} {mark : Char} {indent : Nat} (h : '\n' ∈ c.rest)
    (hd : itemMarker? outer c = some (mark, indent, d)) : '\n' ∈ d.rest := by
  obtain ⟨-, marker, hmarker, hd⟩ := itemMarker?_cases hd
  have hmem : '\n' ∈ (c.skip marker.width).rest := mem_drop_marker h hmarker
  rcases hd with rfl | rfl
  · exact Cursor.mem_advance hmem 1
  · exact Cursor.mem_advance (Cursor.mem_advance hmem 1) 4

theorem openContainers_append (fuel fuel' : Nat) (w : Walk) {c : Cursor} (h : '\n' ∈ c.rest) (t : Text)
    (hf : c.rest.length < fuel) (hf' : c.rest.length < fuel') :
    openContainers fuel' w (c.append t) =
      ((openContainers fuel w c).1, (openContainers fuel w c).2.1.append t,
        (openContainers fuel w c).2.2.map (· ++ t)) ∧ '\n' ∈ (openContainers fuel w c).2.1.rest := by
  induction fuel generalizing w c fuel' with
  | zero => omega
  | succ fuel ih =>
    obtain ⟨fuel', rfl⟩ : ∃ n, fuel' = n + 1 := ⟨fuel' - 1, by omega⟩
    have hmem := Cursor.mem_advance h 4
    have hlength := (Cursor.advance_suffix c 4).length_le
    simp only [openContainers, Cursor.advance_append h, itemMarker?_append _ hmem,
      Container.afterQuoteMark?_append hmem]
    by_cases hmissing : (c.advance 4).1 = 0
    · simp only [hmissing, if_true]
      exact ⟨rfl, h⟩
    · simp only [hmissing, if_false]
      rcases hitem : itemMarker? (4 - (c.advance 4).1) (c.advance 4).2 with _ | ⟨mark, indent, e⟩
      · rcases hquote : Container.afterQuoteMark? (c.advance 4).2 with _ | e
        · exact ⟨rfl, h⟩
        · have hshort := Container.afterQuoteMark?_length hquote
          exact ih fuel' w.openQuote (Container.mem_afterQuoteMark? hmem hquote) (by omega) (by omega)
      · have hmem' := mem_itemMarker? hmem hitem
        have hshort := itemMarker?_length hitem
        simp only [Option.map_some, Cursor.rest_append, afterBlankLine?_append hmem']
        rcases hblank : afterBlankLine? e.rest with _ | rest
        · exact ih fuel' (w.openItem mark indent) hmem' (by omega) (by omega)
        · exact ⟨rfl, hmem'⟩

/-- Where the containers of a line are opened: those that go on in it and those that begin. -/
def opened (w : Walk) (s : Text) : Walk × Cursor × Option Text :=
  let (count, c) := Container.follow w.containers (.atLineStart s)
  (w.keep count).openContainers (s.length + 1) c

theorem opened_suffix (w : Walk) (s : Text) :
    (w.opened s).2.1.rest <:+ s ∧ ∀ rest ∈ (w.opened s).2.2, rest <:+ s := by
  have hfollow := Container.follow_suffix w.containers (.atLineStart s)
  obtain ⟨hrest, hitem⟩ := openContainers_suffix
    (Prod.eta (openContainers (s.length + 1) (w.keep (Container.follow w.containers (.atLineStart s)).1)
      (Container.follow w.containers (.atLineStart s)).2)).symm
  exact ⟨hrest.trans hfollow, fun rest hr => (hitem rest hr).trans hfollow⟩

theorem opened_append (w : Walk) (h : '\n' ∈ x) (t : Text) :
    w.opened (x ++ t) = ((w.opened x).1, (w.opened x).2.1.append t, (w.opened x).2.2.map (· ++ t)) ∧
      '\n' ∈ (w.opened x).2.1.rest := by
  obtain ⟨hfollow, hmem⟩ := Container.follow_append (c := .atLineStart x) w.containers h t
  have hle := (Container.follow_suffix w.containers (.atLineStart x)).length_le
  have hle' : (Container.follow w.containers (.atLineStart x)).2.rest.length ≤ x.length := hle
  unfold opened
  rw [Cursor.atLineStart_append, hfollow]
  exact openContainers_append (x.length + 1) ((x ++ t).length + 1) _ hmem t (by omega)
    (by rw [List.length_append]; omega)

theorem step_eq (w : Walk) (total : Nat) (s : Text) :
    w.step total s =
      match (w.opened s).2.2 <|> (afterBlankLine? (w.opened s).2.1.rest) with
      | some rest => (if (w.opened s).2.2.isSome then (w.opened s).1 else (w.opened s).1.seeBlank, rest, none)
      | none =>
        if ((w.opened s).2.1.advance 4).1 = 0 then
          let closed := (w.opened s).1.closeList
          let code := afterIndentedCode closed.containers (s.length + 1) ((w.opened s).2.1.advance 4).2.rest false
          ({ closed with isAfterBlank := code.1 }, code.2, none)
        else
          (w.opened s).1.readBlock (4 - ((w.opened s).2.1.advance 4).1) total
            ((w.opened s).2.1.advance 4).2.rest := by
  rw [step]
  rfl

/-! ## Steps -/

/-- What is read from the lines `x` ends in front of a fence behind them, and is the same for every fence. -/
def Stops (read : Nat → Text → Walk × Text × Option Fence) (x : Text) : Prop :=
  ∃ v rest content, rest <:+ x ∧ ∀ t total, BeginsFence t → ∃ fence,
    read total (x ++ t) = (v, rest ++ t, fence) ∧ fence.map Fence.content = content

/-- What is read from the lines `x` goes beyond the beginning of every fence behind them. -/
def Passes (read : Nat → Text → Walk × Text × Option Fence) (x : Text) : Prop :=
  ∀ t total, BeginsFence t → (read total (x ++ t)).2.1.length < t.length

/-- The line of a fence, with more text behind it. -/
theorem readFence_append (w : Walk) {mark : FenceMark} (indent total : Nat) (h : '\n' ∈ x)
    (hmark : fenceMark? x = some mark) (t : Text) :
    w.readFence mark indent total (x ++ t) =
      let info := dropEndWhile isGapOrEnd ((splitLineFeed (x.drop mark.count)).1.dropWhile isGap)
      let code := fencedCode w.containers mark indent ((x ++ t).length + 1)
        ((splitLineFeed (x.drop mark.count)).2 ++ t)
      (⟨unescape info, code.code, total - (x ++ t).length, total - code.after.length⟩, code.next) := by
  obtain ⟨-, hle, hlf, hdrop⟩ := fenceMark?_cases hmark
  have hmem : '\n' ∈ x.drop mark.count := by
    rw [hdrop]
    exact mem_dropWhile h (by simpa using Ne.symm hlf)
  simp only [readFence, List.drop_append_of_le_length hle, splitLineFeed_append_of_mem hmem]

/-- A fenced block, in the lines `x`. -/
theorem readFence_cases (w : Walk) {mark : FenceMark} {indent : Nat} (hindent : indent < 4) (hx : EndsLine x)
    (hne : x ≠ []) (hmark : fenceMark? x = some mark) :
    (∃ rest content, rest <:+ x ∧ ∀ t total, BeginsFence t → ∃ fence,
      w.readFence mark indent total (x ++ t) = (fence, rest ++ t) ∧ fence.content = content) ∨
    ∀ t total, BeginsFence t → (w.readFence mark indent total (x ++ t)).2.length < t.length := by
  obtain ⟨hcount, -, hlf, -⟩ := fenceMark?_cases hmark
  have hsuffix := (splitLineFeed_suffix (x.drop mark.count)).trans (List.drop_suffix mark.count x)
  have hlength := hsuffix.length_le
  simp only [readFence_append w indent _ (hx.mem hne) hmark]
  generalize dropEndWhile isGapOrEnd ((splitLineFeed (x.drop mark.count)).1.dropWhile isGap) = info
  generalize (splitLineFeed (x.drop mark.count)).2 = lines at hsuffix hlength
  rcases fencedCode_cases hlf (by omega) w.containers hindent (hx.of_suffix hsuffix) with h | h
  · obtain ⟨hnext, hafter⟩ := fencedCode_suffix w.containers mark indent (x.length + 1) lines
    have hcode : ∀ t, BeginsFence t → fencedCode w.containers mark indent ((x ++ t).length + 1) (lines ++ t) =
        (fencedCode w.containers mark indent (x.length + 1) lines).append t :=
      fun t ht => h t _ _ ht (by omega) (by rw [List.length_append]; omega)
    generalize fencedCode w.containers mark indent (x.length + 1) lines = code at hnext hafter hcode
    refine .inl ⟨code.next, (unescape info, code.code), (hnext.trans hafter).trans hsuffix, fun t total ht => ?_⟩
    rw [hcode t ht]
    exact ⟨_, rfl, rfl⟩
  · exact .inr fun t total ht => h t _ ht

/-- One block, with more text behind its first line. -/
theorem readBlock_append (w : Walk) (indent total : Nat) (h : '\n' ∈ x) (t : Text) :
    w.readBlock indent total (x ++ t) =
      match htmlBlock? x with
      | some limit => (w.closeList, afterHtml w.closeList.containers limit ((x ++ t).length + 1) (x ++ t), none)
      | none =>
        match afterBreak? x with
        | some rest => (w.closeList, rest ++ t, none)
        | none =>
          if beginsHeading x then (w.closeList, afterLine x ++ t, none)
          else
            match fenceMark? x with
            | some mark =>
              let (fence, rest) := w.closeList.readFence mark indent total (x ++ t)
              (w.closeList, rest, some fence)
            | none => (w.closeList, afterParagraph w.closeList.containers ((x ++ t).length + 1) (x ++ t), none) := by
  simp only [readBlock, ofLine_htmlBlock? h t, afterBreak?_append h, ofLine_beginsHeading h t, ofLine_fenceMark? h t,
    afterLine_append h]
  cases htmlBlock? x with
  | some limit => rfl
  | none => cases afterBreak? x <;> rfl

/-- One block, in the lines `x`. -/
theorem readBlock_cases (w : Walk) {indent : Nat} (hindent : indent < 4) (hx : EndsLine x) (hne : x ≠ []) :
    Stops (w.readBlock indent) x ∨ Passes (w.readBlock indent) x := by
  have hlong : ∀ t, x.length < (x ++ t).length + 1 := fun t => by rw [List.length_append]; omega
  unfold Stops Passes
  simp only [readBlock_append w indent _ (hx.mem hne)]
  cases hhtml : htmlBlock? x with
  | some limit =>
    refine (afterHtml_cases w.closeList.containers limit hx hne).imp (fun h => ?_) fun h t total ht => ?_
    · refine ⟨w.closeList, afterHtml w.closeList.containers limit (x.length + 1) x, none, afterHtml_suffix _ _ _ x,
        fun t total ht => ⟨none, ?_, rfl⟩⟩
      dsimp only
      rw [h t (x.length + 1) _ ht (Nat.lt_succ_self _) (hlong t)]
    · exact h t _ ht
  | none =>
    cases hbreak : afterBreak? x with
    | some rest => exact .inl ⟨w.closeList, rest, none, afterBreak?_suffix hbreak, fun t _ _ => ⟨none, rfl, rfl⟩⟩
    | none =>
      cases hheading : beginsHeading x with
      | true => exact .inl ⟨w.closeList, afterLine x, none, afterLine_suffix x, fun t _ _ => ⟨none, rfl, rfl⟩⟩
      | false =>
        cases hmark : fenceMark? x with
        | some mark =>
          rcases readFence_cases w.closeList hindent hx hne hmark with ⟨rest, content, hrest, h⟩ | h
          · refine .inl ⟨w.closeList, rest, some content, hrest, fun t total ht => ?_⟩
            obtain ⟨fence, hfence, hcontent⟩ := h t total ht
            refine ⟨some fence, ?_, congrArg some hcontent⟩
            simp only [hfence]
            rfl
          · exact .inr fun t total ht => h t total ht
        | none =>
          refine .inl ⟨w.closeList, afterParagraph w.closeList.containers (x.length + 1) x, none,
            afterParagraph_suffix _ _ x, fun t total ht => ⟨none, ?_, rfl⟩⟩
          simp only [Bool.false_eq_true, if_false]
          rw [afterParagraph_append _ (x.length + 1) _ hx hne ht (Nat.lt_succ_self _) (hlong t)]

/-- One step, with more text behind its first line. -/
theorem step_append (w : Walk) (total : Nat) (h : '\n' ∈ x) (t : Text) :
    w.step total (x ++ t) =
      match (w.opened x).2.2 <|> (afterBlankLine? (w.opened x).2.1.rest) with
      | some rest => (if (w.opened x).2.2.isSome then (w.opened x).1 else (w.opened x).1.seeBlank, rest ++ t, none)
      | none =>
        if ((w.opened x).2.1.advance 4).1 = 0 then
          let closed := (w.opened x).1.closeList
          let code := afterIndentedCode closed.containers ((x ++ t).length + 1)
            (((w.opened x).2.1.advance 4).2.rest ++ t) false
          ({ closed with isAfterBlank := code.1 }, code.2, none)
        else
          (w.opened x).1.readBlock (4 - ((w.opened x).2.1.advance 4).1) total
            (((w.opened x).2.1.advance 4).2.rest ++ t) := by
  obtain ⟨hopened, hmem⟩ := opened_append w h t
  have hblank : ((w.opened x).2.2.map (· ++ t) <|> afterBlankLine? ((w.opened x).2.1.rest ++ t)) =
      ((w.opened x).2.2 <|> afterBlankLine? (w.opened x).2.1.rest).map (· ++ t) := by
    rw [afterBlankLine?_append hmem]
    cases (w.opened x).2.2 <;> rfl
  rw [step_eq, hopened]
  simp only [Cursor.rest_append, hblank, Cursor.advance_append hmem, Option.isSome_map]
  cases (w.opened x).2.2 <|> afterBlankLine? (w.opened x).2.1.rest <;> rfl

/-- One step, in the lines `x`. -/
theorem step_cases (w : Walk) (hx : EndsLine x) (hne : x ≠ []) : Stops w.step x ∨ Passes w.step x := by
  have hmem := Cursor.mem_advance (opened_append w (hx.mem hne) []).2 4
  obtain ⟨hsuffix, hitem⟩ := opened_suffix w x
  unfold Stops Passes
  simp only [step_append w _ (hx.mem hne)]
  generalize w.opened x = opened at hmem hsuffix hitem
  obtain ⟨v, d, item⟩ := opened
  dsimp only at hmem hsuffix hitem ⊢
  have hrest := (Cursor.advance_suffix d 4).trans hsuffix
  have hline := hx.of_suffix hrest
  have hlength := hrest.length_le
  rcases hend : item <|> afterBlankLine? d.rest with _ | rest
  · by_cases hcode : (d.advance 4).1 = 0
    · simp only [hcode, if_true]
      have happend : ∀ t, BeginsFence t → _ := fun t ht =>
        afterIndentedCode_append v.closeList.containers (x.length + 1) ((x ++ t).length + 1) hline
          (List.ne_nil_of_mem hmem) ht (by omega) (by rw [List.length_append]; omega) false
      have hcodes := afterIndentedCode_suffix v.closeList.containers (x.length + 1) (d.advance 4).2.rest false
      generalize afterIndentedCode v.closeList.containers (x.length + 1) (d.advance 4).2.rest false = code
        at happend hcodes
      refine .inl ⟨{ v.closeList with isAfterBlank := code.1 }, code.2, none, hcodes.trans hrest,
        fun t total ht => ⟨none, ?_, rfl⟩⟩
      rw [happend t ht]
    · simp only [hcode, if_false]
      have hindent : 4 - (d.advance 4).1 < 4 := by omega
      refine (readBlock_cases v hindent hline (List.ne_nil_of_mem hmem)).imp ?_ fun h => h
      rintro ⟨u, rest, content, hr, h⟩
      exact ⟨u, rest, content, hr.trans hrest, h⟩
  · refine .inl ⟨if item.isSome then v else v.seeBlank, rest, none, ?_, fun t _ _ => ⟨none, rfl, rfl⟩⟩
    rcases item with _ | r
    · exact (afterBlankLine?_suffix hend).trans hsuffix
    · cases hend
      exact hitem rest rfl

end Walk

end DiagramProse.Markdown
