import DiagramProse.Proofs.Markdown.LineHtml

/-!
Indentation, the marks of blocks and those of containers are told from their line, and so is what ends a
paragraph (`innerLine_append`, `InnerLine.interrupts_append`).
-/

namespace DiagramProse.Markdown

open Text

variable {s : Text}

/-! ## Columns -/

namespace Cursor

/-- The place with more text behind it. -/
def append (c : Cursor) (t : Text) : Cursor := { c with rest := c.rest ++ t }

@[simp] theorem rest_append (c : Cursor) (t : Text) : (c.append t).rest = c.rest ++ t := rfl

theorem atLineStart_append (s t : Text) : atLineStart (s ++ t) = (atLineStart s).append t := rfl

theorem takeColumns_append (n column : Nat) (h : '\n' ∈ s) (t : Text) :
    takeColumns n column (s ++ t) = ((takeColumns n column s).1, (takeColumns n column s).2.append t) ∧
      '\n' ∈ (takeColumns n column s).2.rest := by
  fun_induction takeColumns n column s with
  | case1 column s => exact ⟨by rw [takeColumns]; rfl, h⟩
  | case2 n column s ih => exact ih (mem_of_cons h (by decide))
  | case3 n column s width hw =>
    rw [List.cons_append, takeColumns, if_pos hw]
    exact ⟨rfl, mem_of_cons h (by decide)⟩
  | case4 n column s width hw ih =>
    rw [List.cons_append, takeColumns, if_neg hw]
    exact ih (mem_of_cons h (by decide))
  | case5 n column s hspace htab =>
    rcases s with _ | ⟨c, s⟩
    · cases h
    · refine ⟨?_, h⟩
      rw [List.cons_append, takeColumns]
      · rfl
      · rintro r hr
        cases hr
        exact hspace s rfl
      · rintro r hr
        cases hr
        exact htab s rfl

variable {c : Cursor}

theorem advance_append (h : '\n' ∈ c.rest) (n : Nat) (t : Text) :
    (c.append t).advance n = ((c.advance n).1, (c.advance n).2.append t) := by
  unfold advance
  show (if n ≤ c.pending then _ else takeColumns (n - c.pending) c.column (c.rest ++ t)) = _
  split
  · rfl
  · exact (takeColumns_append _ _ h t).1

theorem mem_advance (h : '\n' ∈ c.rest) (n : Nat) : '\n' ∈ (c.advance n).2.rest := by
  unfold advance
  split
  · exact h
  · exact (takeColumns_append _ _ h []).2

theorem take?_append (h : '\n' ∈ c.rest) (x : Char) (t : Text) :
    (c.append t).take? x = (c.take? x).map (·.append t) := by
  unfold take?
  rw [rest_append, ofLine_head? h]
  split
  · rcases hr : c.rest with _ | ⟨d, r⟩
    · rw [hr] at h; cases h
    · simp [skip, append, hr]
  · rfl

theorem mem_take? {d : Cursor} {x : Char} (h : '\n' ∈ c.rest) (hx : x ≠ '\n') (hd : c.take? x = some d) :
    '\n' ∈ d.rest := by
  unfold take? at hd
  split at hd
  · next hhead =>
    cases hd
    rcases hr : c.rest with _ | ⟨e, r⟩
    · rw [hr] at h; cases h
    · rw [hr] at h hhead
      cases hhead
      rw [skip, hr]
      exact mem_of_cons h hx
  · cases hd

theorem skipSpaces_append (h : '\n' ∈ c.rest) (t : Text) : (c.append t).skipSpaces = c.skipSpaces.append t := by
  have htake := ofLine_takeWhile (f := fun x => x == ' ' || x == '\t') rfl h t
  have hlength := (List.takeWhile_prefix (l := c.rest) fun x => x == ' ' || x == '\t').length_le
  simp only [skipSpaces, htake, append, List.drop_append_of_le_length hlength]

theorem mem_skipSpaces (h : '\n' ∈ c.rest) : '\n' ∈ c.skipSpaces.rest := by
  show '\n' ∈ c.rest.drop _
  rw [drop_takeWhile]
  exact mem_dropWhile h rfl

theorem isAtEnd_append (h : '\n' ∈ c.rest) (t : Text) : (c.append t).isAtEnd = c.isAtEnd := by
  rw [isAtEnd, isAtEnd, rest_append, ofLine_head? h]

end Cursor

/-! ## Marks -/

theorem afterBreak?_append (h : '\n' ∈ s) (t : Text) : afterBreak? (s ++ t) = (afterBreak? s).map (· ++ t) := by
  rcases s with _ | ⟨c, s⟩
  · cases h
  · have htake := ofLine_takeWhile (f := fun x => !isLineEnd x) rfl h t
    have hdrop := drop_takeWhile_append (f := fun x => !isLineEnd x) h rfl t
    have hmem := mem_dropWhile (f := fun x => !isLineEnd x) h rfl
    rw [List.cons_append] at htake hdrop ⊢
    simp only [afterBreak?, htake, hdrop, drop_takeWhile]
    split
    · exact afterLineEnd?_append hmem t
    · rfl

theorem ofLine_beginsHeading : OfLine beginsHeading := by
  intro s h t
  have htake := ofLine_takeWhile (f := (· == '#')) rfl h t
  have hdrop := drop_takeWhile_append (f := (· == '#')) h rfl t
  have hhead := ofLine_head? (mem_dropWhile (f := (· == '#')) h rfl) t
  simp only [beginsHeading, htake, hdrop, hhead, drop_takeWhile]

theorem afterUnderline?_append (h : '\n' ∈ s) (t : Text) :
    afterUnderline? (s ++ t) = (afterUnderline? s).map (· ++ t) := by
  rcases s with _ | ⟨c, s⟩
  · cases h
  · show (if c = '=' ∨ c = '-' then afterBlankLine? ((c :: s ++ t).dropWhile (· == c)) else none) =
      (if c = '=' ∨ c = '-' then afterBlankLine? ((c :: s).dropWhile (· == c)) else none).map (· ++ t)
    split
    · next hc =>
      have hne : ('\n' == c) = false := by rcases hc with rfl | rfl <;> rfl
      rw [dropWhile_append h hne]
      exact afterBlankLine?_append (mem_dropWhile h hne) t
    · rfl

theorem ofLine_fenceMark? : OfLine fenceMark? := by
  intro s h t
  rcases s with _ | ⟨c, s⟩
  · cases h
  · by_cases hc : c = '\n'
    · subst hc
      rfl
    · have hne : ('\n' == c) = false := by simpa using Ne.symm hc
      have htake := ofLine_takeWhile (f := (· == c)) hne h t
      have hdrop := drop_takeWhile_append (f := (· == c)) h hne t
      have hsplit := splitLineFeed_append_of_mem (mem_dropWhile (f := (· == c)) h hne) t
      rw [List.cons_append] at htake hdrop ⊢
      simp only [fenceMark?, htake, hdrop, hsplit, drop_takeWhile]

/-- A closing fence stops in front of the end of its line. -/
theorem onLine_afterClosingFence? {mark : FenceMark} (hmark : mark.mark ≠ '\n') :
    OnLine (afterClosingFence? mark) := by
  have hne : ('\n' == mark.mark) = false := by simpa using Ne.symm hmark
  constructor
  · intro s h t
    have hmem := mem_dropWhile (f := (· == mark.mark)) h hne
    have htake := ofLine_takeWhile (f := (· == mark.mark)) hne h t
    have hdrop := drop_takeWhile_append (f := (· == mark.mark)) h hne t
    have hspaces := dropWhile_append (f := (· == ' ')) hmem rfl t
    have hend := congrArg Option.isSome (afterLineEnd?_append (mem_dropWhile (f := (· == ' ')) hmem rfl) t)
    have hempty : (s ++ t).isEmpty = s.isEmpty := by
      cases s with
      | nil => cases h
      | cons c s => rfl
    simp only [afterClosingFence?, htake, hdrop, drop_takeWhile, hspaces, hend, hempty, Option.isSome_map]
    split <;> rfl
  · intro s h r hr
    simp only [afterClosingFence?, drop_takeWhile] at hr
    split at hr
    · cases hr
      exact mem_dropWhile (mem_dropWhile h hne) rfl
    · cases hr

theorem not_lineFeed_of_isBullet {c : Char} (h : isBullet c = true) : c ≠ '\n' := by
  rintro rfl
  cases h

theorem ofLine_listMarker? : OfLine listMarker? := by
  intro s h t
  rcases s with _ | ⟨c, s⟩
  · cases h
  · have htake := ofLine_takeWhile (f := Char.isDigit) rfl h t
    have hdrop := drop_takeWhile_append (f := Char.isDigit) h rfl t
    have hhead := ofLine_head? (mem_dropWhile (f := Char.isDigit) h rfl) t
    rw [List.cons_append] at htake hdrop ⊢
    simp only [listMarker?, htake, hdrop, hhead, drop_takeWhile]

/-- A marker stands in front of the end of the line. -/
theorem mem_drop_marker {marker : ListMarker} (h : '\n' ∈ s) (hm : listMarker? s = some marker) :
    '\n' ∈ s.drop marker.width := by
  rcases s with _ | ⟨c, s⟩
  · cases h
  · unfold listMarker? at hm
    dsimp only at hm
    split at hm
    · next hc =>
      cases hm
      exact mem_of_cons h (not_lineFeed_of_isBullet hc)
    · rw [drop_takeWhile] at hm
      have hmem := mem_dropWhile (f := Char.isDigit) h rfl
      rcases hd : (c :: s).dropWhile Char.isDigit with _ | ⟨d, r⟩
      · rw [hd] at hmem; cases hmem
      · rw [hd] at hm hmem
        dsimp only [List.head?_cons] at hm
        split at hm
        · cases hm
        · next hcond =>
          cases hm
          have hne : d ≠ '\n' := by
            rintro rfl
            simp at hcond
          show '\n' ∈ (c :: s).drop (((c :: s).takeWhile Char.isDigit).length + 1)
          rw [← List.drop_drop, drop_takeWhile, hd]
          exact mem_of_cons hmem hne

theorem length_marker {marker : ListMarker} (h : '\n' ∈ s) (hm : listMarker? s = some marker) :
    marker.width ≤ s.length := by
  have hne := List.ne_nil_of_mem (mem_drop_marker h hm)
  rw [Ne, List.drop_eq_nil_iff] at hne
  omega

theorem ofLine_endsMarker : OfLine endsMarker := by
  intro s h t
  rw [endsMarker, endsMarker, ofLine_head? h]

theorem ofLine_listInterrupts (inContainers : Bool) : OfLine (listInterrupts inContainers) := by
  intro s h t
  unfold listInterrupts
  rw [ofLine_listMarker? h]
  rcases hm : listMarker? s with _ | marker
  · rfl
  · have hmem := mem_drop_marker h hm
    have hends := ofLine_endsMarker hmem t
    have hblank := congrArg Option.isNone (afterBlankLine?_append hmem t)
    simp only [List.drop_append_of_le_length (length_marker h hm), hends, hblank, Option.isNone_map]

theorem ofLine_interruptsParagraph (inContainers : Bool) : OfLine (interruptsParagraph inContainers) := by
  intro s h t
  have hend := congrArg Option.isSome (afterLineEnd?_append h t)
  have hbreak := congrArg Option.isSome (afterBreak?_append h t)
  have hquote := ofLine_startsWith (p := ['>']) (by decide) h t
  simp only [Option.isSome_map] at hend hbreak
  simp only [interruptsParagraph, hend, hbreak, ofLine_beginsHeading h, ofLine_fenceMark? h, hquote,
    ofLine_listInterrupts inContainers h, ofLine_interruptingHtml? h]

/-! ## Containers -/

namespace Container

variable {c : Cursor}

theorem afterQuoteMark?_append (h : '\n' ∈ c.rest) (t : Text) :
    afterQuoteMark? (c.append t) = (afterQuoteMark? c).map (·.append t) := by
  unfold afterQuoteMark?
  rw [Cursor.take?_append h]
  rcases hd : c.take? '>' with _ | d
  · rfl
  · have hmem := Cursor.mem_take? h (by decide) hd
    simp only [Option.map_some, Cursor.advance_append hmem]
    split <;> rfl

theorem mem_afterQuoteMark? {d : Cursor} (h : '\n' ∈ c.rest) (hd : afterQuoteMark? c = some d) : '\n' ∈ d.rest := by
  unfold afterQuoteMark? at hd
  obtain ⟨e, he, rfl⟩ := Option.map_eq_some_iff.1 hd
  have hmem := Cursor.mem_take? h (by decide) he
  dsimp only
  split
  · exact Cursor.mem_advance hmem 1
  · exact hmem

theorem continued?_append (k : Container) (h : '\n' ∈ c.rest) (t : Text) :
    continued? (c.append t) k = (continued? c k).map (·.append t) := by
  cases k with
  | quote =>
    simp only [continued?, Cursor.advance_append h]
    exact afterQuoteMark?_append (Cursor.mem_advance h 3) t
  | list mark isTight => rfl
  | item indent =>
    simp only [continued?, Cursor.advance_append h, Cursor.isAtEnd_append (Cursor.mem_advance h indent)]
    split <;> rfl

theorem mem_continued? {d : Cursor} {k : Container} (h : '\n' ∈ c.rest) (hd : continued? c k = some d) :
    '\n' ∈ d.rest := by
  cases k with
  | quote => exact mem_afterQuoteMark? (Cursor.mem_advance h 3) hd
  | list mark isTight => cases hd; exact h
  | item indent =>
    simp only [continued?] at hd
    split at hd
    · cases hd
      exact Cursor.mem_advance h indent
    · cases hd

theorem follow_append (ks : List Container) (h : '\n' ∈ c.rest) (t : Text) :
    follow ks (c.append t) = ((follow ks c).1, (follow ks c).2.append t) ∧ '\n' ∈ (follow ks c).2.rest := by
  induction ks generalizing c with
  | nil => exact ⟨rfl, h⟩
  | cons k ks ih =>
    simp only [follow, continued?_append k h]
    rcases hd : continued? c k with _ | d
    · exact ⟨rfl, h⟩
    · obtain ⟨happend, hmem⟩ := ih (mem_continued? h hd)
      exact ⟨by simp only [Option.map_some, happend], hmem⟩

end Container

namespace InnerLine

/-- The line with more text behind it. -/
def append (line : InnerLine) (t : Text) : InnerLine := { line with contents := line.contents.append t }

end InnerLine

theorem innerLine_append (ks : List Container) (h : '\n' ∈ s) (t : Text) :
    innerLine ks (s ++ t) = (innerLine ks s).append t := by
  unfold innerLine
  rw [Cursor.atLineStart_append, (Container.follow_append (c := .atLineStart s) ks h t).1]
  rfl

theorem mem_innerLine (ks : List Container) (h : '\n' ∈ s) : '\n' ∈ (innerLine ks s).contents.rest :=
  (Container.follow_append (c := .atLineStart s) ks h []).2

namespace InnerLine

variable {line : InnerLine}

theorem isBlank_append (h : '\n' ∈ line.contents.rest) (t : Text) : (line.append t).isBlank = line.isBlank :=
  ofLine_afterBlankLine? h t

theorem afterSmallIndent?_append (h : '\n' ∈ line.contents.rest) (t : Text) :
    (line.append t).afterSmallIndent? = line.afterSmallIndent?.map (· ++ t) := by
  simp only [afterSmallIndent?, append, Cursor.advance_append h]
  split <;> rfl

theorem mem_afterSmallIndent? {r : Text} (h : '\n' ∈ line.contents.rest) (hr : line.afterSmallIndent? = some r) :
    '\n' ∈ r := by
  simp only [afterSmallIndent?] at hr
  split at hr
  · cases hr
  · cases hr
    exact Cursor.mem_advance h 4

theorem afterUnderline?_append (h : '\n' ∈ line.contents.rest) (t : Text) :
    (line.append t).afterUnderline? = line.afterUnderline?.map (· ++ t) := by
  unfold afterUnderline?
  rw [afterSmallIndent?_append h]
  show (if line.isInside then _ else none) = _
  split
  · rcases hr : line.afterSmallIndent? with _ | r
    · rfl
    · exact Markdown.afterUnderline?_append (mem_afterSmallIndent? h hr) t
  · rfl

theorem interrupts_append (h : '\n' ∈ line.contents.rest) (t : Text) :
    (line.append t).interrupts = line.interrupts := by
  unfold interrupts
  rw [afterSmallIndent?_append h]
  rcases hr : line.afterSmallIndent? with _ | r
  · rfl
  · exact ofLine_interruptsParagraph _ (mem_afterSmallIndent? h hr) t

end InnerLine

end DiagramProse.Markdown
