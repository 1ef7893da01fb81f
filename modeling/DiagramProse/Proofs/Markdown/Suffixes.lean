import DiagramProse.Markdown.Fence
import Mathlib.Data.List.Basic
import Mathlib.Tactic.Common

/-!
What a reader of documents leaves is an end of the text that it was given (`<:+`). Places in a document
are told by how much text follows them, so this is what keeps them in order: no reader goes back.

The readers that go from line to line have fuel and give an empty text where it runs out, which is an end of
every text, so nothing has to be said of fuel here.
-/

namespace DiagramProse.Markdown

open Text

/-! ## Affixes and cuts -/

theorem dropPrefix?_suffix {s p r : Text} (h : dropPrefix? s p = some r) : r <:+ s :=
  ⟨p, (dropPrefix?_eq_some_iff.1 h).symm⟩

/-! ## Ends of lines -/

theorem afterLineEnd?_suffix {s r : Text} (h : afterLineEnd? s = some r) : r <:+ s := by
  unfold afterLineEnd? at h
  split at h
  · cases h
    exact List.suffix_rfl
  · cases h
    exact List.suffix_cons _ _
  · cases h
    exact List.suffix_append ['\r', '\n'] r
  · cases h
    exact List.suffix_cons _ _
  · cases h

theorem afterBlankLine?_suffix {s r : Text} (h : afterBlankLine? s = some r) : r <:+ s :=
  (afterLineEnd?_suffix h).trans (List.dropWhile_suffix _)

theorem afterLine_suffix (s : Text) : afterLine s <:+ s := by
  unfold afterLine
  rcases h : afterLineEnd? (s.dropWhile fun c => !isLineEnd c) with _ | r
  · exact List.nil_suffix
  · exact (afterLineEnd?_suffix h).trans (List.dropWhile_suffix _)

theorem splitLineFeed_suffix (s : Text) : (splitLineFeed s).2 <:+ s := ⟨_, splitLineFeed_append s⟩

/-! ## Columns -/

namespace Cursor

theorem takeColumns_suffix (n column : Nat) (s : Text) : (takeColumns n column s).2.rest <:+ s := by
  fun_induction takeColumns n column s with
  | case1 => exact List.suffix_rfl
  | case2 n column s ih => exact ih.trans (List.suffix_cons ' ' s)
  | case3 n column s => exact List.suffix_cons '\t' s
  | case4 n column s width _ ih => exact ih.trans (List.suffix_cons '\t' s)
  | case5 => exact List.suffix_rfl

theorem advance_suffix (c : Cursor) (n : Nat) : (c.advance n).2.rest <:+ c.rest := by
  unfold advance
  split
  · exact List.suffix_rfl
  · exact takeColumns_suffix _ _ _

theorem skip_suffix (c : Cursor) (n : Nat) : (c.skip n).rest <:+ c.rest := List.drop_suffix _ _

theorem take?_suffix {c d : Cursor} {x : Char} (h : c.take? x = some d) : d.rest <:+ c.rest := by
  unfold take? at h
  split at h
  · cases h
    exact skip_suffix c 1
  · cases h

theorem skipSpaces_suffix (c : Cursor) : c.skipSpaces.rest <:+ c.rest := List.drop_suffix _ _

end Cursor

/-! ## Containers -/

namespace Container

theorem afterQuoteMark?_suffix {c d : Cursor} (h : afterQuoteMark? c = some d) : d.rest <:+ c.rest := by
  unfold afterQuoteMark? at h
  obtain ⟨e, he, rfl⟩ := Option.map_eq_some_iff.1 h
  have hs := Cursor.take?_suffix he
  show (if (e.advance 1).1 = 0 then (e.advance 1).2 else e).rest <:+ c.rest
  split
  · exact (e.advance_suffix 1).trans hs
  · exact hs

theorem continued?_suffix {c d : Cursor} {k : Container} (h : continued? c k = some d) :
    d.rest <:+ c.rest := by
  cases k with
  | quote => exact (afterQuoteMark?_suffix h).trans (c.advance_suffix 3)
  | list mark isTight =>
    cases h
    exact List.suffix_rfl
  | item indent =>
    simp only [continued?] at h
    split at h
    · cases h
      exact c.advance_suffix indent
    · cases h

theorem follow_suffix (ks : List Container) (c : Cursor) : (follow ks c).2.rest <:+ c.rest := by
  induction ks generalizing c with
  | nil => exact List.suffix_rfl
  | cons k ks ih =>
    unfold follow
    split
    · exact List.suffix_rfl
    · next d hd => exact (ih d).trans (continued?_suffix hd)

end Container

theorem innerLine_suffix (ks : List Container) (s : Text) : (innerLine ks s).contents.rest <:+ s :=
  Container.follow_suffix ks (.atLineStart s)

theorem afterUnderline?_suffix {s r : Text} (h : afterUnderline? s = some r) : r <:+ s := by
  unfold afterUnderline? at h
  split at h
  · cases h
  · split at h
    · exact (afterBlankLine?_suffix h).trans (List.dropWhile_suffix _)
    · cases h

namespace InnerLine

theorem afterSmallIndent?_suffix {line : InnerLine} {r : Text} (h : line.afterSmallIndent? = some r) :
    r <:+ line.contents.rest := by
  simp only [afterSmallIndent?] at h
  split at h
  · cases h
  · cases h
    exact line.contents.advance_suffix 4

theorem afterUnderline?_suffix {line : InnerLine} {r : Text} (h : line.afterUnderline? = some r) :
    r <:+ line.contents.rest := by
  unfold afterUnderline? at h
  split at h
  · obtain ⟨t, ht, hr⟩ := Option.bind_eq_some_iff.1 h
    exact (Markdown.afterUnderline?_suffix hr).trans (afterSmallIndent?_suffix ht)
  · cases h

end InnerLine

/-! ## Marks -/

theorem afterBreak?_suffix {s r : Text} (h : afterBreak? s = some r) : r <:+ s := by
  unfold afterBreak? at h
  split at h
  · cases h
  · simp only at h
    split at h
    · exact (afterLineEnd?_suffix h).trans (List.drop_suffix _ _)
    · cases h

theorem afterClosingFence?_suffix {f : FenceMark} {s r : Text} (h : afterClosingFence? f s = some r) :
    r <:+ s := by
  simp only [afterClosingFence?] at h
  split at h
  · cases h
    exact (List.dropWhile_suffix _).trans (List.drop_suffix _ _)
  · cases h

/-! ## Definitions of link targets -/

variable {ks : List Container} {s r : Text}

theorem continuedLine?_suffix (h : continuedLine? ks s = some r) : r <:+ s := by
  simp only [continuedLine?] at h
  split at h
  · cases h
  · cases h
    exact innerLine_suffix ks s

theorem afterSpace?_suffix {b : Bool} (h : afterSpace? ks s = some (b, r)) : r <:+ s := by
  have hs : s.dropWhile isGap <:+ s := List.dropWhile_suffix _
  simp only [afterSpace?] at h
  split at h
  · cases h
    exact hs
  · next next hnext =>
    obtain ⟨t, ht, h⟩ := Option.bind_eq_some_iff.1 h
    split at h
    · cases h
    · cases h
      exact (((List.dropWhile_suffix _).trans (continuedLine?_suffix ht)).trans
        (afterLineEnd?_suffix hnext)).trans hs

theorem afterLabel?_suffix {fuel size : Nat} {isBlank : Bool}
    (h : afterLabel? ks fuel size isBlank s = some r) : r <:+ s := by
  induction fuel generalizing size isBlank s with
  | zero => cases h
  | succ fuel ih =>
    unfold afterLabel? at h
    split at h
    · cases h
    · split at h
      · cases h
      · cases h
      · split at h
        · cases h
        · cases h
          exact List.suffix_cons _ _
      · next c rest => exact (ih h).trans (List.suffix_append ['\\', c] rest)
      · split at h
        · obtain ⟨⟨b, t⟩, ht, h⟩ := Option.bind_eq_some_iff.1 h
          exact (ih h).trans (afterSpace?_suffix ht)
        · exact (ih h).trans (List.suffix_cons _ _)

theorem afterBracketed?_suffix (h : afterBracketed? s = some r) : r <:+ s := by
  fun_induction afterBracketed? s with
  | case1 => cases h
  | case2 rest =>
    cases h
    exact List.suffix_cons _ _
  | case3 c rest _ ih => exact (ih h).trans (List.suffix_append ['\\', c] rest)
  | case4 c rest _ ih => exact (ih h).trans (List.suffix_cons '\\' (c :: rest))
  | case5 => cases h
  | case6 c rest _ _ _ ih => exact (ih h).trans (List.suffix_cons c rest)

theorem afterBare?_suffix {depth : Nat} (h : afterBare? depth s = some r) : r <:+ s := by
  fun_induction afterBare? depth s with
  | case2 | case6 | case7 => cases h
  | case1 | case5 | case9 =>
    cases h
    exact List.suffix_rfl
  | case3 depth c rest _ ih => exact (ih h).trans (List.suffix_append ['\\', c] rest)
  | case4 depth c rest _ ih => exact (ih h).trans (List.suffix_cons '\\' (c :: rest))
  | case8 depth rest _ _ _ ih => exact (ih h).trans (List.suffix_cons _ _)
  | case10 depth rest _ _ _ _ ih => exact (ih h).trans (List.suffix_cons _ _)
  | case11 depth c rest _ _ _ _ ih => exact (ih h).trans (List.suffix_cons _ _)

theorem afterDestination?_suffix (h : afterDestination? s = some r) : r <:+ s := by
  unfold afterDestination? at h
  split at h
  · exact (afterBracketed?_suffix h).trans (List.suffix_cons _ _)
  · exact afterBare?_suffix (Option.filter_eq_some_iff.1 h).1

theorem afterTitleMark?_suffix {closing : Char} {fuel : Nat}
    (h : afterTitleMark? ks closing fuel s = some r) : r <:+ s := by
  induction fuel generalizing s with
  | zero => cases h
  | succ fuel ih =>
    unfold afterTitleMark? at h
    split at h
    · cases h
    · next c rest =>
      split at h
      · cases h
        exact List.suffix_cons c r
      · split at h
        · cases h
        · split at h
          · -- the title goes on in the next line
            obtain ⟨t, ht, h⟩ := Option.bind_eq_some_iff.1 h
            split at h
            · cases h
            · have hline := (continuedLine?_suffix ht).trans (afterLine_suffix (c :: rest))
              exact ((ih h).trans (Cursor.skipSpaces_suffix (.atLineStart t))).trans hline
          · split at h
            · split at h
              · exact (ih h).trans (List.suffix_cons _ _)
              · exact (ih h).trans (List.suffix_append ['\\', _] _)
            · exact (ih h).trans (List.suffix_cons c rest)

theorem afterTitle?_suffix (h : afterTitle? ks s = some r) : r <:+ s := by
  simp only [afterTitle?] at h
  have h := (Option.filter_eq_some_iff.1 h).1
  split at h
  · exact (afterTitleMark?_suffix h).trans (List.suffix_cons _ _)
  · exact (afterTitleMark?_suffix h).trans (List.suffix_cons _ _)
  · exact (afterTitleMark?_suffix h).trans (List.suffix_cons _ _)
  · cases h

/-- A definition has at least the bracket that opens its label. -/
theorem afterReference?_cases (h : afterReference? ks s = some r) : ∃ label, s = '[' :: label ∧ r <:+ label := by
  unfold afterReference? at h
  obtain ⟨label, hlabel, h⟩ := Option.bind_eq_some_iff.1 h
  obtain ⟨colon, hcolon, h⟩ := Option.bind_eq_some_iff.1 h
  obtain ⟨target, htarget, h⟩ := Option.bind_eq_some_iff.1 h
  obtain ⟨⟨b, destination⟩, hdestination, h⟩ := Option.bind_eq_some_iff.1 h
  obtain ⟨after, hafter, h⟩ := Option.bind_eq_some_iff.1 h
  refine ⟨label, dropPrefix?_eq_some_iff.1 hlabel, ?_⟩
  have htarget' : target <:+ label := (dropPrefix?_suffix htarget).trans (afterLabel?_suffix hcolon)
  have hs : after <:+ label :=
    ((afterDestination?_suffix hafter).trans (afterSpace?_suffix hdestination)).trans htarget'
  split at h
  · cases h
    exact hs
  · next isNewLine title htitle =>
    have ht := (afterSpace?_suffix htitle).trans hs
    split at h
    · cases h
    · rcases hread : afterTitle? ks title with _ | rest
      · rw [hread] at h
        change (if isNewLine = true then some after else none) = some r at h
        split at h
        · cases h
          exact hs
        · cases h
      · rw [hread] at h
        cases h
        exact (afterTitle?_suffix hread).trans ht

theorem afterReference?_suffix (h : afterReference? ks s = some r) : r <:+ s := by
  obtain ⟨label, rfl, hr⟩ := afterReference?_cases h
  exact hr.trans (List.suffix_cons _ _)

/-! ## Blocks that are no fences -/

theorem afterProse_suffix (ks : List Container) (fuel : Nat) (s : Text) : afterProse ks fuel s <:+ s := by
  induction fuel generalizing s with
  | zero => exact List.nil_suffix
  | succ fuel ih =>
    have hnext := afterLine_suffix s
    have hline := (innerLine_suffix ks (afterLine s)).trans hnext
    simp only [afterProse]
    split
    · next rest hrest => exact (InnerLine.afterUnderline?_suffix hrest).trans hline
    · split
      · exact hnext
      · exact ((ih _).trans (Cursor.skipSpaces_suffix _)).trans hline

theorem afterParagraph_suffix (ks : List Container) (fuel : Nat) (s : Text) :
    afterParagraph ks fuel s <:+ s := by
  induction fuel generalizing s with
  | zero => exact List.nil_suffix
  | succ fuel ih =>
    simp only [afterParagraph]
    split
    · exact afterProse_suffix ks _ s
    · next after hafter =>
      have hs := afterReference?_suffix hafter
      split
      · exact hs
      · next next hnext =>
        have hn := (afterBlankLine?_suffix hnext).trans hs
        split
        · exact hn
        · exact (((ih _).trans (Cursor.skipSpaces_suffix _)).trans (innerLine_suffix ks next)).trans hn

theorem afterIndentedCode_suffix (ks : List Container) (fuel : Nat) (s : Text) (blank : Bool) :
    (afterIndentedCode ks fuel s blank).2 <:+ s := by
  induction fuel generalizing s blank with
  | zero => exact List.nil_suffix
  | succ fuel ih =>
    have hnext := splitLineFeed_suffix s
    simp only [afterIndentedCode]
    split
    · exact hnext
    · exact (((ih _ _).trans (Cursor.advance_suffix _ 4)).trans (innerLine_suffix ks _)).trans hnext

theorem afterHtml_suffix (ks : List Container) (limit : HtmlEnd) (fuel : Nat) (s : Text) :
    afterHtml ks limit fuel s <:+ s := by
  induction fuel generalizing s with
  | zero => exact List.nil_suffix
  | succ fuel ih =>
    have hnext := splitLineFeed_suffix s
    simp only [afterHtml]
    refine iteInduction (motive := (· <:+ s)) (fun _ => hnext) fun _ => ?_
    exact ((ih _).trans (innerLine_suffix ks _)).trans hnext

end DiagramProse.Markdown
