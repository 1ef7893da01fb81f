import DiagramProse.Proofs.Kind.Places
import Mathlib.Data.List.Infix

/-!
Comments and the kind of a source. The tests that look at the lines of a source leave comments out; those that
search its text do not. A comment is `Unobtrusive` where no search comes upon it, and there the kind is the same
with it and without it (`detect_insert_comment`). Elsewhere it need not be (`detect_comment_state`).
-/

namespace DiagramProse

open Text

variable {before comment after : Text} {f g : Text → Bool}

/-! ## Lines -/

theorem lines_insert (hline : '\n' ∉ comment) (before after : Text) :
    lines (before ++ '\n' :: (comment ++ '\n' :: after)) =
      (splitBy (· == '\n') before).map dropCarriageReturn ++ dropCarriageReturn comment :: lines after := by
  rw [lines_append, lines_cons hline]

theorem tellingLines_insert (hline : '\n' ∉ comment) (hcomment : isComment comment.trim = true) :
    tellingLines (before ++ '\n' :: (comment ++ '\n' :: after)) = tellingLines (before ++ '\n' :: after) := by
  rw [tellingLines, lines_insert hline, tellingLines, lines_append]
  simp [trim_dropCarriageReturn, hcomment]

/-- A comment does not tell anything, neither within front matter nor outside. -/
theorem firstTellingLine_insert {line : Text} (hcomment : isComment line.trim = true) (ls ms : List Text)
    (inside : Bool) : firstTellingLine inside (ls ++ line :: ms) = firstTellingLine inside (ls ++ ms) := by
  induction ls generalizing inside with
  | nil => exact firstTellingLine_skip (.inr hcomment) inside ms
  | cons l ls ih => simp only [List.cons_append, firstTellingLine, ih]

theorem firstLine?_insert (hline : '\n' ∉ comment) (hcomment : isComment comment.trim = true) :
    firstLine? (before ++ '\n' :: (comment ++ '\n' :: after)) = firstLine? (before ++ '\n' :: after) := by
  rw [firstLine?, lines_insert hline, firstLine?, lines_append,
    firstTellingLine_insert (by rwa [trim_dropCarriageReturn])]

/-! ## What a search can come upon -/

/-- What is sought anywhere in a source, in lower case. -/
def signs : List Text := "@start" :: "[*]" :: c4Markers

/-- What is a sign of a kind with a parenthesis behind it: an arrow, and the name of a C4 element. -/
def openers : List Text := "->" :: c4ElementWords.flatMap fun word => c4ElementForms.map (word ++ ·)

/-- Each `mark` in the text has a character with property `f` behind it. -/
def Closed (mark : Char) (f : Char → Bool) (s : Text) : Prop :=
  ∀ u ∈ s.tails, u.head? = some mark → u.any f = true

instance (mark : Char) (f : Char → Bool) (s : Text) : Decidable (Closed mark f s) :=
  inferInstanceAs (Decidable (∀ u ∈ s.tails, u.head? = some mark → u.any f = true))

/-- What a text in square brackets must not hold. -/
def endsSquare (c : Char) : Bool := c == ']' || c == '*'

/-- A comment between two parts of a source that no search for a sign comes upon. -/
structure Unobtrusive (before comment after : Text) : Prop where
  /-- It has none of the texts that are sought anywhere in the source. -/
  sign : ∀ sign ∈ signs, comment.lowerAscii.contains sign = false
  /-- No arrow in it leads to a parenthesis, be it on the next line. -/
  arrow : ∀ u ∈ comment.tails, ∀ r ∈ dropPrefix? u "->", (r ++ '\n' :: after).trimStart.head? ≠ some '('
  /-- If it holds a closing parenthesis, each one that is opened in front of it is closed there. -/
  round : ')' ∈ comment → Closed '(' (· == ')') before
  /-- If it holds what closes or spoils a square bracket, each one in front of it is closed or spoiled there. -/
  square : comment.any endsSquare = true → Closed '[' endsSquare before
  /-- It does not stand between an opener and its parenthesis. -/
  between : after.trimStart.head? = some '(' → ∀ p ∈ openers, before.trimEnd.endsWith p = false

instance (before comment after : Text) : Decidable (Unobtrusive before comment after) :=
  decidable_of_iff
    ((∀ sign ∈ signs, comment.lowerAscii.contains sign = false) ∧
      (∀ u ∈ comment.tails, ∀ r ∈ dropPrefix? u "->", (r ++ '\n' :: after).trimStart.head? ≠ some '(') ∧
      (')' ∈ comment → Closed '(' (· == ')') before) ∧
      (comment.any endsSquare = true → Closed '[' endsSquare before) ∧
      (after.trimStart.head? = some '(' → ∀ p ∈ openers, before.trimEnd.endsWith p = false))
    ⟨fun h => ⟨h.1, h.2.1, h.2.2.1, h.2.2.2.1, h.2.2.2.2⟩,
      fun h => ⟨h.sign, h.arrow, h.round, h.square, h.between⟩⟩

/-- A test that finds the same at each place in front of the comment. -/
def Keeps (before comment after : Text) (f : Text → Bool) : Prop :=
  ∀ w, w ≠ [] → w <:+ before → f (w ++ '\n' :: (comment ++ '\n' :: after)) = f (w ++ '\n' :: after)

theorem Keeps.or (hf : Keeps before comment after f) (hg : Keeps before comment after g) :
    Keeps before comment after fun s => f s || g s := by
  intro w hne hw
  dsimp only
  rw [hf w hne hw, hg w hne hw]

/-! ### Places -/

/-- The marks that comments begin with. -/
def commentMarks : Text := "'%/"

theorem trimStart_comment (hcomment : isComment comment.trim = true) (t : Text) :
    ∃ c ∈ commentMarks, ∃ s, trimStart (comment ++ t) = c :: s := by
  have hmark : ∃ c ∈ commentMarks, ∃ s, comment.trim = c :: s := by
    rw [isComment, startsWithAny, List.any_eq_true] at hcomment
    obtain ⟨p, hp, hstart⟩ := hcomment
    rw [startsWith, List.isPrefixOf_iff_prefix] at hstart
    obtain ⟨r, hr⟩ := hstart
    simp only [List.mem_cons, List.not_mem_nil, or_false] at hp
    rcases hp with rfl | rfl | rfl
    exacts [⟨_, by decide +kernel, r, hr.symm⟩, ⟨_, by decide +kernel, '%' :: r, hr.symm⟩,
      ⟨_, by decide +kernel, '/' :: r, hr.symm⟩]
  obtain ⟨c, hc, s, hs⟩ := hmark
  obtain ⟨r, hr⟩ : comment.trim <+: comment.trimStart := dropEndWhile_prefix isBlank _
  have hblank : comment.allBlank = false := by
    by_contra h
    rw [Bool.not_eq_false, ← trimStart_eq_nil_iff] at h
    rw [hs, h] at hr
    cases hr
  exact ⟨c, hc, s ++ r ++ t, by rw [trimStart_append_of_not_blank hblank, ← hr, hs]; simp⟩

theorem any_lineBeginnings_insert (hline : '\n' ∉ comment) (hskip : f (trimStart (comment ++ '\n' :: after)) = false)
    (hkeep : Keeps before comment after f) :
    (lineBeginnings (before ++ '\n' :: (comment ++ '\n' :: after))).any f =
      (lineBeginnings (before ++ '\n' :: after)).any f := by
  have hrest : (lineBeginnings (comment ++ '\n' :: after)).any f = (lineBeginnings after).any f := by
    rw [lineBeginnings_append, afterLineFeeds_eq_nil hline, List.map_singleton, List.singleton_append, List.any_cons,
      hskip, Bool.false_or]
  rw [lineBeginnings_append before, lineBeginnings_append before, List.any_append, List.any_append, hrest]
  cases hafter : (lineBeginnings after).any f with
  | true => rw [Bool.or_true, Bool.or_true]
  | false =>
    have hfirst : f (trimStart after) = false := by
      rw [lineBeginnings, List.map_cons, List.any_cons, Bool.or_eq_false_iff] at hafter
      exact hafter.1
    rw [Bool.or_false, Bool.or_false, List.any_map, List.any_map]
    refine any_congr_of_mem fun u hu => ?_
    have hsuffix : u <:+ before := by
      rcases List.mem_cons.1 hu with rfl | hu
      · exact List.suffix_rfl
      · obtain ⟨a, rfl⟩ := mem_afterLineFeeds.1 hu
        exact (List.suffix_cons '\n' u).trans (List.suffix_append a _)
    dsimp only [Function.comp]
    -- A blank end of the text in front leaves the next line to the test, which is the comment or what is behind it.
    cases hblank : u.allBlank with
    | true =>
      rw [trimStart_append_of_blank hblank, trimStart_append_of_blank hblank]
      exact hskip.trans hfirst.symm
    | false =>
      rw [trimStart_append_of_not_blank hblank, trimStart_append_of_not_blank hblank]
      exact hkeep _ (trimStart_ne_nil hblank) ((List.dropWhile_suffix isBlank).trans hsuffix)

theorem anySuffix_insert (hfeed : ∀ t, f ('\n' :: t) = false)
    (hskip : ∀ w, w ≠ [] → w <:+ comment → f (w ++ '\n' :: after) = false) (hkeep : Keeps before comment after f) :
    anySuffix f (before ++ '\n' :: (comment ++ '\n' :: after)) = anySuffix f (before ++ '\n' :: after) := by
  refine anySuffix_append_congr hkeep ?_
  rw [anySuffix, hfeed, Bool.false_or, anySuffix_append_of_forall hskip]

/-! ### Parentheses and brackets -/

theorem beginsRound_of_head {s : Text} (h : s.head? ≠ some '(') : beginsRound s = false := by
  rw [beginsRound, dropPrefix?_of_head h]
  rfl

theorem beginsRound_append {v : Text} (h : ')' ∈ v) (t : Text) :
    beginsRound ('(' :: v ++ t) = beginsRound ('(' :: v) := by
  have hsome : (cutAt? (· == ')') v).isSome = true := by
    rw [isSome_cutAt?, List.any_eq_true]
    exact ⟨_, h, beq_self_eq_true _⟩
  obtain ⟨⟨a, b⟩, hab⟩ := Option.isSome_iff_exists.1 hsome
  simp [beginsRound, dropPrefix?, cutAt?_append_text, hab]

/-- A parenthesis that is open at the end of a line is closed by any behind it. -/
theorem beginsRound_open {v : Text} (h : ')' ∉ v) (t : Text) :
    beginsRound ('(' :: v ++ '\n' :: t) = t.any (· == ')') := by
  have hsome := isSome_cutAt? (· == ')') t
  have hnone := cutAt?_char_eq_none h
  cases hc : cutAt? (· == ')') t <;> rw [hc] at hsome <;>
    simp [beginsRound, dropPrefix?, cutAt?_append_text, hnone, cutAt?, hc, ← hsome]

theorem Unobtrusive.keeps_beginsRound (h : Unobtrusive before comment after) :
    Keeps before comment after beginsRound := by
  rintro (_ | ⟨c, v⟩) hne hw
  · exact absurd rfl hne
  by_cases hc : c = '('
  · subst hc
    by_cases hv : ')' ∈ v
    · rw [beginsRound_append hv, beginsRound_append hv]
    · have hcomment : ')' ∉ comment := by
        intro hm
        have := h.round hm _ ((List.mem_tails _ _).2 hw) rfl
        simp [hv] at this
      rw [beginsRound_open hv, beginsRound_open hv]
      simp [hcomment]
  · rw [beginsRound_of_head (by simpa using hc), beginsRound_of_head (by simpa using hc)]

theorem beginsSquare_of_head {s : Text} (h : s.head? ≠ some '[') : beginsSquare s = false := by
  rw [beginsSquare, dropPrefix?_of_head h]
  rfl

/-- What stands between square brackets ends at the first character that must not be there. -/
theorem beginsSquare_cons (v : Text) : beginsSquare ('[' :: v) =
    (!(v.takeWhile (!endsSquare ·)).isEmpty && startsWith (v.dropWhile (!endsSquare ·)) [']']) := by
  have hends : (fun c => c != ']' && c != '*') = (!endsSquare ·) := by
    funext c
    simp [endsSquare, bne]
  simp [beginsSquare, dropPrefix?, hends, drop_takeWhile]

theorem beginsSquare_append {v : Text} (h : v.any endsSquare = true) (t : Text) :
    beginsSquare ('[' :: v ++ t) = beginsSquare ('[' :: v) := by
  have hsplit := List.takeWhile_append_dropWhile (p := (!endsSquare ·)) (l := v)
  rw [List.cons_append, beginsSquare_cons, beginsSquare_cons, List.takeWhile_append, List.dropWhile_append]
  cases hd : v.dropWhile (!endsSquare ·) with
  | nil =>
    rw [List.dropWhile_eq_nil_iff] at hd
    obtain ⟨c, hc, hends⟩ := List.any_eq_true.1 h
    have := hd c hc
    rw [hends] at this
    cases this
  | cons c b =>
    have hlength : (v.takeWhile (!endsSquare ·)).length ≠ v.length := by
      intro he
      have := congrArg List.length hsplit
      rw [hd, List.length_append, List.length_cons] at this
      omega
    rw [if_neg hlength]
    rfl

/-- A bracket that is open at the end of a line is closed or spoiled by the first character behind it that must not
be there. -/
theorem beginsSquare_open {v : Text} (h : v.any endsSquare = false) (t : Text) :
    beginsSquare ('[' :: v ++ '\n' :: t) = startsWith (t.dropWhile (!endsSquare ·)) [']'] := by
  have hv : ∀ c ∈ v, (!endsSquare c) = true := fun c hc => by simpa using List.any_eq_false.1 h c hc
  rw [List.cons_append, beginsSquare_cons, List.takeWhile_append_of_pos hv, List.dropWhile_append_of_pos hv]
  have hempty : (v ++ ('\n' :: t).takeWhile (!endsSquare ·)).isEmpty = false := by
    rw [List.isEmpty_eq_false_iff]
    exact List.append_ne_nil_of_right_ne_nil v (by rw [List.takeWhile_cons]; simp [endsSquare])
  rw [hempty]
  rfl

theorem Unobtrusive.keeps_beginsSquare (h : Unobtrusive before comment after) :
    Keeps before comment after beginsSquare := by
  rintro (_ | ⟨c, v⟩) hne hw
  · exact absurd rfl hne
  by_cases hc : c = '['
  · subst hc
    cases hv : v.any endsSquare with
    | true => rw [beginsSquare_append hv, beginsSquare_append hv]
    | false =>
      have hcomment : ∀ c ∈ comment, (!endsSquare c) = true := by
        intro c hm
        by_contra hends
        have := h.square (List.any_eq_true.2 ⟨c, hm, by simpa using hends⟩) _ ((List.mem_tails _ _).2 hw) rfl
        rw [List.any_cons, hv] at this
        cases this
      rw [beginsSquare_open hv, beginsSquare_open hv, List.dropWhile_append_of_pos hcomment]
      rfl
  · rw [beginsSquare_of_head (by simpa using hc), beginsSquare_of_head (by simpa using hc)]

/-! ### Arrows and names of elements -/

/-- Where an opener stands in front of the comment, a test for what begins with a parenthesis finds the same behind
its blanks. -/
theorem Unobtrusive.behind_opener (h : Unobtrusive before comment after) (hcomment : isComment comment.trim = true)
    (hf : ∀ s : Text, s.head? ≠ some '(' → f s = false) (hkeep : Keeps before comment after f) {p r : Text}
    (hp : p ∈ openers) (hr : p ++ r <:+ before) :
    f (trimStart (r ++ '\n' :: (comment ++ '\n' :: after))) = f (trimStart (r ++ '\n' :: after)) := by
  cases hblank : r.allBlank with
  | false =>
    rw [trimStart_append_of_not_blank hblank, trimStart_append_of_not_blank hblank]
    exact hkeep _ (trimStart_ne_nil hblank)
      ((List.dropWhile_suffix isBlank).trans ((List.suffix_append p r).trans hr))
  | true =>
    have hends : before.trimEnd.endsWith p = true := by
      obtain ⟨a, rfl⟩ := hr
      have hlast : ∀ p ∈ openers, p ≠ [] ∧ ∀ c ∈ p.getLast?, isBlank c = false := by decide +kernel
      obtain ⟨hne, hlast⟩ := hlast p hp
      rw [← List.append_assoc, trimEnd_append_of_blank (by rwa [List.getLast?_append_of_ne_nil _ hne]) hblank, endsWith,
        List.isSuffixOf_iff_suffix]
      exact List.suffix_append a p
    have hafter : after.trimStart.head? ≠ some '(' := by
      intro hround
      rw [h.between hround p hp] at hends
      cases hends
    obtain ⟨c, hc, s, hs⟩ := trimStart_comment hcomment ('\n' :: after)
    have hmark : ∀ c ∈ commentMarks, c ≠ '(' := by decide +kernel
    rw [trimStart_append_of_blank hblank, trimStart_append_of_blank hblank]
    change f (trimStart (comment ++ '\n' :: after)) = f (trimStart after)
    rw [hs, hf _ (by simpa using hmark c hc), hf _ hafter]

theorem startsWith_round_of_head {s : Text} (h : s.head? ≠ some '(') : s.startsWith ['('] = false := by
  rw [startsWith_eq_isSome, dropPrefix?_of_head h, Option.isSome_none]

theorem Unobtrusive.keeps_beginsC4Element (h : Unobtrusive before comment after)
    (hcomment : isComment comment.trim = true) : Keeps before comment after beginsC4Element := by
  have hwords : ∀ word ∈ c4ElementWords, '\n' ∉ word := by decide +kernel
  have hforms : ∀ form ∈ c4ElementForms, '\n' ∉ form := by decide +kernel
  have hround : Keeps before comment after fun s => s.startsWith ['('] := by
    rintro (_ | ⟨c, v⟩) hne _
    exacts [absurd rfl hne, rfl]
  intro w _ hw
  refine any_congr_of_mem fun word hword => ?_
  rw [dropPrefix?_append_cons (hwords word hword), dropPrefix?_append_cons (hwords word hword)]
  cases hrest : dropPrefix? w word with
  | none => rfl
  | some rest =>
    rw [Option.map_some, Option.map_some, Option.any_some, Option.any_some]
    refine any_congr_of_mem fun form hform => ?_
    rw [dropPrefix?_append_cons (hforms form hform), dropPrefix?_append_cons (hforms form hform)]
    cases hr : dropPrefix? rest form with
    | none => rfl
    | some r =>
      have hw' : w = (word ++ form) ++ r := by
        rw [dropPrefix?_eq_some_iff.1 hrest, dropPrefix?_eq_some_iff.1 hr, List.append_assoc]
      have hopener : word ++ form ∈ openers :=
        List.mem_cons_of_mem _ (List.mem_flatMap.2 ⟨word, hword, List.mem_map_of_mem hform⟩)
      exact h.behind_opener hcomment (fun _ => startsWith_round_of_head) hround hopener (hw' ▸ hw)

/-- Whether a text begins with an arrow that leads to something in parentheses. -/
def beginsArrow (s : Text) : Bool := (dropPrefix? s "->").any fun rest => beginsRound rest.trimStart

theorem beginsArrow_append (s t : Text) : beginsArrow (s ++ '\n' :: t) =
    (dropPrefix? s "->").any fun r => beginsRound (trimStart (r ++ '\n' :: t)) := by
  rw [beginsArrow, dropPrefix?_append_cons (by decide +kernel), Option.any_map]

theorem Unobtrusive.keeps_beginsArrow (h : Unobtrusive before comment after)
    (hcomment : isComment comment.trim = true) : Keeps before comment after beginsArrow := by
  intro w _ hw
  rw [beginsArrow_append, beginsArrow_append]
  cases hr : dropPrefix? w "->" with
  | none => rfl
  | some r =>
    have hw' := dropPrefix?_eq_some_iff.1 hr
    exact h.behind_opener hcomment (fun _ => beginsRound_of_head) h.keeps_beginsRound List.mem_cons_self (hw' ▸ hw)

theorem Unobtrusive.beginsArrow_comment (h : Unobtrusive before comment after) {w : Text} (hw : w <:+ comment) :
    beginsArrow (w ++ '\n' :: after) = false := by
  rw [beginsArrow_append]
  cases hr : dropPrefix? w "->" with
  | none => rfl
  | some r => exact beginsRound_of_head (h.arrow w ((List.mem_tails _ _).2 hw) r hr)

/-- A word with a blank behind it, which may be the end of the line. -/
theorem keeps_word {p : Text} (hp : '\n' ∉ p) :
    Keeps before comment after fun s => ((dropPrefix? s p).bind afterBlanks?).isSome := by
  intro w _ _
  dsimp only
  rw [dropPrefix?_append_cons hp, dropPrefix?_append_cons hp]
  cases dropPrefix? w p with
  | none => rfl
  | some r =>
    rw [Option.map_some, Option.bind_some, isSome_afterBlanks?_append_lineFeed, Option.map_some, Option.bind_some,
      isSome_afterBlanks?_append_lineFeed]

/-! ## The searches -/

/-- A test that no text with the mark of a comment in front passes is not passed where a comment begins. -/
theorem skips_comment (hcomment : isComment comment.trim = true) (hquote : ∀ s, f (Char.ofNat 39 :: s) = false)
    (hpercent : ∀ s, f ('%' :: s) = false) (hslash : ∀ s, f ('/' :: s) = false) (t : Text) :
    f (trimStart (comment ++ t)) = false := by
  obtain ⟨c, hc, s, hs⟩ := trimStart_comment hcomment t
  have hc : c = Char.ofNat 39 ∨ c = '%' ∨ c = '/' := by simpa [commentMarks] using hc
  rw [hs]
  rcases hc with rfl | rfl | rfl
  exacts [hquote s, hpercent s, hslash s]

theorem Unobtrusive.contains_insert (h : Unobtrusive before comment after) {sign : Text} (hsign : sign ∈ signs) :
    (lowerAscii (before ++ '\n' :: (comment ++ '\n' :: after))).contains sign =
      (lowerAscii (before ++ '\n' :: after)).contains sign := by
  have hsigns : ∀ sign ∈ signs, sign ≠ [] ∧ '\n' ∉ sign := by decide +kernel
  obtain ⟨hne, hfeed⟩ := hsigns sign hsign
  simp only [lowerAscii_append_lineFeed, contains_append_cons hne hfeed, h.sign sign hsign, Bool.false_or]

theorem Unobtrusive.looksLikeC4_insert (h : Unobtrusive before comment after) (hline : '\n' ∉ comment)
    (hcomment : isComment comment.trim = true) :
    looksLikeC4 (before ++ '\n' :: (comment ++ '\n' :: after))
        (lowerAscii (before ++ '\n' :: (comment ++ '\n' :: after))) =
      looksLikeC4 (before ++ '\n' :: after) (lowerAscii (before ++ '\n' :: after)) := by
  have hmarkers : ∀ marker ∈ c4Markers, marker ∈ signs :=
    fun _ hm => List.mem_cons_of_mem _ (List.mem_cons_of_mem _ hm)
  have hskip := skips_comment (f := beginsC4Element) hcomment (fun _ => rfl) (fun _ => rfl) fun _ => rfl
  rw [looksLikeC4, looksLikeC4, any_congr_of_mem fun marker hm => h.contains_insert (hmarkers marker hm),
    firstLine?_insert hline hcomment, any_lineBeginnings_insert hline (hskip _) (h.keeps_beginsC4Element hcomment)]

theorem Unobtrusive.looksLikeUseCase_insert (h : Unobtrusive before comment after) (hline : '\n' ∉ comment)
    (hcomment : isComment comment.trim = true) :
    looksLikeUseCase (before ++ '\n' :: (comment ++ '\n' :: after)) = looksLikeUseCase (before ++ '\n' :: after) := by
  have hkeep := (keeps_word (p := "usecase") (by decide +kernel)).or h.keeps_beginsRound
  have hskip := skips_comment (f := fun s => ((dropPrefix? s "usecase").bind afterBlanks?).isSome || beginsRound s)
    hcomment (fun _ => rfl) (fun _ => rfl) fun _ => rfl
  have harrow := anySuffix_insert (fun _ => rfl) (fun w _ hw => h.beginsArrow_comment hw) (h.keeps_beginsArrow hcomment)
  rw [looksLikeUseCase, looksLikeUseCase, any_lineBeginnings_insert hline (hskip _) hkeep]
  exact congrArg _ harrow

theorem Unobtrusive.looksLikeComponent_insert (h : Unobtrusive before comment after) (hline : '\n' ∉ comment)
    (hcomment : isComment comment.trim = true) :
    looksLikeComponent (before ++ '\n' :: (comment ++ '\n' :: after)) =
      looksLikeComponent (before ++ '\n' :: after) := by
  have hkeep := (keeps_word (p := "component") (by decide +kernel)).or h.keeps_beginsSquare
  have hskip := skips_comment (f := fun s => ((dropPrefix? s "component").bind afterBlanks?).isSome || beginsSquare s)
    hcomment (fun _ => rfl) (fun _ => rfl) fun _ => rfl
  exact any_lineBeginnings_insert hline (hskip _) hkeep

/-- The first start marker is in the first text if that has any. -/
theorem kindOfMarker?_append (s t : Text) :
    kindOfMarker? (s ++ '\n' :: t) = if s.contains "@start" then kindOfMarker? s else kindOfMarker? t := by
  have hcut := cut?_append_cons (d := '\n') (p := "@start") (by decide +kernel) (by decide +kernel) s t
  rw [kindOfMarker?, hcut, contains, kindOfMarker?, kindOfMarker?]
  cases cut? "@start" s with
  | some ab =>
    simp only [Option.bind_eq_bind, Option.bind_some, takeWhile_append_lineFeed (f := Char.isAlphanum) rfl,
      Option.isSome_some, if_true]
  | none =>
    rw [Option.isSome_none, if_neg Bool.false_ne_true]
    cases cut? "@start" t <;> rfl

theorem Unobtrusive.kindOfMarker?_insert (h : Unobtrusive before comment after) :
    kindOfMarker? (lowerAscii (before ++ '\n' :: (comment ++ '\n' :: after))) =
      kindOfMarker? (lowerAscii (before ++ '\n' :: after)) := by
  have hcomment := h.sign "@start" List.mem_cons_self
  simp only [lowerAscii_append_lineFeed, kindOfMarker?_append, hcomment, Bool.false_eq_true, if_false]

/-! ## The kind -/

theorem Unobtrusive.kindOfLines_insert (h : Unobtrusive before comment after) (hline : '\n' ∉ comment)
    (hcomment : isComment comment.trim = true) :
    kindOfLines (before ++ '\n' :: (comment ++ '\n' :: after))
        (lowerAscii (before ++ '\n' :: (comment ++ '\n' :: after))) =
      kindOfLines (before ++ '\n' :: after) (lowerAscii (before ++ '\n' :: after)) := by
  have hmem : ("[*]" : Text) ∈ signs := List.mem_cons_of_mem _ List.mem_cons_self
  rw [kindOfLines, kindOfLines, tellingLines_insert hline hcomment, h.contains_insert hmem,
    h.looksLikeUseCase_insert hline hcomment, h.looksLikeComponent_insert hline hcomment]

/-- A comment between two lines of a source makes no difference to its kind if a hint names the kind, or no search
for a sign comes upon the comment. -/
theorem detect_insert_comment {hint : Option Text} (hline : '\n' ∉ comment) (hcomment : isComment comment.trim = true)
    (h : hint.bind DiagramKind.ofHint? = none → Unobtrusive before comment after) (dialect : Dialect) :
    DiagramKind.detect (before ++ '\n' :: (comment ++ '\n' :: after)) hint (some dialect) =
      DiagramKind.detect (before ++ '\n' :: after) hint (some dialect) := by
  rw [DiagramKind.detect, DiagramKind.detect]
  cases hnamed : hint.bind DiagramKind.ofHint? with
  | some kind => rfl
  | none =>
    have h := h hnamed
    have hheader : kindOfHeader? (before ++ '\n' :: (comment ++ '\n' :: after)) =
        kindOfHeader? (before ++ '\n' :: after) := by
      rw [kindOfHeader?, firstLine?_insert hline hcomment, kindOfHeader?]
    rw [Option.getD_some, Option.getD_some, kindOfSource, kindOfSource, h.looksLikeC4_insert hline hcomment, hheader,
      h.kindOfMarker?_insert, h.kindOfLines_insert hline hcomment]

theorem detect_insert_comment_useCase :
    '\n' ∉ (" ' pays (by card) -> done" : Text) ∧ isComment (trim " ' pays (by card) -> done") = true
      ∧ Unobtrusive "@startuml\nactor User" " ' pays (by card) -> done" "(Pay) --> User\n@enduml"
      ∧ DiagramKind.detect "@startuml\nactor User\n ' pays (by card) -> done\n(Pay) --> User\n@enduml" none
          (some .plantUml)
        = DiagramKind.detect "@startuml\nactor User\n(Pay) --> User\n@enduml" none (some .plantUml) :=
  have hline : '\n' ∉ (" ' pays (by card) -> done" : Text) := by decide +kernel
  have hcomment : isComment (trim " ' pays (by card) -> done") = true := by decide +kernel
  have h : Unobtrusive "@startuml\nactor User" " ' pays (by card) -> done" "(Pay) --> User\n@enduml" := by
    decide +kernel
  ⟨hline, hcomment, h, detect_insert_comment hline hcomment (fun _ => h) .plantUml⟩

/-- A comment can hold what is sought in the text. -/
theorem detect_comment_state : ¬ ∀ (before comment after : Text) (hint : Option Text) (dialect : Dialect),
    '\n' ∉ comment → isComment comment.trim = true →
    DiagramKind.detect (before ++ '\n' :: (comment ++ '\n' :: after)) hint (some dialect) =
      DiagramKind.detect (before ++ '\n' :: after) hint (some dialect) := by
  intro h
  have hsame := h "class A" "' see [*]" "class B" none .plantUml (by decide +kernel) (by decide +kernel)
  exact absurd hsame (by decide +kernel)

end DiagramProse
