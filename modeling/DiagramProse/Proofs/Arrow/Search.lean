import DiagramProse.Arrow.Search
import DiagramProse.Proofs.Text.Cuts

/-!
The search for an arrow, for any table of tokens. It passes over text in which no token is admitted
(`Passes`) and over quoted text, takes the longest of the tokens that begin where one is admitted
(`search_token`), and misses no token outside quotes (`isSome_search`).
-/

namespace DiagramProse.Arrow

open Text

variable {α : Type} {table : Table α} {accept : Text → Text → Bool} {s t rest : Text} {c : Char}

/-! ## One place -/

theorem search_cons (hc : c ≠ '"') (before rest : Text) :
    search table accept false before (c :: rest) =
      match longest (table.filter fun e => admits accept before.head? (c :: rest) e.1) with
      | some (token, value) =>
        some ⟨trim before.reverse, trim ((c :: rest).drop token.length), token, value⟩
      | none => search table accept false (c :: before) rest := by
  rw [search, if_neg hc]
  exact if_neg Bool.false_ne_true

theorem search_skip (hc : c ≠ '"') (before : Text)
    (h : ∀ e ∈ table, admits accept before.head? (c :: rest) e.1 = false) :
    search table accept false before (c :: rest) = search table accept false (c :: before) rest := by
  have hnone : (table.filter fun e => admits accept before.head? (c :: rest) e.1) = [] :=
    List.filter_eq_nil_iff.2 fun e he => by rw [h e he]; exact Bool.false_ne_true
  rw [search_cons hc, hnone]
  rfl

theorem not_admits {previous : Option Char} {token : Text} (h : ¬ token <+: s) :
    admits accept previous s token = false := by
  have hprefix : token.isPrefixOf s = false := by
    rw [Bool.eq_false_iff, Ne, List.isPrefixOf_iff_prefix]
    exact h
  rw [admits, hprefix, Bool.false_and, Bool.false_and]

/-- No token begins with a letter or digit that stands behind another one. -/
theorem not_admits_within {previous : Option Char} {token : Text} (hprevious : previous.any isAlphanumeric = true)
    (hc : isAlphanumeric c = true) (hne : token ≠ []) : admits accept previous (c :: rest) token = false := by
  cases token with
  | nil => exact absurd rfl hne
  | cons d t =>
    by_cases hd : d = c
    · simp [admits, hd, hc, hprevious]
    · exact not_admits fun hprefix => hd (List.cons_prefix_cons.1 hprefix).1

/-- Where no token occurs, none is found, in quotes or outside. -/
theorem search_eq_none (h : ∀ e ∈ table, ¬ e.1 <:+: s) (quoted : Bool) (before : Text) :
    search table accept quoted before s = none := by
  induction s generalizing quoted before with
  | nil => rfl
  | cons c s ih =>
    have hrest : ∀ e ∈ table, ¬ e.1 <:+: s := fun e he hin => h e he (List.infix_cons hin)
    cases quoted with
    | true =>
      rw [search]
      split
      exacts [ih hrest _ _, ih hrest _ _]
    | false =>
      by_cases hc : c = '"'
      · rw [search, if_pos hc, ih hrest]
      · rw [search_skip hc before fun e he => not_admits fun hprefix => h e he hprefix.isInfix, ih hrest]

theorem find?_eq_none (h : ∀ e ∈ table, ¬ e.1 <:+: s) : find? s table = none := search_eq_none h false []

/-! ## Text that is passed over -/

/-- The search passes over `s` where `rest` follows. -/
def Passes (table : Table α) (accept : Text → Text → Bool) (s rest : Text) : Prop :=
  ∀ before, search table accept false before (s ++ rest) = search table accept false (s.reverse ++ before) rest

theorem passes_nil : Passes table accept [] rest := fun _ => rfl

theorem Passes.append (hs : Passes table accept s (t ++ rest)) (ht : Passes table accept t rest) :
    Passes table accept (s ++ t) rest := by
  intro before
  rw [List.append_assoc, hs, ht, List.reverse_append, List.append_assoc]

theorem passes_cons (hc : c ≠ '"')
    (h : ∀ previous, ∀ e ∈ table, admits accept previous (c :: (s ++ rest)) e.1 = false)
    (hs : Passes table accept s rest) : Passes table accept (c :: s) rest := by
  intro before
  rw [List.cons_append, search_skip hc before (h before.head?), hs, List.reverse_cons, List.append_assoc]
  rfl

/-- A text with none of whose characters a token begins. -/
theorem passes_of_heads (hs : '"' ∉ s) (h : ∀ c ∈ s, ∀ e ∈ table, e.1.head?.any (· != c) = true) :
    Passes table accept s rest := by
  induction s with
  | nil => exact passes_nil
  | cons c s ih =>
    rw [List.mem_cons, not_or] at hs
    refine passes_cons (Ne.symm hs.1) (fun previous e he => not_admits ?_)
      (ih hs.2 fun d hd => h d (List.mem_cons_of_mem c hd))
    rintro ⟨u, hu⟩
    have hhead := h c List.mem_cons_self e he
    rcases hte : e.1 with _ | ⟨d, token⟩
    · rw [hte] at hhead
      cases hhead
    · rw [hte, List.cons_append] at hu
      rw [hte, (List.cons.inj hu).1] at hhead
      simp at hhead

/-- In quotes all is passed over up to the next quote. -/
theorem search_inQuotes {m : Text} (h : '"' ∉ m) (before : Text) :
    search table accept true before (m ++ rest) = search table accept true (m.reverse ++ before) rest := by
  induction m generalizing before with
  | nil => rfl
  | cons c m ih =>
    rw [List.mem_cons, not_or] at h
    rw [List.cons_append, search, if_neg (Ne.symm h.1), if_pos rfl, ih h.2]
    simp

theorem passes_quoted {m : Text} (h : '"' ∉ m) : Passes table accept ('"' :: (m ++ ['"'])) rest := by
  intro before
  rw [List.cons_append, List.append_assoc, List.singleton_append, search, if_pos rfl, Bool.not_false,
    search_inQuotes h, search, if_pos rfl, Bool.not_true]
  simp

/-- Behind a quote that is not closed no arrow is found. -/
theorem passes_openQuote {m : Text} (h : '"' ∉ m) : Passes table accept ('"' :: m) [] := by
  intro before
  have hopen : search table accept false before ('"' :: m ++ []) = search table accept true ('"' :: before) (m ++ []) :=
    rfl
  rw [hopen, search_inQuotes h]
  rfl

/-! ## The longest of several tokens -/

/-- The entry to keep when another one is looked at. -/
def better (best : Option (Text × α)) (e : Text × α) : Option (Text × α) :=
  match best with
  | none => some e
  | some b => if b.1.length ≤ e.1.length then some e else some b

theorem longest_eq_foldl (entries : Table α) : longest entries = entries.foldl better none := rfl

theorem better_eq_new {best : Option (Text × α)} {e : Text × α} (h : ∀ b ∈ best, b.1.length ≤ e.1.length) :
    better best e = some e := by
  cases best with
  | none => rfl
  | some b => exact if_pos (h b rfl)

theorem better_cases (best : Option (Text × α)) (e : Text × α) :
    better best e = some e ∨ better best e = best := by
  cases best with
  | none => exact .inl rfl
  | some b =>
    rw [better]
    split
    exacts [.inl rfl, .inr rfl]

theorem foldl_better {entries : Table α} {e : Text × α} (h : ∀ x ∈ entries, x = e ∨ x.1.length < e.1.length)
    {best : Option (Text × α)}
    (hbest : (e ∈ entries ∧ ∀ b ∈ best, b = e ∨ b.1.length < e.1.length) ∨ best = some e) :
    entries.foldl better best = some e := by
  -- what was the best in front of `e` gives way to it, and nothing behind `e` takes its place
  have hle : ∀ b : Text × α, b = e ∨ b.1.length < e.1.length → b.1.length ≤ e.1.length := by
    rintro b (rfl | hlt) <;> omega
  induction entries generalizing best with
  | nil => simpa using hbest
  | cons x entries ih =>
    have hx := h x List.mem_cons_self
    refine ih (fun y hy => h y (List.mem_cons_of_mem x hy)) ?_
    rcases hbest with ⟨hm, hb⟩ | rfl
    · rcases List.mem_cons.1 hm with rfl | hm
      · exact .inr (better_eq_new fun b hmem => hle b (hb b hmem))
      · refine .inl ⟨hm, fun b hmem => ?_⟩
        rcases better_cases best x with hbx | hbx
        · rw [hbx] at hmem
          cases hmem
          exact hx
        · exact hb b (hbx ▸ hmem)
    · rcases hx with rfl | hlt
      · exact .inr (better_eq_new fun b hmem => by cases hmem; exact Nat.le_refl _)
      · exact .inr (if_neg (by omega))

theorem longest_eq_some {entries : Table α} {e : Text × α} (he : e ∈ entries)
    (h : ∀ x ∈ entries, x = e ∨ x.1.length < e.1.length) : longest entries = some e := by
  rw [longest_eq_foldl]
  exact foldl_better h (.inl ⟨he, by simp⟩)

theorem isSome_longest {entries : Table α} (h : entries ≠ []) : (longest entries).isSome := by
  have hfold : ∀ (entries : Table α) (b : Text × α), (entries.foldl better (some b)).isSome := by
    intro entries
    induction entries with
    | nil => exact fun _ => rfl
    | cons x entries ih =>
      intro b
      rw [List.foldl_cons]
      rcases better_cases (some b) x with hx | hx
      · rw [hx]; exact ih x
      · rw [hx]; exact ih b
  rw [longest_eq_foldl]
  cases entries with
  | nil => exact absurd rfl h
  | cons e entries => exact hfold entries e

theorem mem_longest {entries : Table α} {e : Text × α} (h : longest entries = some e) : e ∈ entries := by
  have hfold : ∀ (entries : Table α) (best : Option (Text × α)),
      entries.foldl better best = some e → e ∈ entries ∨ best = some e := by
    intro entries
    induction entries with
    | nil => exact fun _ => .inr
    | cons x entries ih =>
      intro best h
      rcases ih _ h with hm | hx
      · exact .inl (List.mem_cons_of_mem x hm)
      · rcases better_cases best x with hb | hb <;> rw [hb] at hx
        · cases hx
          exact .inl List.mem_cons_self
        · exact .inr hx
  rw [longest_eq_foldl] at h
  simpa using hfold entries none h

/-! ## Tokens that are found -/

/-- What is found stands in the text, between what is on its left and on its right. -/
theorem search_eq_some {quoted : Bool} {before : Text} {found : Split α}
    (h : search table accept quoted before s = some found) :
    ∃ u v, before.reverse ++ s = u ++ (found.token ++ v) ∧ found.left = trim u ∧ found.right = trim v ∧
      (found.token, found.value) ∈ table := by
  induction s generalizing quoted before with
  | nil => cases h
  | cons c s ih =>
    have hrest : ∀ {quoted}, search table accept quoted (c :: before) s = some found →
        ∃ u v, before.reverse ++ c :: s = u ++ (found.token ++ v) ∧ found.left = trim u ∧ found.right = trim v ∧
          (found.token, found.value) ∈ table := by
      intro quoted h
      simpa using ih h
    by_cases hc : c = '"'
    · rw [search, if_pos hc] at h
      exact hrest h
    · cases quoted with
      | true =>
        rw [search, if_neg hc, if_pos rfl] at h
        exact hrest h
      | false =>
        rw [search_cons hc] at h
        split at h
        · next token value hlongest =>
          cases h
          obtain ⟨hm, hadmits⟩ := List.mem_filter.1 (mem_longest hlongest)
          have hstart : token <+: c :: s := by
            simp only [admits, Bool.and_eq_true, List.isPrefixOf_iff_prefix] at hadmits
            exact hadmits.1.1
          obtain ⟨v, hv⟩ := hstart
          refine ⟨before.reverse, v, by rw [hv], rfl, ?_, hm⟩
          rw [← hv, List.drop_left]
        · exact hrest h

theorem find?_eq_some {found : Split α} (h : find? s table = some found) :
    ∃ u v, s = u ++ (found.token ++ v) ∧ found.left = trim u ∧ found.right = trim v ∧
      (found.token, found.value) ∈ table :=
  search_eq_some h

/-- A token that can stand behind anything: it begins neither with a letter or digit nor with a quote. -/
def isSign (token : Text) : Bool := token.head?.any fun c => c != '"' && !isAlphanumeric c

theorem isSign_cons {token : Text} (h : isSign token = true) :
    ∃ c t, token = c :: t ∧ c ≠ '"' ∧ isAlphanumeric c = false := by
  cases token with
  | nil => cases h
  | cons c t => exact ⟨c, t, rfl, by simpa [isSign] using h⟩

theorem admits_isSign {token : Text} (h : isSign token = true) (previous : Option Char) (rest : Text) :
    admits accept previous (token ++ rest) token = accept token rest := by
  obtain ⟨c, t, rfl, -, hc⟩ := isSign_cons h
  simp [admits, hc]

/-- A token that is admitted is found if the others that begin at its place are shorter. -/
theorem search_token {e : Text × α} {before : Text} (he : e ∈ table) (hquote : e.1.head?.any (· != '"') = true)
    (hadmits : admits accept before.head? (e.1 ++ rest) e.1 = true)
    (hothers : ∀ x ∈ table, x.1 <+: e.1 ++ rest → x = e ∨ x.1.length < e.1.length) :
    search table accept false before (e.1 ++ rest) = some ⟨trim before.reverse, trim rest, e.1, e.2⟩ := by
  have hlongest : longest (table.filter fun x => admits accept before.head? (e.1 ++ rest) x.1) = some e := by
    refine longest_eq_some (List.mem_filter.2 ⟨he, hadmits⟩) fun x hx => ?_
    obtain ⟨hx, hxadmits⟩ := List.mem_filter.1 hx
    refine hothers x hx ?_
    by_contra hprefix
    rw [not_admits hprefix] at hxadmits
    cases hxadmits
  obtain ⟨token, value⟩ := e
  cases token with
  | nil => cases hquote
  | cons c t =>
    rw [List.cons_append] at hlongest ⊢
    rw [search_cons (by simpa using hquote), hlongest]
    simp

/-- The arrow of a line is a token that is admitted behind text that is passed over. -/
theorem findWhere?_eq_some {left : Text} {e : Text × α} (hleft : Passes table accept left (e.1 ++ rest))
    (he : e ∈ table) (hquote : e.1.head?.any (· != '"') = true)
    (hadmits : admits accept left.getLast? (e.1 ++ rest) e.1 = true)
    (hothers : ∀ x ∈ table, x.1 <+: e.1 ++ rest → x = e ∨ x.1.length < e.1.length) :
    findWhere? (left ++ (e.1 ++ rest)) table accept = some ⟨trim left, trim rest, e.1, e.2⟩ := by
  have hadmits' : admits accept left.reverse.head? (e.1 ++ rest) e.1 = true := by rwa [List.head?_reverse]
  rw [findWhere?, hleft, List.append_nil, search_token he hquote hadmits' hothers, List.reverse_reverse]

/-- A sign is admitted wherever it is accepted. -/
theorem findWhere?_sign {left : Text} {e : Text × α} (hleft : Passes table accept left (e.1 ++ rest))
    (he : e ∈ table) (hsign : isSign e.1 = true) (haccept : accept e.1 rest = true)
    (hothers : ∀ x ∈ table, x.1 <+: e.1 ++ rest → x = e ∨ x.1.length < e.1.length) :
    findWhere? (left ++ (e.1 ++ rest)) table accept = some ⟨trim left, trim rest, e.1, e.2⟩ := by
  have hquote : e.1.head?.any (· != '"') = true := by
    obtain ⟨c, t, ht, hc, -⟩ := isSign_cons hsign
    simpa [ht] using hc
  exact findWhere?_eq_some hleft he hquote ((admits_isSign hsign _ _).trans haccept) hothers

theorem findWhere?_eq_none (h : Passes table accept s []) : findWhere? s table accept = none := by
  have := h []
  rwa [List.append_nil] at this

/-- What is known of the tokens that begin with another one: none of them goes on with `next`. -/
theorem shorter_of_next {e x : Text × α} {next : Char}
    (h : e.1 <+: x.1 → x = e ∨ (x.1.drop e.1.length).head?.any (· != next) = true)
    (hx : x.1 <+: e.1 ++ next :: rest) : x = e ∨ x.1.length < e.1.length := by
  rcases Nat.lt_or_ge x.1.length e.1.length with hlt | hge
  · exact .inr hlt
  · left
    have hprefix : e.1 <+: x.1 := List.prefix_of_prefix_length_le (List.prefix_append _ _) hx hge
    refine (h hprefix).resolve_right fun hnext => ?_
    obtain ⟨u, hu⟩ := hprefix
    rw [← hu, List.prefix_append_right_inj] at hx
    rw [← hu, List.drop_left] at hnext
    cases u with
    | nil => cases hnext
    | cons d u =>
      obtain ⟨rfl, -⟩ := List.cons_prefix_cons.1 hx
      simp at hnext

/-- A token that stands in a text stands in a longer one. -/
theorem admits_append {previous : Option Char} {token : Text} (h : admits (fun _ _ => true) previous s token = true)
    (t : Text) : admits (fun _ _ => true) previous (s ++ t) token = true := by
  simp only [admits, Bool.and_true, Bool.and_eq_true, List.isPrefixOf_iff_prefix] at h ⊢
  exact ⟨h.1.trans (List.prefix_append s t), h.2⟩

/-- Where no arrow is found, there is none in a beginning of the text. -/
theorem search_of_append {quoted : Bool} {before : Text}
    (h : search table (fun _ _ => true) quoted before (s ++ t) = none) :
    search table (fun _ _ => true) quoted before s = none := by
  induction s generalizing quoted before with
  | nil => rfl
  | cons c s ih =>
    rw [List.cons_append] at h
    by_cases hc : c = '"'
    · rw [search, if_pos hc] at h ⊢
      exact ih h
    · cases quoted with
      | true =>
        rw [search, if_neg hc, if_pos rfl] at h ⊢
        exact ih h
      | false =>
        rw [search_cons hc] at h
        split at h
        · cases h
        · next hnone =>
          have hfilter : (table.filter fun e => admits (fun _ _ => true) before.head? (c :: (s ++ t)) e.1) = [] := by
            by_contra hne
            have hsome := isSome_longest hne
            rw [hnone] at hsome
            cases hsome
          rw [search_skip hc before fun e he => ?_]
          · exact ih h
          · have hnot := List.filter_eq_nil_iff.1 hfilter e he
            exact Bool.eq_false_iff.2 fun hs => hnot (admits_append hs t)

theorem find?_of_append (h : find? (s ++ t) table = none) : find? s table = none := search_of_append h

/-- No token outside quotes is missed: there is an arrow, if perhaps another one. -/
theorem isSome_search {e : Text × α} (he : e ∈ table) (hsign : isSign e.1 = true) (hs : '"' ∉ s)
    (before rest : Text) :
    (search table (fun _ _ => true) false before (s ++ (e.1 ++ rest))).isSome := by
  induction s generalizing before with
  | nil =>
    have hne : (table.filter fun x => admits (fun _ _ => true) before.head? (e.1 ++ rest) x.1) ≠ [] :=
      List.ne_nil_of_mem (List.mem_filter.2 ⟨he, admits_isSign hsign before.head? rest⟩)
    obtain ⟨found, hfound⟩ := Option.isSome_iff_exists.1 (isSome_longest hne)
    obtain ⟨c, t, ht, hc, -⟩ := isSign_cons hsign
    rw [List.nil_append]
    rw [ht, List.cons_append] at hfound ⊢
    rw [search_cons hc, hfound]
    rfl
  | cons c s ih =>
    rw [List.mem_cons, not_or] at hs
    rw [List.cons_append, search_cons (Ne.symm hs.1)]
    split
    · rfl
    · exact ih hs.2 (c :: before)

end DiagramProse.Arrow
