import DiagramProse.Proofs.Arrow.Search
import Mathlib.Algebra.Group.Nat.Even

/-!
Which arrow of a line is found, said without the search (`findWhere?_leftmostLongest`): of all places outside quotes
at which a token is admitted the leftmost one, and there the longest token, the last such one of the table. The
search goes from left to right with what it has passed and whether it is inside quotes; that no token is admitted
within what it has passed is carried along (`search_finds`).
-/

namespace DiagramProse.Arrow

open Text

variable {α : Type} {table : Table α} {accept : Text → Text → Bool} {line u : Text}

/-! ## Places of tokens -/

/-- The token stands in the line behind `u`, outside quotes, and may be read there: it is accepted for the text
behind it, and if it begins with a letter or digit there is none in front of it. -/
structure Admitted (accept : Text → Text → Bool) (line u token v : Text) : Prop where
  line_eq : line = u ++ (token ++ v)
  outside : Even (u.count '"')
  accepted : accept token v = true
  apart : token.head?.any isAlphanumeric = true → u.getLast?.any isAlphanumeric = false

/-- A token is admitted behind `u`, whatever stands behind it. -/
def AdmittedBehind (accept : Text → Text → Bool) (line u token : Text) : Prop :=
  ∃ v, Admitted accept line u token v

/-- What is found is the leftmost arrow of the line, and the longest one that begins there. -/
structure IsArrow (table : Table α) (accept : Text → Text → Bool) (line u v : Text) (found : Split α) : Prop where
  admitted : Admitted accept line u found.token v
  leftmost : ∀ e ∈ table, ∀ u', AdmittedBehind accept line u' e.1 → u.length ≤ u'.length
  longest : ∃ before after, table = before ++ (found.token, found.value) :: after ∧
    (∀ e ∈ before, AdmittedBehind accept line u e.1 → e.1.length ≤ found.token.length) ∧
    ∀ e ∈ after, AdmittedBehind accept line u e.1 → e.1.length < found.token.length
  left_eq : found.left = trim u
  right_eq : found.right = trim v

theorem admits_iff {before s token : Text} (houtside : Even (before.count '"')) :
    admits accept before.head? s token = true ↔ AdmittedBehind accept (before.reverse ++ s) before.reverse token := by
  rw [admits, Bool.and_eq_true, Bool.and_eq_true, List.isPrefixOf_iff_prefix]
  constructor
  · rintro ⟨⟨⟨v, rfl⟩, hapart⟩, haccept⟩
    rw [List.drop_left] at haccept
    refine ⟨v, rfl, by rwa [List.count_reverse], haccept, fun htoken => ?_⟩
    rw [List.getLast?_reverse]
    simpa [htoken] using hapart
  · rintro ⟨v, hline, -, haccept, hapart⟩
    obtain rfl : s = token ++ v := List.append_cancel_left hline
    rw [List.getLast?_reverse] at hapart
    refine ⟨⟨List.prefix_append token v, ?_⟩, by rwa [List.drop_left]⟩
    cases htoken : token.head?.any isAlphanumeric with
    | false => rfl
    | true => simp [hapart htoken]

/-- If no token is admitted in front of a place and none at it, then none is in front of the next one. -/
theorem leftmost_next {before s : Text} {c : Char}
    (hpassed : ∀ e ∈ table, ∀ u, AdmittedBehind accept (before.reverse ++ c :: s) u e.1 → before.length ≤ u.length)
    (hhere : ∀ e ∈ table, ¬ AdmittedBehind accept (before.reverse ++ c :: s) before.reverse e.1) :
    ∀ e ∈ table, ∀ u, AdmittedBehind accept ((c :: before).reverse ++ s) u e.1 → (c :: before).length ≤ u.length := by
  have hline : (c :: before).reverse ++ s = before.reverse ++ c :: s := by simp
  rw [hline]
  intro e he u hu
  refine Nat.lt_of_le_of_ne (hpassed e he u hu) fun hlength => hhere e he ?_
  obtain ⟨v, hv⟩ := hu
  obtain ⟨rfl, -⟩ := List.append_inj hv.line_eq (by simpa using hlength)
  exact ⟨v, hv⟩

/-! ## The last of the longest -/

theorem foldl_better_eq_some {entries : Table α} {best : Option (Text × α)} {e : Text × α}
    (h : entries.foldl better best = some e) :
    (best = some e ∧ ∀ x ∈ entries, x.1.length < e.1.length) ∨
      ∃ before after, entries = before ++ e :: after ∧ (∀ b ∈ best, b.1.length ≤ e.1.length) ∧
        (∀ x ∈ before, x.1.length ≤ e.1.length) ∧ ∀ x ∈ after, x.1.length < e.1.length := by
  induction entries generalizing best with
  | nil => exact .inl ⟨h, by simp⟩
  | cons x entries ih =>
    rcases ih h with ⟨hbest, hshorter⟩ | ⟨before, after, rfl, hbest, hbefore, hafter⟩
    · cases best with
      | none =>
        obtain rfl : x = e := Option.some.inj hbest
        exact .inr ⟨[], entries, rfl, by simp, by simp, hshorter⟩
      | some b =>
        rw [better] at hbest
        split at hbest
        · next hle =>
          obtain rfl : x = e := Option.some.inj hbest
          exact .inr ⟨[], entries, rfl, by simpa using hle, by simp, hshorter⟩
        · next hlt =>
          obtain rfl : b = e := Option.some.inj hbest
          exact .inl ⟨rfl, List.forall_mem_cons.2 ⟨by omega, hshorter⟩⟩
    · -- neither the best one so far nor `x` is longer than the one of both that was kept
      have hkept : x.1.length ≤ e.1.length ∧ ∀ b ∈ best, b.1.length ≤ e.1.length := by
        cases best with
        | none => exact ⟨hbest x rfl, by simp⟩
        | some b =>
          rw [better] at hbest
          split at hbest
          · next hle =>
            have hx := hbest x rfl
            exact ⟨hx, by simpa using hle.trans hx⟩
          · next hlt =>
            have hb := hbest b rfl
            exact ⟨by omega, by simpa using hb⟩
      exact .inr ⟨x :: before, after, rfl, hkept.2, List.forall_mem_cons.2 ⟨hkept.1, hbefore⟩, hafter⟩

theorem longest_eq_some_split {entries : Table α} {e : Text × α} (h : longest entries = some e) :
    ∃ before after, entries = before ++ e :: after ∧ (∀ x ∈ before, x.1.length ≤ e.1.length) ∧
      ∀ x ∈ after, x.1.length < e.1.length := by
  rcases foldl_better_eq_some h with ⟨hnone, -⟩ | ⟨before, after, hentries, -, hbefore, hafter⟩
  · cases hnone
  · exact ⟨before, after, hentries, hbefore, hafter⟩

/-- Of the entries with some property the last of the longest, told by the whole table. -/
theorem longest_filter_eq_some {p : Text × α → Bool} {e : Text × α} (h : longest (table.filter p) = some e) :
    p e = true ∧ ∃ before after, table = before ++ e :: after ∧
      (∀ x ∈ before, p x = true → x.1.length ≤ e.1.length) ∧ ∀ x ∈ after, p x = true → x.1.length < e.1.length := by
  refine ⟨(List.mem_filter.1 (mem_longest h)).2, ?_⟩
  obtain ⟨before, after, hfilter, hbefore, hafter⟩ := longest_eq_some_split h
  obtain ⟨front, rest, rfl, rfl, hrest⟩ := List.filter_eq_append_iff.1 hfilter
  obtain ⟨between, behind, rfl, hbetween, -, rfl⟩ := List.filter_eq_cons_iff.1 hrest
  refine ⟨front ++ between, behind, by simp, fun x hx hpx => ?_, fun x hx hpx => hafter x (List.mem_filter.2 ⟨hx, hpx⟩)⟩
  rcases List.mem_append.1 hx with hx | hx
  · exact hbefore x (List.mem_filter.2 ⟨hx, hpx⟩)
  · exact absurd hpx (hbetween x hx)

/-! ## The search -/

/-- What the outcome of a search says about the line. -/
def Finds (table : Table α) (accept : Text → Text → Bool) (line : Text) : Option (Split α) → Prop
  | none => ∀ e ∈ table, ∀ u, ¬ AdmittedBehind accept line u e.1
  | some found => ∃ u v, IsArrow table accept line u v found

/-- The search behind `before`, where no token is admitted in what it has passed. -/
theorem search_finds (htable : ∀ e ∈ table, e.1 ≠ [] ∧ '"' ∉ e.1) (s : Text) {quoted : Bool} {before : Text}
    (hquoted : quoted = true ↔ ¬ Even (before.count '"'))
    (hpassed : ∀ e ∈ table, ∀ u, AdmittedBehind accept (before.reverse ++ s) u e.1 → before.length ≤ u.length) :
    Finds table accept (before.reverse ++ s) (search table accept quoted before s) := by
  induction s generalizing quoted before with
  | nil =>
    rintro e he u ⟨v, hv⟩
    have hlength := congrArg List.length hv.line_eq
    have hle := hpassed e he u ⟨v, hv⟩
    have hpos := List.length_pos_iff.2 (htable e he).1
    simp only [List.length_append, List.length_reverse, List.length_nil] at hlength
    omega
  | cons c s ih =>
    have hline : (c :: before).reverse ++ s = before.reverse ++ c :: s := by simp
    -- where no token begins at `c`, the search goes on behind it
    have hnext : ∀ {quoted' : Bool}, (quoted' = true ↔ ¬ Even ((c :: before).count '"')) →
        (∀ e ∈ table, ¬ AdmittedBehind accept (before.reverse ++ c :: s) before.reverse e.1) →
        Finds table accept (before.reverse ++ c :: s) (search table accept quoted' (c :: before) s) :=
      fun hquoted' hhere => hline ▸ ih hquoted' (leftmost_next hpassed hhere)
    by_cases hc : c = '"'
    · subst hc
      rw [search, if_pos rfl]
      refine hnext ?_ ?_
      · rw [List.count_cons_self, Nat.even_add_one, ← hquoted]
        cases quoted <;> simp
      · rintro e he ⟨v, hv⟩
        obtain ⟨hne, hquote⟩ := htable e he
        obtain ⟨d, t, ht⟩ := List.exists_cons_of_ne_nil hne
        have hstart : '"' :: s = e.1 ++ v := List.append_cancel_left hv.line_eq
        rw [ht, List.cons_append] at hstart
        rw [ht, (List.cons.inj hstart).1] at hquote
        exact hquote List.mem_cons_self
    · have hcount : (c :: before).count '"' = before.count '"' := List.count_cons_of_ne hc
      cases quoted with
      | true =>
        rw [search, if_neg hc, if_pos rfl]
        refine hnext (by rwa [hcount]) ?_
        rintro e he ⟨v, hv⟩
        refine hquoted.1 rfl ?_
        rw [← List.count_reverse]
        exact hv.outside
      | false =>
        have houtside : Even (before.count '"') := by simpa using hquoted
        rw [search_cons hc]
        split
        · next token value hlongest =>
          obtain ⟨hadmits, before', after', htable', hbefore, hafter⟩ := longest_filter_eq_some hlongest
          obtain ⟨v, hv⟩ := (admits_iff houtside).1 hadmits
          have hrest : (c :: s).drop token.length = v := by
            rw [List.append_cancel_left hv.line_eq, List.drop_left]
          refine ⟨before.reverse, v, hv, fun e he u hu => ?_, ⟨before', after', htable', ?_, ?_⟩, rfl, ?_⟩
          · rw [List.length_reverse]
            exact hpassed e he u hu
          · exact fun e he hu => hbefore e he ((admits_iff houtside).2 hu)
          · exact fun e he hu => hafter e he ((admits_iff houtside).2 hu)
          · exact congrArg trim hrest
        · next hnone =>
          refine hnext (by rwa [hcount]) fun e he hu => ?_
          have hmem : e ∈ table.filter fun e => admits accept before.head? (c :: s) e.1 :=
            List.mem_filter.2 ⟨he, (admits_iff houtside).2 hu⟩
          have hsome := isSome_longest (List.ne_nil_of_mem hmem)
          rw [hnone] at hsome
          cases hsome

/-- No arrow is found just if no token of the table is admitted anywhere. What is found is the leftmost arrow, and the
longest one that begins there. -/
theorem findWhere?_leftmostLongest (htable : ∀ e ∈ table, e.1 ≠ [] ∧ '"' ∉ e.1) (line : Text)
    (accept : Text → Text → Bool) :
    (findWhere? line table accept = none ↔ ∀ e ∈ table, ∀ u v, ¬ Admitted accept line u e.1 v) ∧
      ∀ found, findWhere? line table accept = some found → ∃ u v, IsArrow table accept line u v found := by
  have houtside : false = true ↔ ¬ Even (List.count '"' []) := by simp
  have hfinds : Finds table accept line (findWhere? line table accept) := search_finds htable line houtside (by simp)
  refine ⟨⟨fun hnone => ?_, fun hnot => ?_⟩, fun found hfound => ?_⟩
  · rw [hnone] at hfinds
    exact fun e he u v hv => hfinds e he u ⟨v, hv⟩
  · cases hfound : findWhere? line table accept with
    | none => rfl
    | some found =>
      rw [hfound] at hfinds
      obtain ⟨u, v, harrow⟩ := hfinds
      obtain ⟨before, after, htable', -⟩ := harrow.longest
      have hmem : (found.token, found.value) ∈ table := htable' ▸ by simp
      exact absurd harrow.admitted (hnot _ hmem u v)
  · rw [hfound] at hfinds
    exact hfinds

/-- The arrow in quotes does not count, of the three that begin behind them the longest one does, and there is none in
a text in quotes. -/
theorem findWhere?_leftmostLongest_quoted :
    let table : Table Nat := [("--", 1), ("-->", 2), ("--|>", 3), ("o--", 4), ("<--", 5)]
    (∀ e ∈ table, e.1 ≠ [] ∧ '"' ∉ e.1) ∧
      (∃ u v, IsArrow table (fun _ _ => true) "Zoo \"x-->y\" --|> Bar" u v ⟨"Zoo \"x-->y\"", "Bar", "--|>", 3⟩) ∧
      ∀ e ∈ table, ∀ u v, ¬ Admitted (fun _ _ => true) "\"a -- b\"" u e.1 v := by
  intro table
  have htable : ∀ e ∈ table, e.1 ≠ [] ∧ '"' ∉ e.1 := by decide
  have harrow := findWhere?_leftmostLongest htable "Zoo \"x-->y\" --|> Bar" fun _ _ => true
  have hnone := findWhere?_leftmostLongest htable "\"a -- b\"" fun _ _ => true
  exact ⟨htable, harrow.2 _ (by decide +kernel), hnone.1.1 (by decide +kernel)⟩

end DiagramProse.Arrow
