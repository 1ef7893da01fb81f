import DiagramProse.Proofs.Markdown.Suffixes
import DiagramProse.Proofs.Text.Beginnings
import DiagramProse.Proofs.Text.Trimming

/-!
Readers that stay on one line. Where the end of the line is known, they read the same whatever text follows
it, so that it can be left out or replaced.

All lemmas are about a text `s` with a line feed in it and a text `t` behind it. A reader that does not go
beyond the line finds the same in `s ++ t` as in `s`, with `t` behind what it leaves; one that stops in front
of the line's end (`OnLine`) leaves a text that has a line feed again.
-/

namespace DiagramProse.Markdown

open Text

variable {s : Text} {f : Char → Bool}

/-- A reader that neither takes nor looks behind the end of the line. -/
structure OnLine (read : Text → Option Text) : Prop where
  append : ∀ {s : Text}, '\n' ∈ s → ∀ t, read (s ++ t) = (read s).map (· ++ t)
  mem : ∀ {s : Text}, '\n' ∈ s → ∀ r, read s = some r → '\n' ∈ r

/-- A test that does not look behind the end of the line. -/
def OfLine {α : Type} (test : Text → α) : Prop := ∀ {s : Text}, '\n' ∈ s → ∀ t, test (s ++ t) = test s

theorem OnLine.of_exists {read : Text → Option Text}
    (h : ∀ s, '\n' ∈ s → ∃ o : Option Text, (∀ t, read (s ++ t) = o.map (· ++ t)) ∧ ∀ r ∈ o, '\n' ∈ r) :
    OnLine read := by
  have hself : ∀ {s : Text} {o : Option Text}, (∀ t, read (s ++ t) = o.map (· ++ t)) → read s = o := by
    intro s o ho
    simpa using ho []
  constructor
  · intro s hs t
    obtain ⟨o, ho, -⟩ := h s hs
    rw [ho t, hself ho]
  · intro s hs r hr
    obtain ⟨o, ho, hmem⟩ := h s hs
    exact hmem r (hself ho ▸ hr)

theorem OnLine.bind {read next : Text → Option Text} (h : OnLine read) (hn : OnLine next) :
    OnLine fun s => (read s).bind next := by
  constructor
  · intro s hs t
    rw [h.append hs]
    cases hr : read s with
    | none => rfl
    | some r => exact hn.append (h.mem hs r hr) t
  · intro s hs r hr
    obtain ⟨u, hu, hr⟩ := Option.bind_eq_some_iff.1 hr
    exact hn.mem (h.mem hs u hu) r hr

theorem OnLine.isSome {read : Text → Option Text} (h : OnLine read) : OfLine fun s => (read s).isSome := by
  intro s hs t
  dsimp only
  rw [h.append hs, Option.isSome_map]

/-! ## Parts of texts -/

theorem mem_of_cons {c : Char} (h : '\n' ∈ c :: s) (hc : c ≠ '\n') : '\n' ∈ s := by
  rcases List.mem_cons.1 h with he | hs
  · exact absurd he.symm hc
  · exact hs

theorem ofLine_head? : OfLine List.head? := by
  rintro (_ | ⟨c, s⟩) h t
  · cases h
  · rfl

theorem mem_dropWhile (h : '\n' ∈ s) (hf : f '\n' = false) : '\n' ∈ s.dropWhile f := by
  induction s with
  | nil => cases h
  | cons c s ih =>
    rw [List.dropWhile_cons]
    split
    · next hc =>
      have hne : c ≠ '\n' := by rintro rfl; rw [hf] at hc; cases hc
      exact ih (mem_of_cons h hne)
    · exact h

theorem dropWhile_append (h : '\n' ∈ s) (hf : f '\n' = false) (t : Text) :
    (s ++ t).dropWhile f = s.dropWhile f ++ t := by
  rw [List.dropWhile_append, if_neg]
  rw [List.isEmpty_iff]
  exact List.ne_nil_of_mem (mem_dropWhile h hf)

theorem onLine_dropWhile (hf : f '\n' = false) : OnLine fun s => some (s.dropWhile f) := by
  constructor
  · intro s hs t
    rw [dropWhile_append hs hf]
    rfl
  · rintro s hs r ⟨⟩
    exact mem_dropWhile hs hf

theorem ofLine_takeWhile (hf : f '\n' = false) : OfLine (List.takeWhile f) := by
  intro s h t
  induction s with
  | nil => cases h
  | cons c s ih =>
    rw [List.cons_append, List.takeWhile_cons, List.takeWhile_cons]
    split
    · next hc =>
      have hne : c ≠ '\n' := by rintro rfl; rw [hf] at hc; cases hc
      rw [ih (mem_of_cons h hne)]
    · rfl

theorem drop_takeWhile_append (h : '\n' ∈ s) (hf : f '\n' = false) (t : Text) :
    (s ++ t).drop (s.takeWhile f).length = s.dropWhile f ++ t := by
  rw [← ofLine_takeWhile hf h t, drop_takeWhile, dropWhile_append h hf]

/-- A prefix without a line feed is on the line. -/
theorem onLine_dropPrefix? {p : Text} (hp : '\n' ∉ p) : OnLine fun s => dropPrefix? s p := by
  have hcons : ∀ {c : Char} {s p : Text}, '\n' ∈ c :: s → '\n' ∉ c :: p → '\n' ∈ s ∧ '\n' ∉ p := by
    intro c s p hs hp
    refine ⟨mem_of_cons hs ?_, fun hm => hp (List.mem_cons_of_mem _ hm)⟩
    rintro rfl
    exact hp List.mem_cons_self
  constructor
  · intro s hs t
    induction p generalizing s with
    | nil => rw [dropPrefix?, dropPrefix?]; rfl
    | cons d p ih =>
      cases s with
      | nil => cases hs
      | cons c s =>
        rw [List.cons_append, dropPrefix?, dropPrefix?]
        split
        · next hc =>
          subst hc
          obtain ⟨hs, hp⟩ := hcons hs hp
          exact ih hp hs
        · rfl
  · intro s hs r hr
    have hsplit := dropPrefix?_eq_some_iff.1 hr
    rw [hsplit] at hs
    exact (List.mem_append.1 hs).resolve_left hp

theorem ofLine_startsWith {p : Text} (hp : '\n' ∉ p) : OfLine fun s => startsWith s p := by
  intro s hs t
  dsimp only
  rw [startsWith_eq_isSome, startsWith_eq_isSome]
  exact (onLine_dropPrefix? hp).isSome hs t

/-! ## Ends of lines -/

theorem afterLineEnd?_append (h : '\n' ∈ s) (t : Text) :
    afterLineEnd? (s ++ t) = (afterLineEnd? s).map (· ++ t) := by
  rcases s with _ | ⟨c, _ | ⟨d, s⟩⟩
  · cases h
  · obtain rfl : '\n' = c := by simpa using h
    rfl
  · by_cases hc : c = '\n'
    · subst hc; rfl
    · by_cases hr : c = '\r'
      · subst hr
        by_cases hd : d = '\n'
        · subst hd; rfl
        · simp [afterLineEnd?, hd]
      · simp [afterLineEnd?, hc, hr]

theorem afterBlankLine?_append (h : '\n' ∈ s) (t : Text) :
    afterBlankLine? (s ++ t) = (afterBlankLine? s).map (· ++ t) := by
  unfold afterBlankLine?
  rw [dropWhile_append h rfl, afterLineEnd?_append (mem_dropWhile h rfl)]

theorem ofLine_afterBlankLine? : OfLine fun s => (afterBlankLine? s).isSome := by
  intro s h t
  dsimp only
  rw [afterBlankLine?_append h, Option.isSome_map]

/-- What stops at the end of a line stands there. -/
theorem afterLineEnd?_dropWhile (h : '\n' ∈ s) : (afterLineEnd? (s.dropWhile fun c => !isLineEnd c)).isSome := by
  have hmem := mem_dropWhile (f := fun c => !isLineEnd c) h rfl
  have hhead := List.head?_dropWhile_not (fun c => !isLineEnd c) s
  rcases hd : s.dropWhile fun c => !isLineEnd c with _ | ⟨c, r⟩
  · rfl
  · rw [hd] at hhead
    have hc : c = '\n' ∨ c = '\r' := by simpa [isLineEnd, or_iff_not_imp_left] using hhead
    rcases hc with rfl | rfl
    · rfl
    · unfold afterLineEnd?
      split <;> simp_all

theorem afterLine_append (h : '\n' ∈ s) (t : Text) : afterLine (s ++ t) = afterLine s ++ t := by
  have hmem := mem_dropWhile (f := fun c => !isLineEnd c) h rfl
  obtain ⟨r, hr⟩ := Option.isSome_iff_exists.1 (afterLineEnd?_dropWhile h)
  unfold afterLine
  rw [dropWhile_append h rfl, afterLineEnd?_append hmem, hr]
  rfl

theorem splitLineFeed_append_of_mem (h : '\n' ∈ s) (t : Text) :
    splitLineFeed (s ++ t) = ((splitLineFeed s).1, (splitLineFeed s).2 ++ t) := by
  induction s with
  | nil => cases h
  | cons c s ih =>
    rw [List.cons_append, splitLineFeed, splitLineFeed]
    split
    · rfl
    · next hc => rw [ih (mem_of_cons h hc)]

end DiagramProse.Markdown
