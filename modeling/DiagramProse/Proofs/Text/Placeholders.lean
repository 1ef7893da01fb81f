import DiagramProse.Proofs.Text.Replacement
import DiagramProse.Text.Template

/-!
Templates, with their values filled in at once (`fillAtOnce`) and one after the other (`fill`). At once, a value is
shown as it is. One after the other, a place in a value that is already there is filled in as well, and a place may
arise where a value and the text around it meet.

Both agree if no place arises in that way: if there are as many places behind a replacement as in front of it
(`fill_eq_fillAtOnce`). In a template whose places stand apart from each other none arises but in a value, so that each
value is shown with the later ones filled in (`fill_of_apart`).
-/

namespace DiagramProse.Text

/-! ## All values at once -/

/-- The value whose place stands at the beginning of a text, and its key. -/
def placed? (values : List (Text × Text)) (s : Text) : Option (Text × Text) :=
  values.find? fun entry => (placeholder entry.1).isPrefixOf s

/-- Fills in all values at once: what is filled in is not looked at again. -/
def fillAtOnce (template : Text) (values : List (Text × Text)) : Text :=
  let rec go : Nat → Text → Text
    | _, [] => []
    | skip + 1, _ :: s => go skip s
    | 0, c :: s =>
      match placed? values (c :: s) with
      | some (key, value) => value ++ go (key.length + 1) s
      | none => c :: go 0 s
  go 0 template

variable {key other value s t u : Text} {values : List (Text × Text)} {c : Char}

@[simp] theorem fillAtOnce_nil (values : List (Text × Text)) : fillAtOnce [] values = [] := by
  rw [fillAtOnce, fillAtOnce.go]

theorem fillAtOnce_cons (h : placed? values (c :: s) = none) :
    fillAtOnce (c :: s) values = c :: fillAtOnce s values := by
  rw [fillAtOnce, fillAtOnce.go, h]
  rfl

theorem fillAtOnce_go_skip (values : List (Text × Text)) (n : Nat) (s : Text) :
    fillAtOnce.go values n s = fillAtOnce.go values 0 (s.drop n) := by
  induction n generalizing s with
  | zero => rfl
  | succ n ih =>
    cases s with
    | nil => simp [fillAtOnce.go]
    | cons c s => simpa [fillAtOnce.go] using ih s

theorem fillAtOnce_place (h : placed? values (placeholder key ++ s) = some (key, value)) :
    fillAtOnce (placeholder key ++ s) values = value ++ fillAtOnce s values := by
  have hsplit : placeholder key ++ s = '{' :: (key ++ '}' :: s) := by simp [placeholder]
  have hdrop : (key ++ '}' :: s).drop (key.length + 1) = s := by simp
  rw [hsplit] at h ⊢
  rw [fillAtOnce, fillAtOnce.go, h]
  simp only
  rw [fillAtOnce_go_skip, hdrop]
  rfl

/-! ## Places -/

theorem placeholder_ne_nil (key : Text) : placeholder key ≠ [] := List.cons_ne_nil _ _

/-- What may stand between the braces of a place. -/
def IsKey (key : Text) : Prop := '{' ∉ key ∧ '}' ∉ key

instance (key : Text) : Decidable (IsKey key) := inferInstanceAs (Decidable (_ ∧ _))

/-- A place holds no other one. -/
theorem isPrefixOf_placeholder (hkey : IsKey key) (hother : IsKey other) (s : Text) :
    (placeholder other).isPrefixOf (placeholder key ++ s) = decide (other = key) := by
  rw [Bool.eq_iff_iff, List.isPrefixOf_iff_prefix, decide_eq_true_eq]
  constructor
  · rintro ⟨r, hr⟩
    have htail : other ++ '}' :: r = key ++ '}' :: s := by simpa [placeholder] using hr
    have hcut := congrArg (cutAt? (· == '}')) htail
    rw [cutAt?_char_append hother.2, cutAt?_char_append hkey.2] at hcut
    simpa using (Prod.mk.inj (Option.some.inj hcut)).1
  · rintro rfl
    exact List.prefix_append _ _

theorem isPrefixOf_placeholder_cons (hc : c ≠ '{') (s : Text) : (placeholder key).isPrefixOf (c :: s) = false := by
  simp [placeholder, List.isPrefixOf, hc.symm]

/-- How often the place of a value stands in a text. -/
def placeCount (key : Text) : Text → Nat
  | [] => 0
  | c :: s => placeCount key s + if (placeholder key).isPrefixOf (c :: s) then 1 else 0

theorem placeCount_cons (h : (placeholder key).isPrefixOf (c :: s) = false) :
    placeCount key (c :: s) = placeCount key s := by
  rw [placeCount, h]
  rfl

theorem placeCount_le_append (key u s : Text) : placeCount key s ≤ placeCount key (u ++ s) := by
  induction u with
  | nil => exact Nat.le_refl _
  | cons c u ih => exact ih.trans (Nat.le_add_right _ _)

/-- No place begins in a part in front that adds none. -/
theorem not_isPrefixOf_of_placeCount (h : placeCount key (c :: u ++ s) = placeCount key s) :
    (placeholder key).isPrefixOf (c :: (u ++ s)) = false ∧ placeCount key (u ++ s) = placeCount key s := by
  have hle := placeCount_le_append key u s
  rw [List.cons_append, placeCount] at h
  split at h
  · omega
  · next hno => exact ⟨Bool.eq_false_iff.2 hno, h⟩

theorem placeCount_append_of_not_mem (hu : '{' ∉ u) (key s : Text) : placeCount key (u ++ s) = placeCount key s := by
  induction u with
  | nil => rfl
  | cons c u ih =>
    simp only [List.mem_cons, not_or] at hu
    rw [List.cons_append, placeCount_cons (isPrefixOf_placeholder_cons (Ne.symm hu.1) _), ih hu.2]

theorem placeCount_placeholder (hkey : IsKey key) (hother : IsKey other) (s : Text) :
    placeCount other (placeholder key ++ s) = placeCount other s + if other = key then 1 else 0 := by
  have hinner : '{' ∉ key ++ ['}'] := by simp [hkey.1]
  have hprefix := isPrefixOf_placeholder hkey hother s
  have hsplit : placeholder key ++ s = '{' :: (key ++ ['}'] ++ s) := by simp [placeholder]
  rw [hsplit] at hprefix ⊢
  rw [placeCount, hprefix, placeCount_append_of_not_mem hinner]
  simp

/-! ## One value after the other -/

theorem fill_cons (template key value : Text) (values : List (Text × Text)) :
    fill template ((key, value) :: values) = fill (replace (placeholder key) value template) values := rfl

theorem replace_place (key value s : Text) :
    replace (placeholder key) value (placeholder key ++ s) = value ++ replace (placeholder key) value s :=
  replace_self_append (placeholder_ne_nil key) value s

/-- A part in front that adds no place stays as it is. -/
theorem replace_append_of_placeCount (h : placeCount key (u ++ s) = placeCount key s) (value : Text) :
    replace (placeholder key) value (u ++ s) = u ++ replace (placeholder key) value s := by
  induction u with
  | nil => rfl
  | cons c u ih =>
    obtain ⟨hno, hrest⟩ := not_isPrefixOf_of_placeCount h
    rw [List.cons_append, replace_cons hno, ih hrest, List.cons_append]

/-- So does a part in front without braces. -/
theorem fill_append_of_not_mem (hu : '{' ∉ u) (s : Text) (values : List (Text × Text)) :
    fill (u ++ s) values = u ++ fill s values := by
  induction values generalizing s with
  | nil => rfl
  | cons entry values ih =>
    rw [fill_cons, replace_append_of_placeCount (placeCount_append_of_not_mem hu _ _), ih, fill_cons]

theorem fillAtOnce_append_of_placeCount (h : ∀ entry ∈ values, placeCount entry.1 (u ++ s) = placeCount entry.1 s) :
    fillAtOnce (u ++ s) values = u ++ fillAtOnce s values := by
  induction u with
  | nil => rfl
  | cons c u ih =>
    have hnone : placed? values (c :: (u ++ s)) = none :=
      List.find?_eq_none.2 fun entry he => by simp [(not_isPrefixOf_of_placeCount (h entry he)).1]
    have hrest := ih fun entry he => (not_isPrefixOf_of_placeCount (h entry he)).2
    rw [List.cons_append, fillAtOnce_cons hnone, hrest, List.cons_append]

theorem fillAtOnce_no_values (t : Text) : fillAtOnce t [] = t := by
  have happend : fillAtOnce (t ++ []) [] = t ++ fillAtOnce [] [] := fillAtOnce_append_of_placeCount (by simp)
  rwa [List.append_nil, fillAtOnce_nil, List.append_nil] at happend

/-! ## Places that do not come from the template -/

theorem placed?_placeholder (hkeys : ∀ entry ∈ values, IsKey entry.1) (hkey : IsKey key) (s : Text) :
    placed? values (placeholder key ++ s) = values.find? fun entry => entry.1 = key := by
  induction values with
  | nil => rfl
  | cons entry values ih =>
    have hentry := isPrefixOf_placeholder hkey (hkeys entry List.mem_cons_self) s
    have hrest := ih fun e he => hkeys e (List.mem_cons_of_mem _ he)
    rw [placed?] at hrest ⊢
    rw [List.find?_cons, List.find?_cons, hentry, hrest]

theorem placed?_eq_none :
    placed? values s = none ↔ ∀ key ∈ values.map Prod.fst, (placeholder key).isPrefixOf s = false := by
  rw [placed?, List.find?_eq_none, List.forall_mem_map]
  simp only [Bool.not_eq_true]

/-- A template begins with a place or with some other character, and goes on behind it. -/
theorem template_induction (values : List (Text × Text)) {P : Text → Prop} (nil : P [])
    (place : ∀ entry ∈ values, ∀ s, placed? values (placeholder entry.1 ++ s) = some entry → P s →
      P (placeholder entry.1 ++ s))
    (plain : ∀ c s, placed? values (c :: s) = none → P s → P (c :: s)) (t : Text) : P t := by
  cases t with
  | nil => exact nil
  | cons c t =>
    cases hplaced : placed? values (c :: t) with
    | none => exact plain c t hplaced (template_induction values nil place plain t)
    | some entry =>
      have hprefix : (placeholder entry.1).isPrefixOf (c :: t) = true := by
        rw [placed?] at hplaced
        simpa using List.find?_some hplaced
      obtain ⟨s, hs⟩ := List.isPrefixOf_iff_prefix.1 hprefix
      have hlength := congrArg List.length hs
      have hle : s.length ≤ t.length := by
        simp only [placeholder, List.cons_append, List.length_cons, List.length_append] at hlength
        omega
      rw [← hs] at hplaced ⊢
      exact place entry (List.mem_of_find?_eq_some hplaced) s hplaced (template_induction values nil place plain s)
termination_by t.length

theorem replace_placeholder_other (hkey : IsKey key) (hother : IsKey other) (hne : key ≠ other) (value s : Text) :
    replace (placeholder key) value (placeholder other ++ s) =
      placeholder other ++ replace (placeholder key) value s := by
  refine replace_append_of_placeCount ?_ value
  rw [placeCount_placeholder hother hkey, if_neg hne]
  rfl

theorem not_isPrefixOf_of_placed? (h : placed? values s = none) (entry : Text × Text) (he : entry ∈ values) :
    (placeholder entry.1).isPrefixOf s = false :=
  Bool.eq_false_iff.2 (List.find?_eq_none.1 h entry he)

/-- No place of another value is lost in a replacement. -/
theorem placeCount_le_replace (hkey : IsKey key) (hother : IsKey other) (hne : other ≠ key) (value t : Text) :
    placeCount other t ≤ placeCount other (replace (placeholder key) value t) := by
  induction t using template_induction [(key, value), (other, [])] with
  | nil => exact Nat.le_refl _
  | place entry he s _ ih =>
    rcases List.mem_pair.1 he with rfl | rfl
    · rw [replace_place, placeCount_placeholder hkey hother, if_neg hne]
      exact ih.trans (placeCount_le_append other value _)
    · rw [replace_placeholder_other hkey hother hne.symm, placeCount_placeholder hother hother,
        placeCount_placeholder hother hother]
      exact Nat.add_le_add_right ih _
  | plain c s hnone ih =>
    have hkey' := not_isPrefixOf_of_placed? hnone (key, value) (by simp)
    have hother' := not_isPrefixOf_of_placed? hnone (other, []) (by simp)
    rw [replace_cons hkey', placeCount_cons hother']
    exact ih.trans (placeCount_le_append other [c] _)

/-- If there are no more places than in the template, then none begins in the part in front. -/
theorem placeCount_of_append (hkey : IsKey key) (hother : IsKey other) (hne : other ≠ key)
    (h : placeCount other (u ++ replace (placeholder key) value s) = placeCount other s) :
    placeCount other (replace (placeholder key) value s) = placeCount other s ∧
      placeCount other (u ++ replace (placeholder key) value s) =
        placeCount other (replace (placeholder key) value s) := by
  have hreplaced := placeCount_le_replace hkey hother hne value s
  have hfront := placeCount_le_append other u (replace (placeholder key) value s)
  omega

theorem forall_keys_of_eq {values' : List (Text × Text)} {P : Text → Prop}
    (hsame : values'.map Prod.fst = values.map Prod.fst) (h : ∀ entry ∈ values, P entry.1) :
    ∀ entry ∈ values', P entry.1 := by
  rw [← List.forall_mem_map (P := P)] at h ⊢
  rwa [hsame]

/-- Only the values that have a place in the template matter. -/
theorem fillAtOnce_congr {values' : List (Text × Text)} (hkeys : ∀ entry ∈ values, IsKey entry.1)
    (hsame : values'.map Prod.fst = values.map Prod.fst)
    (h : ∀ key, contains t (placeholder key) = true →
      values.find? (fun entry => entry.1 = key) = values'.find? fun entry => entry.1 = key) :
    fillAtOnce t values = fillAtOnce t values' := by
  have hkeys' : ∀ entry ∈ values', IsKey entry.1 := forall_keys_of_eq hsame hkeys
  induction t using template_induction values with
  | nil => rw [fillAtOnce_nil, fillAtOnce_nil]
  | place entry he s hplaced ih =>
    have hrest := ih fun key hkey => h key (contains_iff.2 ((contains_iff.1 hkey).trans (List.suffix_append _ _).isInfix))
    have hhere := h entry.1 (contains_iff.2 (List.prefix_append _ _).isInfix)
    have hplaced' : placed? values' (placeholder entry.1 ++ s) = some entry := by
      rw [placed?_placeholder hkeys (hkeys entry he)] at hplaced
      rw [placed?_placeholder hkeys' (hkeys entry he), ← hhere, hplaced]
    rw [fillAtOnce_place hplaced, fillAtOnce_place hplaced', hrest]
  | plain c s hnone ih =>
    have hrest := ih fun key hkey => h key (contains_iff.2 ((contains_iff.1 hkey).trans (List.suffix_cons _ _).isInfix))
    have hnone' : placed? values' (c :: s) = none := by
      rw [placed?_eq_none] at hnone ⊢
      rwa [hsame]
    rw [fillAtOnce_cons hnone, fillAtOnce_cons hnone', hrest]

/-- A value may be filled in first if no place of the others arises where it is put. -/
theorem fillAtOnce_replace (hkey : IsKey key) (hvalues : ∀ entry ∈ values, IsKey entry.1 ∧ entry.1 ≠ key)
    (h : ∀ entry ∈ values, placeCount entry.1 (replace (placeholder key) value t) = placeCount entry.1 t) :
    fillAtOnce (replace (placeholder key) value t) values = fillAtOnce t ((key, value) :: values) := by
  induction t using template_induction ((key, value) :: values) with
  | nil => exact (fillAtOnce_nil _).trans (fillAtOnce_nil _).symm
  | place entry he s hplaced ih =>
    by_cases hsame : entry.1 = key
    · -- the value that comes first: the parts behind it are those of the template
      have hentry : entry = (key, value) := by
        rw [placed?, hsame, List.find?_cons_of_pos (by simp)] at hplaced
        exact (Option.some.inj hplaced).symm
      subst hentry
      have hsum : ∀ e ∈ values, placeCount e.1 (value ++ replace (placeholder key) value s) = placeCount e.1 s := by
        intro e he
        have hsame := h e he
        rwa [replace_place, placeCount_placeholder hkey (hvalues e he).1, if_neg (hvalues e he).2] at hsame
      have hcounts := fun e he => placeCount_of_append hkey (hvalues e he).1 (hvalues e he).2 (hsum e he)
      rw [replace_place, fillAtOnce_append_of_placeCount fun e he => (hcounts e he).2,
        ih fun e he => (hcounts e he).1, fillAtOnce_place hplaced]
    · -- one of the others stays where it is
      have hmem : entry ∈ values := by
        rcases List.mem_cons.1 he with rfl | he
        · exact absurd rfl hsame
        · exact he
      obtain ⟨hekey, -⟩ := hvalues entry hmem
      have hother := replace_placeholder_other hkey hekey (Ne.symm hsame) value s
      have hrest : placed? values (placeholder entry.1 ++ replace (placeholder key) value s) = some entry := by
        have hkeys : ∀ e ∈ values, IsKey e.1 := fun e he => (hvalues e he).1
        rw [placed?_placeholder (List.forall_mem_cons.2 ⟨hkey, hkeys⟩) hekey, List.find?_cons_of_neg
          (by simpa using Ne.symm hsame)] at hplaced
        rw [placed?_placeholder hkeys hekey, hplaced]
      have hcounts : ∀ e ∈ values, placeCount e.1 (replace (placeholder key) value s) = placeCount e.1 s := by
        intro e he
        have hsum := h e he
        rw [hother, placeCount_placeholder hekey (hvalues e he).1, placeCount_placeholder hekey (hvalues e he).1] at hsum
        exact Nat.add_right_cancel hsum
      rw [hother, fillAtOnce_place hrest, ih hcounts, fillAtOnce_place hplaced]
  | plain c s hnone ih =>
    have hno := not_isPrefixOf_of_placed? hnone (key, value) List.mem_cons_self
    have hsum : ∀ e ∈ values, placeCount e.1 ([c] ++ replace (placeholder key) value s) = placeCount e.1 s := by
      intro e he
      have hsame := h e he
      rwa [replace_cons hno, placeCount_cons (not_isPrefixOf_of_placed? hnone e (List.mem_cons_of_mem _ he))] at hsame
    have hcounts := fun e he => placeCount_of_append hkey (hvalues e he).1 (hvalues e he).2 (hsum e he)
    have hkeep := fillAtOnce_append_of_placeCount fun e he => (hcounts e he).2
    rw [replace_cons hno, ← List.singleton_append, hkeep, ih fun e he => (hcounts e he).1, fillAtOnce_cons hnone]
    rfl

/-- No value that is filled in brings a place for one that comes later. -/
def KeepsPlaces : Text → List (Text × Text) → Prop
  | _, [] => True
  | t, (key, value) :: values =>
    (∀ entry ∈ values, placeCount entry.1 (replace (placeholder key) value t) = placeCount entry.1 t) ∧
      KeepsPlaces (replace (placeholder key) value t) values

instance decidableKeepsPlaces : (t : Text) → (values : List (Text × Text)) → Decidable (KeepsPlaces t values)
  | _, [] => .isTrue trivial
  | t, (key, value) :: values =>
    have := decidableKeepsPlaces (replace (placeholder key) value t) values
    inferInstanceAs (Decidable (_ ∧ _))

/-- Then it does not matter whether the values are filled in one after the other or at once. -/
theorem fill_eq_fillAtOnce (hkeys : ∀ entry ∈ values, IsKey entry.1) (hnodup : (values.map Prod.fst).Nodup)
    (h : KeepsPlaces t values) : fill t values = fillAtOnce t values := by
  induction values generalizing t with
  | nil => rw [fillAtOnce_no_values]; rfl
  | cons entry values ih =>
    obtain ⟨hkey, hrest⟩ := List.forall_mem_cons.1 hkeys
    obtain ⟨hhere, hlater⟩ := h
    rw [List.map_cons, List.nodup_cons] at hnodup
    have hother : ∀ e ∈ values, IsKey e.1 ∧ e.1 ≠ entry.1 := by
      intro e he
      exact ⟨hrest e he, fun heq => hnodup.1 (heq ▸ List.mem_map_of_mem he)⟩
    rw [fill_cons, ih hrest hnodup.2 hlater, fillAtOnce_replace hkey hother hhere]

/-! ## Templates whose places stand apart -/

/-- A character that no place has keeps what is in front of it from what is behind it. -/
theorem fill_append_cons {d : Char} (hd : ∀ entry ∈ values, d ∉ placeholder entry.1) (s t : Text) :
    fill (s ++ d :: t) values = fill s values ++ d :: fill t values := by
  induction values generalizing s t with
  | nil => rfl
  | cons entry values ih =>
    obtain ⟨hhere, hrest⟩ := List.forall_mem_cons.1 hd
    rw [fill_cons, replace_append_cons (placeholder_ne_nil _) hhere, ih hrest, fill_cons, fill_cons]

/-- A text without any of the places stays as it is. -/
theorem fill_eq_self (h : ∀ entry ∈ values, contains s (placeholder entry.1) = false) : fill s values = s := by
  induction values with
  | nil => rfl
  | cons entry values ih =>
    obtain ⟨hhere, hrest⟩ := List.forall_mem_cons.1 h
    rw [fill_cons, replace_eq_self (placeholder_ne_nil _) hhere, ih hrest]

theorem fillAtOnce_append_cons {d : Char} (hkeys : ∀ entry ∈ values, IsKey entry.1)
    (hd : ∀ entry ∈ values, d ∉ placeholder entry.1) (s t : Text) :
    fillAtOnce (s ++ d :: t) values = fillAtOnce s values ++ d :: fillAtOnce t values := by
  induction s using template_induction values with
  | nil =>
    have hnone : placed? values (d :: t) = none := by
      refine List.find?_eq_none.2 fun entry he => ?_
      have hopen : d ≠ '{' := fun e => hd entry he (e ▸ List.mem_cons_self)
      simp [isPrefixOf_placeholder_cons hopen]
    rw [List.nil_append, fillAtOnce_cons hnone, fillAtOnce_nil, List.nil_append]
  | place entry he s hplaced ih =>
    have hwhole : placed? values (placeholder entry.1 ++ (s ++ d :: t)) = some entry := by
      rw [placed?_placeholder hkeys (hkeys entry he)] at hplaced ⊢
      exact hplaced
    rw [List.append_assoc, fillAtOnce_place hwhole, ih, fillAtOnce_place hplaced, List.append_assoc]
  | plain c s hnone ih =>
    have hwhole : placed? values (c :: (s ++ d :: t)) = none := by
      refine List.find?_eq_none.2 fun entry he => ?_
      have hno := startsWith_append_cons (hd entry he) (c :: s) t
      rw [startsWith, startsWith, not_isPrefixOf_of_placed? hnone entry he, List.cons_append] at hno
      simp [hno]
    rw [List.cons_append, fillAtOnce_cons hwhole, ih, fillAtOnce_cons hnone, List.cons_append]

/-- Each value with the later ones filled in. -/
def settled : List (Text × Text) → List (Text × Text)
  | [] => []
  | (key, value) :: values => (key, fill value values) :: settled values

theorem map_fst_settled (values : List (Text × Text)) : (settled values).map Prod.fst = values.map Prod.fst := by
  induction values with
  | nil => rfl
  | cons entry values ih => rw [settled, List.map_cons, List.map_cons, ih]

theorem isKey_settled (hkeys : ∀ entry ∈ values, IsKey entry.1) : ∀ entry ∈ settled values, IsKey entry.1 :=
  forall_keys_of_eq (map_fst_settled values) hkeys

/-- What becomes of a place: the value, and what the later values change in it. -/
theorem find?_settled (hkeys : ∀ entry ∈ values, IsKey entry.1) (hkey : key ∈ values.map Prod.fst) :
    (settled values).find? (fun entry => entry.1 = key) = some (key, fill (placeholder key) values) := by
  induction values with
  | nil => cases hkey
  | cons entry values ih =>
    obtain ⟨hhere, hrest⟩ := List.forall_mem_cons.1 hkeys
    rw [settled, fill_cons]
    by_cases hsame : entry.1 = key
    · have hreplaced := replace_place entry.1 entry.2 []
      rw [List.append_nil] at hreplaced
      rw [List.find?_cons_of_pos (by simpa using hsame), ← hsame, hreplaced]
      simp [replace, replace.go]
    · have hkey' : key ∈ values.map Prod.fst := by
        rw [List.map_cons, List.mem_cons] at hkey
        exact hkey.resolve_left (Ne.symm hsame)
      obtain ⟨e, he, rfl⟩ := List.mem_map.1 hkey'
      have hkept := replace_placeholder_other hhere (hrest e he) hsame entry.2 []
      rw [List.append_nil] at hkept
      rw [List.find?_cons_of_neg (by simpa using hsame), ih hrest hkey', hkept]
      simp [replace, replace.go]

/-- Between characters that no place has, the template has either a place or no brace. -/
def Apart (keys : List Text) (template : Text) : Prop :=
  ∀ piece ∈ splitBy (fun d => keys.all fun key => decide (d ∉ placeholder key)) template,
    '{' ∉ piece ∨ piece ∈ keys.map placeholder

instance (keys : List Text) (template : Text) : Decidable (Apart keys template) :=
  inferInstanceAs (Decidable (∀ piece ∈ _, _))

/-- Where places stand apart, each value is shown with the later ones filled in. -/
theorem fill_of_apart (hkeys : ∀ entry ∈ values, IsKey entry.1) (t : Text) (h : Apart (values.map Prod.fst) t) :
    fill t values = fillAtOnce t (settled values) := by
  have hsettled := isKey_settled hkeys
  rcases exists_first (fun d => (values.map Prod.fst).all fun key => decide (d ∉ placeholder key)) t with
    hnone | ⟨s, d, t', rfl, hd, -⟩
  · -- a piece of its own
    rw [Apart, splitBy_of_forall hnone, List.forall_mem_singleton] at h
    rcases h with hplain | hplace
    · have hfill : fill t values = t := fill_eq_self fun entry _ => not_contains List.mem_cons_self hplain
      have hcounts := fun (entry : Text × Text) (_ : entry ∈ settled values) =>
        placeCount_append_of_not_mem hplain entry.1 []
      have hatOnce := fillAtOnce_append_of_placeCount hcounts
      rw [List.append_nil, fillAtOnce_nil, List.append_nil] at hatOnce
      rw [hfill, hatOnce]
    · obtain ⟨key, hkey, rfl⟩ := List.mem_map.1 hplace
      obtain ⟨e, he, rfl⟩ := List.mem_map.1 hkey
      have hplaced := placed?_placeholder hsettled (hkeys e he) []
      rw [find?_settled hkeys hkey] at hplaced
      have hatOnce := fillAtOnce_place hplaced
      rw [List.append_nil, fillAtOnce_nil, List.append_nil] at hatOnce
      exact hatOnce.symm
  · have hapart : ∀ entry ∈ values, d ∉ placeholder entry.1 := by
      intro entry he
      simpa using List.all_eq_true.1 hd entry.1 (List.mem_map_of_mem he)
    have hapart' := forall_keys_of_eq (P := (d ∉ placeholder ·)) (map_fst_settled values) hapart
    rw [Apart, splitBy_append hd, List.forall_mem_append] at h
    rw [fill_append_cons hapart, fillAtOnce_append_cons hsettled hapart', fill_of_apart hkeys s h.1,
      fill_of_apart hkeys t' h.2]
termination_by t.length

end DiagramProse.Text
