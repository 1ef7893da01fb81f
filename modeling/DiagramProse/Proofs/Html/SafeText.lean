import DiagramProse.Html.Escape
import DiagramProse.Proofs.Text.Placeholders
import Mathlib.Tactic.Common

/-!
Text that may stand between tags. It has no character that XML leaves out, no `<`, no `>`, no `"`, and
an `&` only where an entity begins. Escaped text is safe (`escape_safe`), and so is all that is put
together from safe texts: joined ones, and templates with safe values filled in (`fill_safe`).
-/

namespace DiagramProse.Html

open Text

/-- What stands behind the `&` of the four entities. -/
def entityTails : List Text := ["amp;", "lt;", "gt;", "quot;"]

/-- Text that may stand between tags. -/
structure SafeText (s : Text) : Prop where
  xml : ∀ c ∈ s, isXmlChar c = true
  noMarkup : ∀ c ∈ s, c ≠ '<' ∧ c ≠ '>' ∧ c ≠ '"'
  entity : ∀ a b, s = a ++ '&' :: b → ∃ e ∈ entityTails, e <+: b

/-- A character that stands for itself in HTML. -/
def isPlain (c : Char) : Bool := isXmlChar c && c != '<' && c != '>' && c != '"' && c != '&'

namespace SafeText

theorem of_plain {s : Text} (h : s.all isPlain = true) : SafeText s := by
  have hc : ∀ c ∈ s, isPlain c = true := List.all_eq_true.1 h
  simp only [isPlain, Bool.and_eq_true, bne_iff_ne] at hc
  refine ⟨fun c h => (hc c h).1.1.1.1, fun c h => ⟨(hc c h).1.1.1.2, (hc c h).1.1.2, (hc c h).1.2⟩, ?_⟩
  rintro a b rfl
  exact absurd rfl (hc '&' (by simp)).2

theorem nil : SafeText [] := of_plain rfl

theorem append {s t : Text} (hs : SafeText s) (ht : SafeText t) : SafeText (s ++ t) := by
  refine ⟨fun c hc => ?_, fun c hc => ?_, fun a b hab => ?_⟩
  · exact (List.mem_append.1 hc).elim (hs.xml c) (ht.xml c)
  · exact (List.mem_append.1 hc).elim (hs.noMarkup c) (ht.noMarkup c)
  · rcases List.append_eq_append_iff.1 hab with ⟨u, rfl, hu⟩ | ⟨u, rfl, hu⟩
    · exact ht.entity u b hu
    · -- the `&` is the first character behind `a`: of `u`, or of `t` if `u` is empty
      cases u with
      | nil => exact ht.entity [] b hu.symm
      | cons d u =>
        simp only [List.cons_append, List.cons.injEq] at hu
        obtain ⟨rfl, rfl⟩ := hu
        obtain ⟨e, he, hp⟩ := hs.entity a u rfl
        exact ⟨e, he, hp.trans (List.prefix_append _ _)⟩

theorem cons {c : Char} {s : Text} (hc : isPlain c = true) (hs : SafeText s) : SafeText (c :: s) :=
  (of_plain (s := [c]) (by simp [hc])).append hs

/-- Whatever stands at the end of a safe text is safe. -/
theorem of_append_right {s t : Text} (h : SafeText (s ++ t)) : SafeText t :=
  ⟨fun c hc => h.xml c (List.mem_append_right _ hc), fun c hc => h.noMarkup c (List.mem_append_right _ hc),
    fun a b hab => h.entity (s ++ a) b (by rw [hab, List.append_assoc])⟩

/-- A safe text may be cut before a character that no entity has, such as a brace. -/
theorem of_append_left {s t : Text} {c : Char} (h : SafeText (s ++ c :: t))
    (hc : ∀ e ∈ entityTails, c ∉ e) : SafeText s := by
  refine ⟨fun d hd => h.xml d (List.mem_append_left _ hd),
    fun d hd => h.noMarkup d (List.mem_append_left _ hd), fun a b hab => ?_⟩
  subst hab
  obtain ⟨e, he, hp⟩ := h.entity a (b ++ c :: t) (by simp)
  refine ⟨e, he, ?_⟩
  rcases List.prefix_or_prefix_of_prefix hp (List.prefix_append b (c :: t)) with h | h
  · exact h
  · -- the entity would have to go on with `c`
    obtain ⟨u, rfl⟩ := h
    rw [List.prefix_append_right_inj] at hp
    cases u with
    | nil => simp
    | cons d u =>
      obtain ⟨rfl, -⟩ := List.cons_prefix_cons.1 hp
      exact absurd (by simp) (hc _ he)

end SafeText

/-! ## Escaping -/

theorem escapeChar_safe (c : Char) : SafeText (escapeChar c) := by
  unfold escapeChar
  split
  · exact .nil
  · next hx =>
    have entity : ∀ e ∈ entityTails, SafeText ('&' :: e) := by
      intro e he
      have hp : e.all isPlain = true := by revert e; decide
      refine ⟨fun d hd => ?_, fun d hd => ?_, fun a b hab => ?_⟩
      · rcases List.mem_cons.1 hd with rfl | hd
        exacts [by decide, (SafeText.of_plain hp).xml d hd]
      · rcases List.mem_cons.1 hd with rfl | hd
        exacts [by decide, (SafeText.of_plain hp).noMarkup d hd]
      · cases a with
        | nil => exact ⟨e, he, by simp_all⟩
        | cons d a =>
          simp only [List.cons_append, List.cons.injEq] at hab
          exact (SafeText.of_plain hp).entity a b hab.2
    split_ifs with h1 h2 h3 h4
    · exact entity "amp;" (by decide)
    · exact entity "lt;" (by decide)
    · exact entity "gt;" (by decide)
    · exact entity "quot;" (by decide)
    · exact .of_plain (by simp_all [isPlain])

theorem escape_safe (s : Text) : SafeText (escape s) := by
  induction s with
  | nil => exact .nil
  | cons c s ih =>
    have h : escape (c :: s) = escapeChar c ++ escape s := by simp [escape]
    rw [h]
    exact (escapeChar_safe c).append ih

theorem escape_eq_self {s : Text} (h : s.all isPlain = true) : escape s = s := by
  induction s with
  | nil => rfl
  | cons c s ih =>
    simp only [List.all_cons, Bool.and_eq_true, isPlain, bne_iff_ne] at h
    obtain ⟨⟨⟨⟨⟨hxml, hless⟩, hgreater⟩, hquote⟩, hand⟩, hrest⟩ := h
    have hchar : escapeChar c = [c] := by simp [escapeChar, hxml, hless, hgreater, hquote, hand]
    have hs : escape s = s := ih (by simpa [isPlain] using hrest)
    rw [escape, List.flatMap_cons, hchar, ← escape, hs, List.singleton_append]

/-! ## Joined texts -/

theorem join_safe {sep : Text} (hsep : SafeText sep) {parts : List Text} (h : ∀ p ∈ parts, SafeText p) :
    SafeText (join sep parts) := by
  unfold join
  induction parts with
  | nil => exact .nil
  | cons p ps ih =>
    have hp : SafeText p := h p (by simp)
    have hps := ih fun q hq => h q (by simp [hq])
    cases ps with
    | nil => simpa using hp
    | cons q qs =>
      rw [List.intercalate_cons_cons]
      exact (hp.append hsep).append hps

theorem joinNames_safe {names : List Text} {conjunction : Text} (h : ∀ n ∈ names, SafeText n)
    (hc : SafeText conjunction) : SafeText (joinNames names conjunction) := by
  have space : SafeText [' '] := .of_plain rfl
  unfold joinNames
  split
  · exact .nil
  · next only he => exact h only (by rw [← List.mem_reverse, he]; simp)
  · next last before _ he =>
    have hmem : ∀ n ∈ last :: before, SafeText n := fun n hn => h n (by rwa [← List.mem_reverse, he])
    have hb : SafeText (join ", " before.reverse) :=
      join_safe (.of_plain (by decide)) fun n hn => hmem n (by simp_all)
    exact (((hb.append space).append hc).append space).append (hmem last (by simp))

/-! ## Templates -/

theorem replace_safe {key value s : Text} (hv : SafeText value) (hs : SafeText s) :
    SafeText (replace (placeholder key) value s) := by
  refine replace_induction (P := fun s t => SafeText s → SafeText t) (placeholder_ne_nil key) value
    (fun _ _ h => h) (fun a b t ih h => ?_) s hs
  -- neither the text before the place nor the text behind it ends or begins within an entity
  have ha : SafeText a := by
    simp only [placeholder, List.cons_append, List.append_assoc] at h
    exact h.of_append_left (by decide)
  exact (ha.append hv).append (ih h.of_append_right)

theorem fill_safe {template : Text} {values : List (Text × Text)} (ht : SafeText template)
    (hv : ∀ kv ∈ values, SafeText kv.2) : SafeText (fill template values) := by
  unfold fill
  induction values generalizing template with
  | nil => exact ht
  | cons kv values ih =>
    exact ih (replace_safe (hv kv (by simp)) ht) fun kv' h => hv kv' (by simp [h])

theorem ofNat_plain (n : Nat) : (ofNat n).all isPlain = true := by
  refine List.all_eq_true.2 fun c hc => ?_
  have hd : c.isDigit = true := by
    have : (toString n).toList = Nat.toDigits 10 n := Nat.toList_repr
    rw [ofNat, this] at hc
    exact Nat.isDigit_of_mem_toDigits (by decide) (by decide) hc
  simp only [Char.isDigit, Bool.and_eq_true, decide_eq_true_eq] at hd
  have hn : 48 ≤ c.toNat ∧ c.toNat ≤ 57 := ⟨hd.1, hd.2⟩
  have ne : ∀ d : Char, d.toNat < 48 ∨ 57 < d.toNat → c ≠ d := by
    rintro d h rfl; omega
  simp only [isPlain, Bool.and_eq_true, bne_iff_ne]
  refine ⟨⟨⟨⟨?_, ne _ (by decide)⟩, ne _ (by decide)⟩, ne _ (by decide)⟩, ne _ (by decide)⟩
  simp only [isXmlChar, Bool.or_eq_true, Bool.and_eq_true, decide_eq_true_eq]
  omega

theorem ofNat_safe (n : Nat) : SafeText (ofNat n) := .of_plain (ofNat_plain n)

end DiagramProse.Html
