import DiagramProse.Html.Fragment
import Mathlib.Tactic.Common

/-!
What stands in a written description, and in which order. Parts of a text stand in it one behind the other
(`HoldsInOrder`), which texts around it and texts put together keep. The items of a list, those below an item and
the blocks that are shown are parts of what is written (`writeItems_leaf`, `writeItems_below`,
`Html.Block.write_infix`).
-/

namespace DiagramProse

open Text Html

/-! ## Parts of a text -/

/-- The parts stand in the text one behind the other: it is `x₀ ++ p₁ ++ x₁ ++ … ++ pₙ ++ xₙ` for some texts `xᵢ`. -/
def HoldsInOrder : (parts : List Text) → (s : Text) → Prop
  | [], _ => True
  | p :: ps, s => ∃ before after, s = before ++ p ++ after ∧ HoldsInOrder ps after

namespace HoldsInOrder

variable {parts parts' : List Text} {s t : Text}

theorem nil (s : Text) : HoldsInOrder [] s := trivial

theorem self (s : Text) : HoldsInOrder [s] s := ⟨[], [], by simp, trivial⟩

/-- What stands around a text changes nothing. -/
theorem widen (h : HoldsInOrder parts s) (hst : s <:+: t) : HoldsInOrder parts t := by
  obtain ⟨u, v, rfl⟩ := hst
  induction parts generalizing s u with
  | nil => trivial
  | cons p ps ih =>
    obtain ⟨before, after, rfl, hrest⟩ := h
    refine ⟨u ++ before, after ++ v, by simp, ?_⟩
    simpa using ih hrest []

theorem append (hs : HoldsInOrder parts s) (ht : HoldsInOrder parts' t) :
    HoldsInOrder (parts ++ parts') (s ++ t) := by
  induction parts generalizing s with
  | nil => exact ht.widen (List.suffix_append s t).isInfix
  | cons p ps ih =>
    obtain ⟨before, after, rfl, hrest⟩ := hs
    exact ⟨before, after ++ t, by simp, ih hrest⟩

theorem join (sep : Text) (parts : List Text) : HoldsInOrder parts (join sep parts) := by
  induction parts with
  | nil => trivial
  | cons p ps ih =>
    cases ps with
    | nil => simpa [Text.join] using self p
    | cons q qs =>
      rw [Text.join, List.intercalate_cons_cons, List.append_assoc]
      exact (self p).append (ih.widen (List.suffix_append _ _).isInfix)

theorem infix_of_mem (h : HoldsInOrder parts s) {p : Text} (hp : p ∈ parts) : p <:+: s := by
  induction parts generalizing s with
  | nil => cases hp
  | cons q qs ih =>
    obtain ⟨before, after, rfl, hrest⟩ := h
    rcases List.mem_cons.1 hp with rfl | hp
    · exact ⟨before, after, rfl⟩
    · exact (ih hrest hp).trans (List.suffix_append _ _).isInfix

end HoldsInOrder

theorem escape_join (sep : Text) (parts : List Text) :
    escape (join sep parts) = join (escape sep) (parts.map escape) := by
  induction parts with
  | nil => rfl
  | cons p ps ih =>
    cases ps with
    | nil => simp [join]
    | cons q qs =>
      simp only [join, List.map_cons] at ih ⊢
      rw [List.intercalate_cons_cons, List.intercalate_cons_cons, escape_append, escape_append, ih]

/-! ## Items and blocks -/

theorem writeItems_append (is js : List Item) : writeItems (is ++ js) = writeItems is ++ writeItems js := by
  induction is with
  | nil => rfl
  | cons i is ih => simp [writeItems, ih]

theorem writeItems_cons (i : Item) (is : List Item) : writeItems (i :: is) = writeItems [i] ++ writeItems is :=
  writeItems_append [i] is

theorem writeItems_leaf (html : Text) : html <:+: writeItems [.leaf html] := by
  refine ⟨'\n' :: openTag "li", closeTag "li", ?_⟩
  simp [writeItems, Item.leaf, Item.write, writeLists]

/-- The items of a list below an item are written within that item. -/
theorem writeItems_below (html : Text) (items : List Item) :
    writeItems items <:+: writeItems [.mk html [.mk false items]] := by
  cases items with
  | nil => exact List.nil_infix
  | cons i is =>
    refine ⟨'\n' :: openTag "li" ++ html ++ '\n' :: openTag (tagName false),
      '\n' :: closeTag (tagName false) ++ '\n' :: closeTag "li", ?_⟩
    simp [writeItems, Item.write, writeLists, Listing.write, Listing.isEmpty, Listing.items]

/-- A block that is shown is a part of what is written. -/
theorem Html.Block.write_infix {f : Fragment} {b : Block} (hb : b ∈ f) (hv : b.isVoid = false) :
    b.write <:+: f.write := by
  have hshown : b ∈ f.filter fun b => !b.isVoid := List.mem_filter.2 ⟨hb, by rw [hv]; rfl⟩
  exact (HoldsInOrder.join ['\n'] _).infix_of_mem (List.mem_map_of_mem hshown)

/-- What the items of a list hold, a description with that list holds; a list that is not written holds nothing. -/
theorem HoldsInOrder.of_list {parts : List Text} {f : Fragment} {items : List Item}
    (h : HoldsInOrder parts (writeItems items)) (hlist : Block.list (.mk false items) ∈ f) :
    HoldsInOrder parts f.write := by
  cases items with
  | nil => exact h.widen List.nil_infix
  | cons i is =>
    have hwritten : writeItems (i :: is) <:+: (Block.list (.mk false (i :: is))).write :=
      ⟨openTag (tagName false), '\n' :: closeTag (tagName false), rfl⟩
    exact h.widen (hwritten.trans (Html.Block.write_infix hlist rfl))

end DiagramProse
