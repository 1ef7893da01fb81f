import DiagramProse.Text.Basic
import Mathlib.Data.List.Induction
import Mathlib.Data.List.Nodup
import Mathlib.Tactic.Common

/-!
Names in the order in which they come first. A collection that grows by names it does not have yet
(`addNew`) holds all of them that were given, each once, in that order (`foldl_addNew_nil`).
-/

namespace DiagramProse.Text

/-- Adds a name that is not there yet. -/
def addNew (names : List Text) (name : Text) : List Text := if name ∈ names then names else names ++ [name]

variable {names given : List Text} {name other : Text}

theorem addNew_of_mem (h : name ∈ names) : addNew names name = names := if_pos h

theorem addNew_of_not_mem (h : name ∉ names) : addNew names name = names ++ [name] := if_neg h

theorem mem_addNew : other ∈ addNew names name ↔ other ∈ names ∨ other = name := by
  unfold addNew
  split
  · next h =>
    constructor
    · exact .inl
    · rintro (ho | rfl)
      exacts [ho, h]
  · simp

theorem mem_foldl_addNew : other ∈ given.foldl addNew names ↔ other ∈ names ∨ other ∈ given := by
  induction given generalizing names with
  | nil => simp
  | cons name given ih => rw [List.foldl_cons, ih, mem_addNew, List.mem_cons, or_assoc]

theorem nodup_addNew (h : names.Nodup) : (addNew names name).Nodup := by
  unfold addNew
  split
  · exact h
  · next hn => exact List.nodup_append.2 ⟨h, List.nodup_singleton name, by rintro a ha b hb rfl; simp_all⟩

theorem nodup_foldl_addNew (h : names.Nodup) : (given.foldl addNew names).Nodup := by
  induction given generalizing names with
  | nil => exact h
  | cons name given ih => exact ih (nodup_addNew h)

theorem prefix_addNew (names : List Text) (name : Text) : names <+: addNew names name := by
  unfold addNew
  split
  · exact List.prefix_refl _
  · exact List.prefix_append _ _

theorem prefix_foldl_addNew (names given : List Text) : names <+: given.foldl addNew names := by
  induction given generalizing names with
  | nil => exact List.prefix_refl _
  | cons name given ih => exact (prefix_addNew names name).trans (ih (addNew names name))

theorem eraseDups_concat (given : List Text) (name : Text) :
    (given ++ [name]).eraseDups = addNew given.eraseDups name := by
  rw [List.eraseDups_append]
  by_cases h : name ∈ given
  · rw [addNew_of_mem (List.mem_eraseDups.2 h)]
    simp [List.removeAll, h]
  · rw [addNew_of_not_mem (mt List.mem_eraseDups.1 h)]
    simp [List.removeAll, h, List.eraseDups_cons]

/-- The names in the order in which they were given first. -/
theorem foldl_addNew_nil (given : List Text) : given.foldl addNew [] = given.eraseDups := by
  induction given using List.reverseRecOn with
  | nil => rfl
  | append_singleton given name ih => rw [List.foldl_append, ih, eraseDups_concat]; rfl

theorem nodup_eraseDups (given : List Text) : given.eraseDups.Nodup := by
  rw [← foldl_addNew_nil]
  exact nodup_foldl_addNew List.nodup_nil

end DiagramProse.Text
