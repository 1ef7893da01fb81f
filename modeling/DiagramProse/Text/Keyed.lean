import DiagramProse.Text.Basic

/-!
Values under keys, in the order in which the keys came first. `lookup_put` says what is found under a
key after a value was put under it.
-/

namespace DiagramProse.Text

/-- Values under keys. -/
abbrev Keyed (α : Type) := List (Text × α)

namespace Keyed

variable {α : Type}

/-- Puts a value under a key, in the place of the value that was there. -/
def put (key : Text) (value : α) : Keyed α → Keyed α
  | [] => [(key, value)]
  | (k, v) :: rest => if k = key then (k, value) :: rest else (k, v) :: put key value rest

theorem lookup_put (key : Text) (value : α) (m : Keyed α) :
    (put key value m).lookup key = some value := by
  induction m with
  | nil => simp [put]
  | cons e m ih =>
    obtain ⟨k, v⟩ := e
    by_cases h : k = key
    · simp [put, h]
    · have hb : (key == k) = false := by simpa using Ne.symm h
      simp [put, h, List.lookup_cons, hb, ih]

end Keyed

end DiagramProse.Text
