import DiagramProse.Proofs.Text.Lines

/-!
Reading lines one after the other, for a reader that is given by what it does with a single line.
-/

namespace DiagramProse.Text

variable {σ : Type} {step : σ → Nat → Text → σ}

/-- Reading lines, of which the first has the given number, leads from one state to another. -/
inductive Reads (step : σ → Nat → Text → σ) : (number : Nat) → List Text → σ → σ → Prop where
  | nil {number : Nat} {s : σ} : Reads step number [] s s
  | cons {number : Nat} {l : Text} {ls : List Text} {s s' s'' : σ} (isLine : IsLine l)
      (hstep : step s number l = s') (rest : Reads step (number + 1) ls s' s'') :
      Reads step number (l :: ls) s s''

variable {number : Nat} {l : Text} {ls ms : List Text} {s s' s'' : σ}

theorem Reads.isLine (h : Reads step number ls s s') : ∀ l ∈ ls, IsLine l := by
  induction h with
  | nil => simp
  | cons hl _ _ ih =>
    intro m hm
    rcases List.mem_cons.1 hm with rfl | hm
    exacts [hl, ih m hm]

/-- Where lines are read first, the numbers of those behind them do not matter. -/
theorem Reads.append (h : Reads step number ls s s') (h' : ∀ n, Reads step n ms s' s'') :
    Reads step number (ls ++ ms) s s'' := by
  induction h with
  | nil => exact h' _
  | cons hl hstep _ ih => exact .cons hl hstep (ih h')

theorem Reads.single (hl : IsLine l) : Reads step number [l] s (step s number l) := .cons hl rfl .nil

theorem Reads.trans_eq (h : Reads step number ls s s') (he : s' = s'') :
    Reads step number ls s s'' :=
  he ▸ h

/-- One line for each of some things, where each line changes the same part of the state. -/
theorem Reads.foldl {α β : Type} {line : α → Text} {r : β → σ} {f : β → α → β} {P : β → Prop} {as : List α}
    {b : β} (hb : P b) (hf : ∀ b a, P b → P (f b a))
    (h : ∀ a ∈ as, ∀ n b, P b → Reads step n [line a] (r b) (r (f b a))) :
    Reads step number (as.map line) (r b) (r (as.foldl f b)) := by
  induction as generalizing b number with
  | nil => exact .nil
  | cons a as ih =>
    rw [List.map_cons, List.foldl_cons]
    have hrest : ∀ n, Reads step n (as.map line) (r (f b a)) (r (as.foldl f (f b a))) := fun n =>
      ih (hf b a hb) fun a' ha' => h a' (List.mem_cons_of_mem a ha')
    exact (h a List.mem_cons_self number b hb).append hrest

end DiagramProse.Text
