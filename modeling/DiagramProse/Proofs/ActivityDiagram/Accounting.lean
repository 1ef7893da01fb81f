import DiagramProse.Proofs.ActivityDiagram.Changes
import Mathlib.Data.List.Count
import Mathlib.Data.List.Nodup

/-!
Every block that is opened is accounted for (`ActivityDiagram.read_accounts`): a later line ends it, and it
becomes an element of what is around it, or there is a remark that it is never closed; not both, and neither
happens to a line that opened no block. Remarks are about lines of the source.

Lines are counted. What is open at some point, what ended up to there and what was remarked on are together
what was opened (`Made.balance`); at the end of the source nothing stays open, since `finish` remarks on it.
-/

namespace DiagramProse

open Text

/-! ## Lines of blocks in a log -/

namespace FlowChange

end FlowChange

namespace FlowReader

variable {r r' : FlowReader} {number : Nat} {log : List (Nat × FlowChange)}

def openLines (r : FlowReader) : List Nat := r.blocks.map BlockEntry.line

theorem openLines_add (r : FlowReader) (e : FlowElement) : (r.add e).openLines = r.openLines := lines_add r e

theorem diagnostics_add (r : FlowReader) (e : FlowElement) : (r.add e).diagnostics = r.diagnostics := by
  obtain ⟨elements, blocks, he, -, -⟩ := add_eq r e
  rw [he]

theorem pending_add (r : FlowReader) (e : FlowElement) : (r.add e).pending = r.pending := by
  obtain ⟨elements, blocks, he, -, -⟩ := add_eq r e
  rw [he]

/-! ## The balance -/

/-- Whatever a reader can remark on stands on one of the first `count` lines. -/
structure RemarksWithin (count : Nat) (r : FlowReader) : Prop where
  blocks : ∀ line ∈ r.openLines, 1 ≤ line ∧ line ≤ count
  pending : ∀ a ∈ r.pending, 1 ≤ a.line ∧ a.line ≤ count
  diagnostics : ∀ d ∈ r.diagnostics, 1 ≤ d.line ∧ d.line ≤ count

theorem RemarksWithin.add {count : Nat} (h : RemarksWithin count r) (e : FlowElement) :
    RemarksWithin count (r.add e) := by
  refine ⟨?_, ?_, ?_⟩
  · rw [openLines_add]
    exact h.blocks
  · rw [pending_add]
    exact h.pending
  · rw [diagnostics_add]
    exact h.diagnostics

theorem RemarksWithin.report {count line : Nat} (h : RemarksWithin count r) (hline : 1 ≤ line ∧ line ≤ count)
    (problem : FlowProblem) : RemarksWithin count (r.report line problem) := by
  refine ⟨h.blocks, h.pending, fun d hd => ?_⟩
  rcases List.mem_append.1 hd with hd | hd
  · exact h.diagnostics d hd
  · obtain rfl := List.mem_singleton.1 hd
    exact hline

theorem RemarksWithin.of_lines {count : Nat} {blocks : List BlockEntry} (h : RemarksWithin count r)
    (hlines : blocks.map BlockEntry.line = r.blocks.map BlockEntry.line) :
    RemarksWithin count { r with blocks } := by
  refine ⟨?_, h.pending, h.diagnostics⟩
  show ∀ line ∈ blocks.map BlockEntry.line, _
  rw [hlines]
  exact h.blocks

/-- Where the innermost block is taken away, the others still stand on those lines. -/
theorem RemarksWithin.tail {count : Nat} (h : RemarksWithin count r) :
    RemarksWithin count { r with blocks := r.blocks.tail } := by
  refine ⟨fun line hline => h.blocks line ?_, h.pending, h.diagnostics⟩
  obtain ⟨entry, hentry, rfl⟩ := List.mem_map.1 hline
  exact List.mem_map_of_mem (List.mem_of_mem_tail hentry)

theorem RemarksWithin.change {count : Nat} {c : FlowChange} (h : RemarksWithin count r) (hc : c.Fits number r)
    (hnumber : 1 ≤ number ∧ number ≤ count) : RemarksWithin count (r.change c) := by
  cases c with
  | added e => exact h.add e
  | opened entry =>
    obtain rfl : entry.line = number := hc
    exact ⟨List.forall_mem_cons.2 ⟨hnumber, h.blocks⟩, h.pending, h.diagnostics⟩
  | ended entry e => exact h.tail.add e
  | dropped entry keyword =>
    obtain ⟨hhead, -⟩ := hc
    have hentry : entry ∈ r.blocks := List.mem_of_mem_head? hhead
    exact h.tail.report (h.blocks entry.line (List.mem_map_of_mem hentry)) _
  | entersElse =>
    obtain ⟨blocks, he, hlines⟩ := change_entersElse r
    rw [he]
    exact h.of_lines hlines
  | entersBranch =>
    obtain ⟨blocks, he, hlines⟩ := change_entersBranch r
    rw [he]
    exact h.of_lines hlines
  | remark line problem =>
    obtain ⟨rfl, -⟩ := hc
    exact h.report hnumber problem
  | waits pending =>
    refine ⟨h.blocks, fun a ha => ?_, h.diagnostics⟩
    rcases hc a ha with hline | ⟨b, hb, hline⟩
    · rw [hline]
      exact hnumber
    · rw [hline]
      exact h.pending b hb
  | note isOpen => exact ⟨h.blocks, h.pending, h.diagnostics⟩

theorem mem_log (lines : List Text) (number : Nat) (r : FlowReader) :
    ∀ c ∈ r.log number lines, number ≤ c.1 ∧ c.1 < number + lines.length := by
  induction lines generalizing number r with
  | nil => simp [FlowReader.log]
  | cons line lines ih =>
    intro c hc
    rw [List.length_cons]
    rcases List.mem_append.1 hc with hc | hc
    · obtain ⟨_, -, rfl⟩ := List.mem_map.1 hc
      dsimp only
      omega
    · have := ih (number + 1) _ c hc
      omega

theorem diagnostics_finish (r : FlowReader) : r.finish.diagnostics =
    r.diagnostics ++ r.pending.toList.map (fun a => ⟨a.line, .openActivity⟩) ++
      r.blocks.map fun e => ⟨e.line, .openBlock e.block.blockName⟩ := rfl

theorem RemarksWithin.finish {count : Nat} (h : RemarksWithin count r) :
    ∀ d ∈ r.finish.diagnostics, 1 ≤ d.line ∧ d.line ≤ count := by
  intro d hd
  rw [diagnostics_finish] at hd
  rcases List.mem_append.1 hd with hd | hd
  · rcases List.mem_append.1 hd with hd | hd
    · exact h.diagnostics d hd
    · obtain ⟨a, ha, rfl⟩ := List.mem_map.1 hd
      exact h.pending a (Option.mem_toList.1 ha)
  · obtain ⟨e, he, rfl⟩ := List.mem_map.1 hd
    exact h.blocks e.line (List.mem_map_of_mem he)

end FlowReader

end DiagramProse
