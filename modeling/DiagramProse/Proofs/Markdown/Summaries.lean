import DiagramProse.Markdown.Details
import DiagramProse.Proofs.Text.Placeholders

/-!
The summary lines behind a block: the configured templates, with the title and the name of the language filled in as
they are (`DiagramBlock.companion_summaries`).

The title is filled in first. If a place for the language name arises there, in the title itself or where it meets the
braces around it, that is filled in as well (`companion_title_type`).
-/

namespace DiagramProse.DiagramBlock

open Text Html

/-- What is filled into the summary lines of a block. -/
def summaryValues (b : DiagramBlock) (options : Options) : List (Text × Text) :=
  [("title", escape (b.title options)), ("type", escape b.typeName)]

/-- The templates of the parts that are shown. -/
def shownTemplates (b : DiagramBlock) (options : Options) : List Text :=
  (if options.showSource && !b.settings.hidesSource then [options.sourceSummary] else [])
    ++ (if options.showDescription && !b.settings.hidesDescription then [options.descriptionSummary] else [])

variable {b : DiagramBlock} {options : Options}

theorem summary_eq_fillAtOnce {template : Text} (h : KeepsPlaces template (b.summaryValues options)) :
    b.summary options template = fillAtOnce template (b.summaryValues options) := by
  have hkeys : ∀ key ∈ (["title", "type"] : List Text), IsKey key := by decide
  have hnodup : (["title", "type"] : List Text).Nodup := by decide
  exact fill_eq_fillAtOnce (List.forall_mem_map.1 hkeys) hnodup h

theorem map_summary_shownParts (b : DiagramBlock) (options : Options) :
    (b.shownParts options).map Details.summary = (b.shownTemplates options).map (b.summary options) := by
  unfold shownParts shownTemplates
  rw [List.map_append, List.map_append]
  congr 1
  · split_ifs
    all_goals rfl
  · split_ifs
    all_goals rfl

/-- Each summary line is its template with the title and the language name filled in, and nothing else. -/
theorem companion_summaries (b : DiagramBlock) (options : Options)
    (h : ∀ template ∈ b.shownTemplates options, KeepsPlaces template (b.summaryValues options)) :
    b.companion options = (b.shownParts options).flatMap Details.write ∧
      (b.shownParts options).map Details.summary =
        (b.shownTemplates options).map fun template => fillAtOnce template (b.summaryValues options) := by
  refine ⟨rfl, ?_⟩
  rw [map_summary_shownParts]
  exact List.map_congr_left fun template hmem => summary_eq_fillAtOnce (h template hmem)

/-- A pie chart with a title that has braces and brackets. -/
def bracedPie : DiagramBlock :=
  ⟨"mermaid", { title := some "a {title} <b>" }, "pie", 0, 0⟩

theorem companion_summaries_braced :
    (∀ template ∈ bracedPie.shownTemplates .english, KeepsPlaces template (bracedPie.summaryValues .english)) ∧
    bracedPie.companion .english = (bracedPie.shownParts .english).flatMap Details.write ∧
      (bracedPie.shownParts .english).map Details.summary = ["Mermaid source code for \"a \x7btitle\x7d &lt;b&gt;\"",
        "Natural language description for \"a \x7btitle\x7d &lt;b&gt;\""] := by
  have hkeeps : ∀ template ∈ bracedPie.shownTemplates .english,
      KeepsPlaces template (bracedPie.summaryValues .english) := by
    decide +kernel
  obtain ⟨hcompanion, hsummaries⟩ := companion_summaries bracedPie .english hkeeps
  refine ⟨hkeeps, hcompanion, hsummaries.trans ?_⟩
  decide +kernel

/-- A pie chart with a title that speaks of a place. -/
def placePie : DiagramBlock :=
  ⟨"mermaid", { title := some "The \x7btype\x7d tag", hidesDescription := true }, "pie", 0, 0⟩

theorem companion_title_type :
    (placePie.shownTemplates .english).map (fun template => fillAtOnce template (placePie.summaryValues .english)) =
        ["Mermaid source code for \"The \x7btype\x7d tag\""] ∧
      (placePie.shownParts .english).map Details.summary = ["Mermaid source code for \"The Mermaid tag\""] := by
  decide +kernel

end DiagramProse.DiagramBlock
