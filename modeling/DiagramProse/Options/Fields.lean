import DiagramProse.Options.Basic
import DiagramProse.Text.Keyed

/-!
Options as fields with names, in whatever notation their values are written. A field that is absent has
its default and an unknown field says nothing; a value of the wrong form spoils all.
-/

namespace DiagramProse

open Text

/-- How the values of a notation are read. -/
structure ValueReader (Value : Type) where
  text? : Value → Option Text
  flag? : Value → Option Bool
  texts? : Value → Option (List Text)
  textMap? : Value → Option (Keyed Text)

namespace Options

/-- The names of the fields, in order. -/
def fieldNames : List Text :=
  List.map String.toList [
    "locale", "languages", "show_source", "show_description", "default_expanded", "summary_text",
    "a11y_summary_text", "css_class", "a11y_css_class", "fallback_text"]

/-- Reads a field, or takes the default. -/
def field? {Value α : Type} (fields : Keyed Value) (name : Text) (read : Value → Option α) (default : α) :
    Option α :=
  match fields.lookup name with
  | none => some default
  | some v => read v

/-- The options with the given fields; built-in messages are added to those given. -/
def ofFields? {Value : Type} (r : ValueReader Value) (fields : Keyed Value) : Option Options := do
  let d : Options := {}
  let options : Options := {
    locale := ← field? fields "locale" r.text? d.locale
    languages := ← field? fields "languages" r.texts? d.languages
    showSource := ← field? fields "show_source" r.flag? d.showSource
    showDescription := ← field? fields "show_description" r.flag? d.showDescription
    startsExpanded := ← field? fields "default_expanded" r.flag? d.startsExpanded
    sourceSummary := ← field? fields "summary_text" r.text? d.sourceSummary
    descriptionSummary := ← field? fields "a11y_summary_text" r.text? d.descriptionSummary
    sourceClass := ← field? fields "css_class" r.text? d.sourceClass
    descriptionClass := ← field? fields "a11y_css_class" r.text? d.descriptionClass
    fallbackTexts := ← field? fields "fallback_text" r.textMap? d.fallbackTexts }
  return options.withFallbackTexts

end Options

end DiagramProse
