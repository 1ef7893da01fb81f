import DiagramProse.Diagram.Basic

/-!
How documents are annotated. Every option has a default; messages for languages that are not given
keep the texts that are built in.
-/

namespace DiagramProse

structure Options where
  /-- The language of the descriptions. -/
  locale : Text := "en"
  /-- The languages of code fences that hold diagrams. -/
  languages : List Text := List.map String.toList ["kroki", "mermaid", "plantuml"]
  showSource : Bool := true
  showDescription : Bool := true
  /-- Whether source and description are shown unfolded. -/
  startsExpanded : Bool := false
  /-- The summary above a source. -/
  sourceSummary : Text := "\x7btype\x7d source code for \"\x7btitle\x7d\""
  /-- The summary above a description. -/
  descriptionSummary : Text := "Natural language description for \"\x7btitle\x7d\""
  sourceClass : Text := "diagram-expandable-source"
  descriptionClass : Text := "diagram-a11y-description"
  /-- What is said of a diagram that cannot be described, by language. -/
  fallbackTexts : List (Text × Text) := [("nl", fallbackText "nl"), ("en", fallbackText "en")]
deriving DecidableEq, Repr

namespace Options

/-- Adds the built-in messages for languages without a message. -/
def withFallbackTexts (o : Options) : Options :=
  let missing := ({} : Options).fallbackTexts.filter fun (code, _) =>
    (o.fallbackTexts.lookup code).isNone
  { o with fallbackTexts := o.fallbackTexts ++ missing }

/-- The message for the language of the options: by its code, by its primary subtag, in English. -/
def fallbackMessage (o : Options) : Text :=
  let known := (Locale.ofCode? o.locale).map Locale.code
  let codes := o.locale :: known.toList ++ [Locale.en.code]
  (codes.findSome? fun code => o.fallbackTexts.lookup code).getD (fallbackText "en")

def handlesLanguage (o : Options) (language : Text) : Bool := o.languages.contains language

/-! ## Presets -/

def english : Options := {}

def dutch : Options where
  locale := "nl"
  sourceSummary := "\x7btype\x7d broncode voor \"\x7btitle\x7d\""
  descriptionSummary := "Natuurlijke taal beschrijving voor \"\x7btitle\x7d\""

/-- The built-in options by name. -/
def presets : List (Text × Options) := [("en", english), ("nl", dutch)]

def preset? (name : Text) : Except OptionsProblem Options :=
  match presets.lookup name.trim.lowerAscii with
  | some o => .ok o
  | none => .error (.unknownPreset name)

end Options

end DiagramProse
