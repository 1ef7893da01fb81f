import DiagramProse.Markdown.DiagramBlock
import DiagramProse.Options.LanguageName

/-!
What is shown of a diagram behind its code block: its source and its description, each folded away
under a summary line.
-/

namespace DiagramProse

open Text

/-- Contents that are folded away under a summary, all of it HTML. -/
structure Details where
  cssClass : Text
  isOpen : Bool
  summary : Text
  contents : Text
deriving DecidableEq, Repr

def Details.write (d : Details) : Text :=
  "\n<details class=\"" ++ d.cssClass ++ "\"" ++ (if d.isOpen then " open" else "") ++ ">\n<summary>"
    ++ d.summary ++ "</summary>\n" ++ d.contents ++ "\n</details>\n"

namespace DiagramBlock

/-- The title that is set, or the name of the kind of diagram. -/
def title (b : DiagramBlock) (options : Options) : Text :=
  b.settings.title.getD
    ((DiagramKind.detect b.source b.kindHint? b.dialect?).localizedName
      (Locale.resolve options.locale .en))

/-- The name of the language of the diagram. -/
def typeName (b : DiagramBlock) : Text := languageName (b.settings.imageType.getD b.language)

/-- A summary line: the template with title and language name filled in. -/
def summary (b : DiagramBlock) (options : Options) (template : Text) : Text :=
  fill template [("title", Html.escape (b.title options)), ("type", Html.escape b.typeName)]

/-- The description, or the configured message if there is none. -/
def description (b : DiagramBlock) (options : Options) : Text :=
  match tryDescribe b.source b.kindHint? b.dialect? options.locale with
  | .ok html => html
  | .error _ => (Html.Block.paragraph (Html.escape options.fallbackMessage)).write

/-- The parts of a block that are shown behind it. -/
def shownParts (b : DiagramBlock) (options : Options) : List Details :=
  let source : Details :=
    ⟨Html.escape options.sourceClass, options.startsExpanded, b.summary options options.sourceSummary,
      "<pre><code>" ++ Html.escape b.source ++ "</code></pre>"⟩
  let description : Details :=
    ⟨Html.escape options.descriptionClass, options.startsExpanded,
      b.summary options options.descriptionSummary, b.description options⟩
  (if options.showSource && !b.settings.hidesSource then [source] else [])
    ++ (if options.showDescription && !b.settings.hidesDescription then [description] else [])

/-- What is inserted behind a block; nothing if all of it is hidden. -/
def companion (b : DiagramBlock) (options : Options) : Text :=
  (b.shownParts options).flatMap Details.write

end DiagramBlock

end DiagramProse
