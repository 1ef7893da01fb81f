import DiagramProse.Html.Escape
import DiagramProse.Kind.Detection
import DiagramProse.Text.Template

/-!
The paragraph for diagrams whose kind is known but which cannot be described yet. It invites to
contribute, with a link. English stands in for unknown languages.
-/

namespace DiagramProse

open Text Html

def projectAddress : Text := "https://github.com/AIM-ENE/remark-kroki-a11y"

structure UnsupportedPhrases where
  notSupported : Text
  contribute : Text
  contributeRest : Text

namespace UnsupportedPhrases

def english : UnsupportedPhrases where
  notSupported := "The remark-kroki-a11y plugin does not yet support {type} diagrams."
  contribute := "Contribute to this A11Y project"
  contributeRest := "to add support for other diagram types or (natural) languages."

def dutch : UnsupportedPhrases where
  notSupported := "De remark-kroki-a11y plugin ondersteunt nog geen {type} diagrammen."
  contribute := "Draag bij aan dit A11Y project"
  contributeRest :=
    "om ondersteuning toe te voegen voor andere diagram types of (natuurlijke) talen."

def of (l : Locale) : UnsupportedPhrases := l.pick english dutch

end UnsupportedPhrases

namespace DiagramKind

/-- The word for a kind in front of the word for diagrams. -/
def adjective (k : DiagramKind) (l : Locale) : Text :=
  match k with
  | .classes => "class"
  | .sequence => "sequence"
  | .activity => "activity"
  | .state => "state"
  | .c4 => "C4"
  | .entityRelationship => "ER"
  | .component => "component"
  | .useCase => "use case"
  | .pie => "pie chart"
  | .gantt => "Gantt"
  | .generic => l.pick "this type of" "dit type"

/-- A link that opens in a window of its own. -/
def link (address text : Text) : Text :=
  "<a href=\"".toList ++ address ++ "\" target=\"_blank\" rel=\"noopener noreferrer\">" ++ text ++ "</a>"

def unsupportedText (k : DiagramKind) (locale : Text) : Text :=
  let l := Locale.resolve locale .en
  let p := UnsupportedPhrases.of l
  "<p>".toList
    ++ join [' '] [
      escape (fill p.notSupported [("type", k.adjective l)]),
      link projectAddress (escape p.contribute),
      escape p.contributeRest]
    ++ "</p>"

end DiagramKind

/-- What is said of a source that cannot be described. -/
def describeUnsupported (source : Text) (hint : Option Text) (locale : Text) : Text :=
  (DiagramKind.detect source hint none).unsupportedText locale

end DiagramProse
