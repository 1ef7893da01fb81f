import DiagramProse.Text.Basic

/-!
The names under which diagram languages are shown.
-/

namespace DiagramProse

/-- The names of the known languages of code fences. -/
def languageNames : List (Text × Text) := [
  ("kroki", "Diagram"),
  ("plantuml", "PlantUML"),
  ("mermaid", "Mermaid"),
  ("graphviz", "GraphViz"),
  ("d2", "D2"),
  ("c4plantuml", "C4 (PlantUML)"),
  ("structurizr", "Structurizr"),
  ("ditaa", "Ditaa"),
  ("erd", "ERD"),
  ("nomnoml", "Nomnoml"),
  ("svgbob", "Svgbob"),
  ("vega", "Vega"),
  ("vegalite", "Vega-Lite"),
  ("wavedrom", "WaveDrom"),
  ("bpmn", "BPMN"),
  ("bytefield", "Bytefield"),
  ("excalidraw", "Excalidraw"),
  ("pikchr", "Pikchr"),
  ("umlet", "UMLet")]

/-- The name of a language; an unknown language is shown as it is written. -/
def languageName (language : Text) : Text := (languageNames.lookup language).getD language

end DiagramProse
