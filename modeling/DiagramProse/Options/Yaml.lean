import DiagramProse.Options.Fields
import DiagramProse.Yaml.Node

/-!
Options in YAML. Any scalar may stand for a text; where nothing is written, a list or a mapping is empty.
-/

namespace DiagramProse

open Text

namespace Yaml.Document

def text? (d : Document) (n : Node) : Option Text :=
  match d.target n with
  | .scalar _ _ text => some text
  | _ => none

/-- A truth value is written without quotes, or as a block with the tag of truth values. -/
def flag? (d : Document) (n : Node) : Option Bool :=
  match d.target n with
  | .scalar style tag text =>
    if style = .plain ∨ (style = .literal ∧ tag = some "tag:yaml.org,2002:bool".toList) then
      if text = "true" ∨ text = "True" ∨ text = "TRUE" then some true
      else if text = "false" ∨ text = "False" ∨ text = "FALSE" then some false
      else none
    else none
  | _ => none

def texts? (d : Document) (n : Node) : Option (List Text) :=
  match d.target n with
  | .sequence items => items.mapM d.text?
  | .scalar .plain _ [] => some []
  | _ => none

/-- The pairs of a mapping whose keys are scalars. -/
def fields? (d : Document) (n : Node) : Option (List (Text × Node)) :=
  match d.target n with
  | .mapping pairs => pairs.mapM fun (key, value) => (d.text? key).map fun k => (k, value)
  | .scalar .plain _ [] => some []
  | _ => none

/-- A mapping of texts; of several values under one key the last counts. -/
def textMap? (d : Document) (n : Node) : Option (Keyed Text) := do
  let pairs ← (← d.fields? n).mapM fun (key, value) => (d.text? value).map fun t => (key, t)
  return pairs.foldl (fun m (key, t) => Keyed.put key t m) []

def reader (d : Document) : ValueReader Node := ⟨d.text?, d.flag?, d.texts?, d.textMap?⟩

/-- The fields of options: a mapping that has each of them at most once. -/
def optionFields? (d : Document) : Option (Keyed Node) :=
  (d.fields? d.root).filter fun fields =>
    decide ((fields.map Prod.fst).filter Options.fieldNames.contains).Nodup

end Yaml.Document

def Options.ofYaml (s : Text) : Except OptionsProblem Options :=
  let options : Option Options := do
    let d ← Yaml.read? s
    Options.ofFields? d.reader (← d.optionFields?)
  match options with
  | some o => .ok o
  | none => .error .badYaml

end DiagramProse
