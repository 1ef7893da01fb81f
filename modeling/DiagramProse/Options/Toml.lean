import DiagramProse.Options.Fields
import DiagramProse.Toml.Document

/-!
Options in TOML.
-/

namespace DiagramProse

open Text

namespace TomlValue

def text? : TomlValue → Option Text
  | string s => some s
  | _ => none

def flag? : TomlValue → Option Bool
  | boolean b => some b
  | _ => none

def texts? : TomlValue → Option (List Text)
  | array items => items.mapM text?
  | _ => none

/-- A table of strings. A date or time counts as a table with one entry. -/
def textMap? : TomlValue → Option (Keyed Text)
  | table _ entries => entries.mapM fun (key, v) => (text? v).map fun t => (key, t)
  | moment s => some [("$__toml_private_datetime", s)]
  | _ => none

def reader : ValueReader TomlValue := ⟨text?, flag?, texts?, textMap?⟩

end TomlValue

def Options.ofToml (s : Text) : Except OptionsProblem Options :=
  match (Toml.read? s).bind (ofFields? TomlValue.reader) with
  | some o => .ok o
  | none => .error .badToml

end DiagramProse
