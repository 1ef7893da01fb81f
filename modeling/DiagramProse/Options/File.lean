import DiagramProse.Options.Toml
import DiagramProse.Options.Yaml

/-!
Options in files. The extension of the file name tells the notation; without one that is known, TOML is
tried before YAML.
-/

namespace DiagramProse

open Text

/-- The last part of a path. A path that ends in two dots has none. -/
def fileName? (path : Text) : Option Text :=
  let parts := (path.splitBy (· == '/')).filter fun part => !part.isEmpty && part != ['.']
  parts.getLast?.filter (· != ['.', '.'])

/-- What stands behind the last dot of a file name that does not begin with it. -/
def extension? (path : Text) : Option Text := do
  let (stem, extension) ← cutAtLast? (· == '.') (← fileName? path)
  if stem.isEmpty then none else some extension

/-- The options in the contents of a file. -/
def Options.ofFile (path contents : Text) : Except OptionsProblem Options :=
  let extension := ((extension? path).map lowerAscii).getD []
  if extension = "toml" then ofToml contents
  else if extension = "yaml" ∨ extension = "yml" then ofYaml contents
  else
    match ofToml contents, ofYaml contents with
    | .ok o, _ => .ok o
    | _, .ok o => .ok o
    | _, _ => .error (.unreadable path)

end DiagramProse
