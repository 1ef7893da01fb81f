import DiagramProse.CommandLine.Command
import DiagramProse.Markdown.Annotate
import DiagramProse.Options.File

/-!
The command that adds descriptions to the diagrams of a document.
-/

namespace DiagramProse

open Text

namespace AnnotateCommand

variable {m : Type → Type} [Monad m]

def name : Text := "kroki-a11y"

def specs : List OptionSpec := [
  ⟨"output", some 'o', .path⟩, ⟨"config", some 'c', .path⟩, ⟨"locale", some 'l', .text⟩]

/-- The options in a file, or those of a preset if there is no such file. -/
def loadOptions (h : Host m) (config : Option Text) : Command m Options :=
  match config with
  | none => return {}
  | some path => do
    if ← h.isFile path then
      let contents ← Command.onFile "Failed to load config: " (h.readFile path)
      ((Options.ofFile path contents).mapError fun p =>
        "Failed to load config: ".toList ++ (Failure.options p).message : Except Text Options)
    else ((Options.preset? path).mapError fun p => (Failure.options p).message : Except Text Options)

/-- The annotated document goes to a file, if one is given. -/
def body (h : Host m) (input : Text) (a : Arguments) : Command m Text := do
  let options ← loadOptions h (a.value? "config")
  let document ← Command.readText h input
  let annotated := Markdown.annotate document
    { options with locale := (a.value? "locale").getD options.locale }
  match a.value? "output" with
  | none => return annotated
  | some path => do
    Command.onFile "Failed to write output: " (h.writeFile path annotated)
    return []

def run (h : Host m) (args : List Text) : m Outcome := Command.run name specs args (body h)

end AnnotateCommand

end DiagramProse
