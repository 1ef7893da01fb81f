import DiagramProse.CommandLine.Host
import DiagramProse.CommandLine.Outcome

/-!
What commands do with their host: the steps fail with the message that is shown.
-/

namespace DiagramProse

/-- Steps of a command on a host. -/
abbrev Command (m : Type → Type) := ExceptT Text m

namespace Command

variable {m : Type → Type} [Monad m]

/-- A step that may meet a problem with a file; `label` says what was tried. -/
def onFile {α : Type} (label : Text) (step : m (Except FileProblem α)) : Command m α :=
  ExceptT.mk do return (← step).mapError fun p => label ++ p.message

/-- The text of the file with the given path, or the standard input if a hyphen is given. -/
def readText (h : Host m) (path : Text) : Command m Text :=
  if path = ['-'] then onFile "Failed to read from stdin: " h.readInput
  else onFile "Failed to read input file: " (h.readFile path)

/-- Runs a command with the given name and options: `body` gives its output. -/
def run (name : Text) (specs : List OptionSpec) (args : List Text)
    (body : (input : Text) → Arguments → Command m Text) : m Outcome :=
  match Arguments.read (specs ++ Arguments.standardSpecs) args with
  | .error refusal => return .ofRefusal name refusal
  | .ok a => do return .ofResult (← ExceptT.run (body (a.input.getD []) a))

end Command

end DiagramProse
