import DiagramProse.CommandLine.Arguments
import DiagramProse.Text.Shown

/-!
How a command ends: its exit code, what it writes to its output, and the message with which it fails.
-/

namespace DiagramProse

open Text

structure Outcome where
  exitCode : Nat
  output : Text := []
  failure : Option Text := none
deriving DecidableEq, Repr

namespace Outcome

def success (output : Text) : Outcome := ⟨0, output, none⟩

def fail (message : Text) : Outcome := ⟨1, [], some message⟩

/-- A command that does not run tells its version or how it is used, or refuses what it was given. -/
def ofRefusal (command : Text) : Refusal → Outcome
  | .misuse => ⟨2, [], none⟩
  | .version => success (command ++ " 0.4.0\n")
  | .help => success ("Usage: " ++ command ++ " [OPTIONS] <INPUT>\n")

def ofResult : Except Text Text → Outcome
  | .ok output => success output
  | .error message => fail message

/-- What is written to the error output. -/
def errorText (o : Outcome) : Text :=
  match o.failure with
  | some message => "Error: " ++ shown message ++ ['\n']
  | none => []

end Outcome

end DiagramProse
