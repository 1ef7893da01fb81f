import DiagramProse.CommandLine.Command
import DiagramProse.Diagram.Json

/-!
The command that describes one diagram, in prose or as JSON.
-/

namespace DiagramProse

open Text

namespace DescribeCommand

variable {m : Type → Type} [Monad m]

def name : Text := "kroki-a11y-describe"

def specs : List OptionSpec := [
  ⟨"type", some 't', .text⟩, ⟨"dialect", some 'd', .text⟩, ⟨"locale", some 'l', .text⟩,
  ⟨"json", none, .flag⟩]

/-- The notation that is asked for, if any. -/
def dialect? (name : Option Text) : Except Text (Option Dialect) :=
  match name with
  | none => .ok none
  | some n =>
    match Dialect.ofName? n with
    | some d => .ok (some d)
    | none => .error ("Unknown dialect '" ++ n ++ "' (use plantuml or mermaid)")

def body (h : Host m) (input : Text) (a : Arguments) : Command m Text := do
  let dialect ← (dialect? (a.value? "dialect") : Except Text (Option Dialect))
  let source ← Command.readText h input
  let hint := a.value? "type"
  if a.hasFlag "json" then
    let json ← ((sourceJson source hint dialect).mapError fun f =>
      "Failed to build JSON: ".toList ++ f.message : Except Text Text)
    return json ++ ['\n']
  else return describeDiagram source hint dialect ((a.value? "locale").getD "en") ++ ['\n']

def run (h : Host m) (args : List Text) : m Outcome := Command.run name specs args (body h)

end DescribeCommand

end DiagramProse
