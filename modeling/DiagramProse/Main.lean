import DiagramProse.CommandLine.Annotate
import DiagramProse.CommandLine.Describe
import DiagramProse.CommandLine.Folder

/-!
The two commands on real files. The program describes one diagram if its own name says so, and otherwise
annotates a document.
-/

namespace DiagramProse

/-- What a failed operation on a file means. -/
def FileProblem.ofError (e : IO.Error) : FileProblem :=
  match e with
  | .noFileOrDirectory .. => .notFound
  | .inappropriateType _ 20 _ => .notADirectory
  | .inappropriateType .. => .isDirectory
  | .invalidArgument _ 36 _ => .nameTooLong
  | _ => .other (toString e).toList

def attempt {α : Type} (action : IO α) : IO (Except FileProblem α) := do
  match ← action.toBaseIO with
  | .ok a => return .ok a
  | .error e => return .error (.ofError e)

/-- All bytes of a stream. -/
partial def readBytes (stream : IO.FS.Stream) (before : ByteArray) : IO ByteArray := do
  let chunk ← stream.read 65536
  if chunk.isEmpty then return before else readBytes stream (before ++ chunk)

def systemHost : Host IO where
  readInput := do return (← attempt (do readBytes (← IO.getStdin) .empty)).bind decodeUtf8
  readFile path := do return (← attempt (IO.FS.readBinFile (String.ofList path))).bind decodeUtf8
  isFile path := do return (← attempt (IO.FS.readBinFile (String.ofList path))).toOption.isSome
  writeFile path contents := attempt (IO.FS.writeFile (String.ofList path) (String.ofList contents))

end DiagramProse

open DiagramProse

def main (args : List String) : IO UInt32 := do
  let given := args.map String.toList
  let program := ((← IO.appPath).fileStem.getD "").toList
  let outcome ←
    if Text.endsWith program "describe" then DescribeCommand.run systemHost given
    else AnnotateCommand.run systemHost given
  IO.print (String.ofList outcome.output)
  IO.eprint (String.ofList outcome.errorText)
  return outcome.exitCode.toUInt32
