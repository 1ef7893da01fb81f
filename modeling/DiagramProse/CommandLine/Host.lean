import DiagramProse.Failure

/-!
What a command needs from the place where it runs: its input, files to read and to write. Commands are
written for any host, so the same definition runs on real files and on a folder that is a value.
-/

namespace DiagramProse

structure Host (m : Type → Type) where
  readInput : m (Except FileProblem Text)
  readFile (path : Text) : m (Except FileProblem Text)
  /-- Whether there is a file, and no folder, at a path. -/
  isFile (path : Text) : m Bool
  writeFile (path contents : Text) : m (Except FileProblem Unit)

end DiagramProse
