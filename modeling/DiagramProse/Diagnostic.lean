import DiagramProse.Text.Basic

/-!
Remarks of a reader on lines that it could not make sense of. A remark never stops the reading.
-/

namespace DiagramProse

/-- What is wrong, and the line it concerns, counted from 1. -/
structure Diagnostic (Problem : Type) where
  line : Nat
  problem : Problem
deriving DecidableEq, Repr

end DiagramProse
