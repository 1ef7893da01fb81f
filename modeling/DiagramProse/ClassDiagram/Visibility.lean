import DiagramProse.Text.Blank

/-!
Who may see a member of a class, as told by the sign in front of it.
-/

namespace DiagramProse

inductive Visibility where
  | «public»
  | «private»
  | «protected»
  | package
  | unspecified
deriving DecidableEq, Repr

namespace Visibility

def name : Visibility → Text
  | «public» => "public"
  | «private» => "private"
  | «protected» => "protected"
  | package => "package"
  | unspecified => "unspecified"

def ofSign? : Char → Option Visibility
  | '+' => some «public»
  | '-' => some «private»
  | '#' => some «protected»
  | '~' => some package
  | _ => none

/-- Takes the sign off the front of a text. -/
def split (s : Text) : Visibility × Text :=
  match s.trimStart with
  | [] => (unspecified, [])
  | c :: rest =>
    match ofSign? c with
    | some v => (v, Text.trimStart rest)
    | none => (unspecified, c :: rest)

end Visibility

end DiagramProse
