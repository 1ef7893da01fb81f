import DiagramProse.Dialect
import DiagramProse.SequenceDiagram.Basic
import DiagramProse.Text.Quoted

/-!
Reading the declaration of a participant: a keyword, a name and perhaps an alias. In PlantUML the id
stands behind `as` unless a quoted name does, in Mermaid the name does. A name over several lines
whose first line ends in a colon gives the type on the others.
-/

namespace DiagramProse

open Text

def participantKeywords : List Text :=
  ["participant", "actor", "boundary", "control", "entity", "database", "collections", "queue"]

/-- The declaration without colour, stereotype and order, whichever comes first. -/
def dropDecorations (s : Text) : Text :=
  let ends := ([" #", " <<", " order "] : List Text).filterMap fun marker =>
    (cut? marker s).map fun (before, _) => before.length
  trim (s.take (ends.foldl min s.length))

/-- The name and the type in a displayed name, in which line breaks are written out. -/
def splitDisplay (display id : Text) : Text × Option Text :=
  match ((splitOn "\\n" display).map trim).filter fun piece => !piece.isEmpty with
  | [] => (id, none)
  | name :: rest =>
    if name.endsWith [':'] && !rest.isEmpty then
      let bare := trim (dropEndWhile (· == ':') name)
      (if bare.isEmpty then id else bare, some (join [' '] rest))
    else (join [' '] (name :: rest), none)

namespace Participant

def ofDisplay (id display : Text) (isActor : Bool) : Participant :=
  let (displayName, typeName) := splitDisplay display id
  { id, displayName, typeName, isActor }

/-- A quoted name, behind which an id may follow; without one the name is the id. -/
def ofQuoted? (s : Text) (isActor : Bool) : Option Participant :=
  (cutAt? (· == '"') s).map fun (display, after) =>
    let id := (dropPrefix? after.trim "as").bind fun id => nonempty? (unquote id)
    ofDisplay (id.getD display) display isActor

/-- A name with an alias behind it, in Mermaid perhaps with a type behind a colon. -/
def ofAlias (dialect : Dialect) (first second : Text) (isActor : Bool) : Participant :=
  match dialect with
  | .plantUml =>
    if second.startsWith ['"'] then ofDisplay first (unquote second) isActor
    else ofDisplay (unquote second) first isActor
  | .mermaid =>
    match cutAt? (· == ':') second with
    | some (name, type) => ⟨first, unquote (trim name), nonempty? (trim type), isActor⟩
    | none => ⟨first, unquote second, none, isActor⟩

def ofDeclaration? (dialect : Dialect) (s : Text) (isActor : Bool) : Option Participant :=
  match s with
  | [] => none
  | '"' :: quoted => ofQuoted? quoted isActor
  | s =>
    match cut? " as " s with
    | some (first, second) => some (ofAlias dialect (trim first) (trim second) isActor)
    | none =>
      let id := unquote s
      some ⟨id, id, none, isActor⟩

def read? (dialect : Dialect) (line : Text) : Option Participant := do
  let (keyword, rest) ← cutAt? isBlank line
  guard (participantKeywords.contains keyword)
  ofDeclaration? dialect (dropDecorations (trim rest)) (keyword == ("actor" : Text))

end Participant

end DiagramProse
