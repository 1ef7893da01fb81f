import DiagramProse.ClassDiagram.Member
import DiagramProse.ClassDiagram.Relation

/-!
Reading the declaration of a class: a keyword, a name that may be quoted or followed by a generic
suffix, and then an alias and the classes it descends from. A stereotype may stand anywhere, a body
may open at the end or stand on the same line.
-/

namespace DiagramProse

open Text

structure ClassDeclaration where
  name : Text
  stereotype : Option Stereotype
  parents : List (Text × RelationKind)
  opensBody : Bool
  inlineMembers : List Text
deriving DecidableEq, Repr

/-- The words a declaration begins with, and the stereotypes they imply. -/
def classKeywords : List (Text × Option Stereotype) := [
  ("abstract class ", some .abstract),
  ("abstract ", some .abstract),
  ("class ", none),
  ("interface ", some .interface),
  ("enumeration ", some .enumeration),
  ("enum ", some .enumeration),
  ("entity ", none),
  ("annotation ", none)]

/-- What is left of a declaration, whether it opens a body, and the members of a body on its line. -/
def splitBody (rest : Text) : Text × Bool × List Text :=
  match dropSuffix? rest ['\x7b'] with
  | some head => (trim head, true, [])
  | none =>
    match (dropSuffix? rest ['\x7d']).bind (cutAt? (· == '\x7b')) with
    | some (head, body) =>
      (trim head, false, ((splitBy (· == ';') body).map trim).filter fun m => !m.isEmpty)
    | none => (rest, false, [])

/-- Takes out a stereotype between double angle brackets. The closing ones must not come first. -/
def splitStereotype (rest : Text) : Option Stereotype × Text :=
  match cut? "<<" rest, cut? ">>" rest with
  | some (before, _), some (upToEnd, after) =>
    if before.length < upToEnd.length then
      (some (.ofLabel (upToEnd.drop (before.length + 2))), before ++ ' ' :: after)
    else (none, rest)
  | _, _ => (none, rest)

/-- The text before the first occurrence of `p`. -/
def Text.upTo (p s : Text) : Text := ((cut? p s).map Prod.fst).getD s

/-- What follows the generic suffix in angle brackets, of which `depth` are open. -/
def afterAngles : (depth : Nat) → Text → Text
  | _, [] => []
  | depth, c :: s =>
    if c = '<' then afterAngles (depth + 1) s
    else if c = '>' then if depth ≤ 1 then trim s else afterAngles (depth - 1) s
    else afterAngles depth s

/-- What follows a class name and its generic suffix; a suffix that is never closed hides the rest. -/
def skipGeneric : Text → Text
  | '<' :: s => afterAngles 1 s
  | '~' :: s => ((cutAt? (· == '~') s).map fun (_, after) => trim after).getD []
  | s => trim s

/-- The name as written and what follows it; none if a quote is not closed. -/
def splitName? (rest : Text) : Option (Text × Text) :=
  match rest with
  | '"' :: s => (cutAt? (· == '"') s).map fun (name, after) => (name, trim after)
  | s =>
    let name := s.takeWhile fun c => !(isBlank c || c == '<' || c == '~')
    some (name, skipGeneric (s.drop name.length))

/-- Reads the words behind a name: another name, if one is given, and the parents. `kind` tells which
list of parents is being read. -/
def readClauses : (kind : Option RelationKind) → List Text → Option Text × List (Text × RelationKind)
  | _, [] => (none, [])
  | kind, word :: rest =>
    if word = "extends" then readClauses (some .inheritance) rest
    else if word = "implements" then readClauses (some .implementation) rest
    else
      match kind with
      | some k =>
        let (other?, parents) := readClauses kind rest
        let named := (splitBy (· == ',') word).filter fun p => !p.isEmpty
        (other?, named.map (·, k) ++ parents)
      | none =>
        if word = "as" then
          match rest with
          | [] => (none, [])
          | name :: rest =>
            let (later?, parents) := readClauses none rest
            (later? <|> some name, parents)
        else readClauses none rest

def ClassDeclaration.read? (line : Text) : Option ClassDeclaration := do
  let (rest, implied) ← classKeywords.findSome? fun (keyword, stereotype) =>
    (dropPrefix? line keyword).map fun rest => (trim rest, stereotype)
  let (rest, opensBody, inlineMembers) := splitBody rest
  let (given, rest) := splitStereotype rest
  let (rawName, after) ← splitName? (trim (upTo ['['] (upTo ":::" rest)))
  let (other?, parents) := readClauses none (words after)
  let name := other?.getD (trim rawName)
  guard ((isClassName name || rawName.contains [' ']) && !name.isEmpty)
  return ⟨name, given <|> implied, parents, opensBody, inlineMembers⟩

end DiagramProse
