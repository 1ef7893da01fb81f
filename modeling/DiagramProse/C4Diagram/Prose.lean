import DiagramProse.C4Diagram.Basic
import DiagramProse.Html.Fragment
import DiagramProse.Locale
import DiagramProse.Text.LowerCase
import DiagramProse.Text.Template

/-!
The description of a C4 diagram: a title, and one list with counts of what there is, the finest
elements and the relationships one by one. English stands in for unknown languages.
-/

namespace DiagramProse

open Text Html

/-- A phrase for one thing and a phrase for any other number of them. -/
structure CountWords where
  one : Text
  many : Text

def CountWords.say (w : CountWords) (n : Nat) : Text := countPhrase n w.one w.many

/-- The words in which C4 diagrams are described. -/
structure C4Phrases where
  contextTitle : Text
  containerTitle : Text
  containerTitleNamed : Text
  componentTitle : Text
  componentTitleNamed : Text
  actors : CountWords
  systems : CountWords
  internalSystems : CountWords
  externalSystems : CountWords
  containers : CountWords
  components : CountWords
  relationships : CountWords
  database : Text
  queue : Text
  outside : Text
  relatedTo : Text
  bothDirections : Text

namespace C4Phrases

def english : C4Phrases where
  contextTitle := "C4 System Context diagram with:"
  containerTitle := "C4 Container diagram with:"
  containerTitleNamed := "C4 Container diagram of {name} with:"
  componentTitle := "C4 Component diagram with:"
  componentTitleNamed := "C4 Component diagram of {name} with:"
  actors := ⟨"{count} actor", "{count} actors"⟩
  systems := ⟨"{count} system", "{count} systems"⟩
  internalSystems := ⟨"{count} internal system", "{count} internal systems"⟩
  externalSystems := ⟨"{count} external system", "{count} external systems"⟩
  containers := ⟨"{count} container", "{count} containers"⟩
  components := ⟨"{count} component", "{count} components"⟩
  relationships := ⟨"{count} relationship", "{count} relationships"⟩
  database := "database"
  queue := "queue"
  outside := "external"
  relatedTo := "is related to"
  bothDirections := "in both directions"

def dutch : C4Phrases where
  contextTitle := "C4-systeemcontextdiagram met:"
  containerTitle := "C4-containerdiagram met:"
  containerTitleNamed := "C4-containerdiagram van {name} met:"
  componentTitle := "C4-componentdiagram met:"
  componentTitleNamed := "C4-componentdiagram van {name} met:"
  actors := ⟨"{count} actor", "{count} actoren"⟩
  systems := ⟨"{count} systeem", "{count} systemen"⟩
  internalSystems := ⟨"{count} intern systeem", "{count} interne systemen"⟩
  externalSystems := ⟨"{count} extern systeem", "{count} externe systemen"⟩
  containers := ⟨"{count} container", "{count} containers"⟩
  components := ⟨"{count} component", "{count} componenten"⟩
  relationships := ⟨"{count} relatie", "{count} relaties"⟩
  database := "database"
  queue := "wachtrij"
  outside := "extern"
  relatedTo := "is verbonden met"
  bothDirections := "in beide richtingen"

def of (l : Locale) : C4Phrases := l.pick english dutch

end C4Phrases

/-! ## Items -/

/-- How many things there are and what they are called. -/
def namedCount (w : CountWords) (names : List Text) : Text :=
  let count := escape (w.say names.length)
  if names.isEmpty then count else count ++ ": " ++ escape (join ", " names)

/-- A count, and a list of what is counted below it. -/
def countItem (w : CountWords) (n : Nat) (texts : List Text) : Item :=
  .mk (escape (w.say n) ++ [':']) [.ofLeaves false texts]

/-- An element with its tags and its technology in parentheses, and its description. -/
def elementText (name : Text) (tags : List Text) (technology : Option Text) (description : Text) :
    Text :=
  let notes := tags ++ technology.toList
  let noted := if notes.isEmpty then name else name ++ " (" ++ join ", " notes ++ ")"
  escape (if description.isEmpty then noted else noted ++ ": " ++ description)

def C4Container.describe (p : C4Phrases) (c : C4Container) : Text :=
  let kind := match c.kind with
    | .database => [p.database]
    | .queue => [p.queue]
    | _ => []
  elementText c.name (kind ++ if c.isExternal then [p.outside] else []) c.technology c.description

def C4Component.describe (p : C4Phrases) (c : C4Component) : Text :=
  elementText c.name (if c.isDatabase then [p.database] else []) c.technology c.description

namespace C4Diagram

/-- Two systems or more are told apart as internal and external ones. -/
def systemsItem (d : C4Diagram) (p : C4Phrases) : Item :=
  if d.systems.length ≤ 1 then .leaf (namedCount p.systems (d.systems.map C4System.name))
  else
    let (outside, inside) := d.systems.partition C4System.isExternal
    let part (w : CountWords) (systems : List C4System) : List Text :=
      if systems.isEmpty then [] else [namedCount w (systems.map C4System.name)]
    countItem p.systems d.systems.length (part p.internalSystems inside ++ part p.externalSystems outside)

/-- Actors and systems, if there are any. -/
def surroundings (d : C4Diagram) (p : C4Phrases) : List Item :=
  (if d.actors.isEmpty then [] else [.leaf (namedCount p.actors (d.actors.map C4Actor.name))]) ++
    if d.systems.isEmpty then [] else [d.systemsItem p]

def properContainers (d : C4Diagram) : List C4Container :=
  d.containers.filter fun c => !c.kind.isBoundary

/-- The name of the first boundary of a kind, the kinds in order of preference. -/
def boundaryName? (d : C4Diagram) (kinds : List C4ContainerKind) : Option Text :=
  kinds.findSome? fun kind => (d.containers.find? fun c => c.kind = kind).map C4Container.name

def title (d : C4Diagram) (p : C4Phrases) : Text :=
  match d.level with
  | .context => p.contextTitle
  | .container =>
    match d.boundaryName? [.systemBoundary, .boundary] with
    | some name => fill p.containerTitleNamed [("name", name)]
    | none => p.containerTitle
  | .component =>
    match d.boundaryName? [.boundary, .systemBoundary] with
    | some name => fill p.componentTitleNamed [("name", name)]
    | none => p.componentTitle

def elementItems (d : C4Diagram) (p : C4Phrases) : List Item :=
  let containers := d.properContainers
  match d.level with
  | .context => [.leaf (namedCount p.actors (d.actors.map C4Actor.name)), d.systemsItem p]
  | .container =>
    d.surroundings p
      ++ [countItem p.containers containers.length (containers.map (C4Container.describe p))]
  | .component =>
    d.surroundings p
      ++ (if containers.isEmpty then [] else
        [.leaf (namedCount p.containers (containers.map C4Container.name))])
      ++ [countItem p.components d.components.length (d.components.map (C4Component.describe p))]

def relationshipText (d : C4Diagram) (p : C4Phrases) (r : C4Relationship) : Text :=
  let verb := if r.label.isEmpty then p.relatedTo else lowerFirst r.label
  let technology := r.technology.toList.map fun t => '(' :: t ++ [')']
  let directions := if r.isBidirectional then [p.bothDirections] else []
  join [' '] ([d.nameOf r.source, verb, d.nameOf r.target] ++ technology ++ directions)

def relationshipItems (d : C4Diagram) (p : C4Phrases) : List Item :=
  if d.relationships.isEmpty then [] else
    [countItem p.relationships d.relationships.length
      (d.relationships.map fun r => escape (d.relationshipText p r))]

def describeWith (p : C4Phrases) (d : C4Diagram) : Fragment :=
  [.paragraph (escape (d.title p)), .list (.mk false (d.elementItems p ++ d.relationshipItems p))]

def describe (d : C4Diagram) (locale : Text) : Fragment :=
  d.describeWith (.of (.resolve locale .en))

end C4Diagram

end DiagramProse
