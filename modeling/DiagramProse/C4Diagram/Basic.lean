import DiagramProse.Text.Basic

/-!
C4 diagrams: the people, systems, containers and components of a software system, and what relates
them. A diagram shows as much detail as its finest elements.
-/

namespace DiagramProse

structure C4Actor where
  id : Text
  name : Text
  description : Text
  isExternal : Bool
deriving DecidableEq, Repr

inductive C4SystemKind where
  | system
  | database
  | queue
deriving DecidableEq, Repr

structure C4System where
  id : Text
  name : Text
  description : Text
  kind : C4SystemKind
  isExternal : Bool
deriving DecidableEq, Repr

/-- Boundaries are containers of which only the name is told. -/
inductive C4ContainerKind where
  | container
  | database
  | queue
  | boundary
  | systemBoundary
deriving DecidableEq, Repr

def C4ContainerKind.isBoundary : C4ContainerKind → Bool
  | boundary | systemBoundary => true
  | _ => false

structure C4Container where
  id : Text
  name : Text
  technology : Option Text
  description : Text
  kind : C4ContainerKind
  isExternal : Bool
deriving DecidableEq, Repr

structure C4Component where
  id : Text
  name : Text
  technology : Option Text
  description : Text
  isDatabase : Bool
deriving DecidableEq, Repr

structure C4Relationship where
  source : Text
  target : Text
  label : Text
  technology : Option Text
  isBidirectional : Bool
deriving DecidableEq, Repr

/-- The level of detail of a diagram. -/
inductive C4Level where
  | context
  | container
  | component
deriving DecidableEq, Repr

structure C4Diagram where
  level : C4Level
  actors : List C4Actor
  systems : List C4System
  containers : List C4Container
  components : List C4Component
  relationships : List C4Relationship
deriving DecidableEq, Repr

namespace C4Diagram

def empty : C4Diagram := ⟨.context, [], [], [], [], []⟩

/-- The finest level of which there is an element; boundaries do not count. -/
def finestLevel (d : C4Diagram) : C4Level :=
  if !d.components.isEmpty then .component
  else if d.containers.any fun c => !c.kind.isBoundary then .container
  else .context

/-- The name of the first element with an id, the coarser elements first; an id that no element has
stands for itself. -/
def nameOf (d : C4Diagram) (id : Text) : Text :=
  (((d.actors.find? fun a => a.id = id).map C4Actor.name)
    <|> ((d.systems.find? fun s => s.id = id).map C4System.name)
    <|> ((d.containers.find? fun c => c.id = id).map C4Container.name)
    <|> ((d.components.find? fun c => c.id = id).map C4Component.name)).getD id

end C4Diagram

end DiagramProse
