import DiagramProse.Diagram.Basic
import DiagramProse.Json.Value

/-!
Diagrams as JSON.
-/

namespace DiagramProse

open JsonValue

/-- A record with fields of the given names. -/
def record (fields : List (String × JsonValue)) : JsonValue :=
  object (fields.map fun (name, value) => (name.toList, value))

/-- One of a fixed set of words. -/
def word (s : String) : JsonValue := string s.toList

def listOf {α : Type} (f : α → JsonValue) (xs : List α) : JsonValue := list (xs.map f)

def optionalText : Option Text → JsonValue := optional string

def Diagnostic.json {Problem : Type} (message : Problem → Text) (d : Diagnostic Problem) : JsonValue :=
  record [("line", natural d.line), ("message", string (message d.problem))]

/-! ## Class diagrams -/

def Stereotype.json : Stereotype → JsonValue
  | .interface => record [("kind", word "interface")]
  | .abstract => record [("kind", word "abstract")]
  | .enumeration => record [("kind", word "enumeration")]
  | .custom label => record [("kind", word "custom"), ("label", string label)]

def Attribute.json (a : Attribute) : JsonValue := record [
  ("visibility", string a.visibility.name),
  ("name", string a.name),
  ("type_name", optionalText a.typeName)]

def Parameter.json (p : Parameter) : JsonValue := record [
  ("name", string p.name),
  ("type_name", optionalText p.typeName)]

def Method.json (m : Method) : JsonValue := record [
  ("visibility", string m.visibility.name),
  ("name", string m.name),
  ("parameters", listOf Parameter.json m.parameters),
  ("return_type", optionalText m.returnType)]

def Classifier.json (c : Classifier) : JsonValue := record [
  ("name", string c.name),
  ("stereotype", optional Stereotype.json c.stereotype),
  ("attributes", listOf Attribute.json c.attributes),
  ("methods", listOf Method.json c.methods)]

def RelationKind.json : RelationKind → JsonValue
  | .inheritance => word "inheritance"
  | .implementation => word "implementation"
  | .association => word "association"
  | .aggregation => word "aggregation"
  | .composition => word "composition"
  | .dependency => word "dependency"

def Relation.json (r : Relation) : JsonValue := record [
  ("from", string r.source),
  ("to", string r.target),
  ("kind", r.kind.json),
  ("label", optionalText r.label),
  ("multiplicity_from", optionalText r.sourceMultiplicity),
  ("multiplicity_to", optionalText r.targetMultiplicity),
  ("reverse", bool r.reverse)]

def ClassNote.json (n : ClassNote) : JsonValue := record [
  ("class_name", string n.className),
  ("text", string n.text)]

def ClassDiagram.diagnosticsJson (d : ClassDiagram) : JsonValue :=
  listOf (Diagnostic.json ClassProblem.message) d.diagnostics

def ClassDiagram.json (d : ClassDiagram) : JsonValue := record [
  ("classes", object (d.classes.map fun c => (c.name, c.json))),
  ("relations", listOf Relation.json d.relations),
  ("notes", listOf ClassNote.json d.notes),
  ("diagnostics", d.diagnosticsJson)]

/-! ## Sequence diagrams -/

def Participant.json (p : Participant) : JsonValue := record [
  ("id", string p.id),
  ("display_alias", string p.displayName),
  ("type_name", optionalText p.typeName),
  ("is_actor", bool p.isActor)]

def MessageKind.json : MessageKind → JsonValue
  | .call => word "call"
  | .response => word "response"

def Message.json (m : Message) : JsonValue := record [
  ("from", string m.sender),
  ("to", string m.receiver),
  ("text", string m.text),
  ("kind", m.kind.json),
  ("is_method_call", bool m.isMethodCall),
  ("is_external_origin", bool m.isExternal)]

def SequenceDiagram.json (d : SequenceDiagram) : JsonValue := record [
  ("participants", listOf Participant.json d.participants),
  ("messages", listOf Message.json d.messages),
  ("has_autonumber", bool d.isNumbered)]

/-! ## Activity diagrams -/

mutual

def FlowElement.json : FlowElement → JsonValue
  | .start => record [("type", word "start")]
  | .stop => record [("type", word "stop")]
  | .finish => record [("type", word "end")]
  | .activity s => record [("type", word "activity"), ("text", string s)]
  | .decision condition yes no => record [
      ("type", word "decision"),
      ("condition", string condition),
      ("yes_branch", list (flowJson yes)),
      ("no_branch", list (flowJson no))]
  | .partition name elements => record [
      ("type", word "partition"),
      ("name", string name),
      ("elements", list (flowJson elements))]
  | .whileLoop condition value exit elements => record [
      ("type", word "while"),
      ("condition", string condition),
      ("condition_value", optionalText value),
      ("exit_condition", optionalText exit),
      ("elements", list (flowJson elements))]
  | .repeatLoop condition elements => record [
      ("type", word "repeat"),
      ("condition", string condition),
      ("elements", list (flowJson elements))]
  | .fork branches => record [("type", word "fork"), ("branches", list (branchesJson branches))]

def flowJson : List FlowElement → List JsonValue
  | [] => []
  | e :: es => e.json :: flowJson es

def branchesJson : List (List FlowElement) → List JsonValue
  | [] => []
  | b :: bs => list (flowJson b) :: branchesJson bs

end

def ActivityDiagram.diagnosticsJson (d : ActivityDiagram) : JsonValue :=
  listOf (Diagnostic.json FlowProblem.message) d.diagnostics

def ActivityDiagram.json (d : ActivityDiagram) : JsonValue := record [
  ("elements", list (flowJson d.elements)),
  ("activity_count", natural d.activityCount),
  ("decision_count", natural d.decisionCount),
  ("partition_count", natural d.partitionCount),
  ("diagnostics", d.diagnosticsJson)]

/-! ## State diagrams -/

def Transition.json (t : Transition) : JsonValue := record [
  ("from", string t.source),
  ("to", string t.target),
  ("label", optionalText t.label)]

def StateDiagram.json (d : StateDiagram) : JsonValue := record [
  ("states", listOf string d.states),
  ("labels", object (d.labels.map fun l => (l.state, string l.label))),
  ("transitions", listOf Transition.json d.transitions),
  ("initial_state", optionalText d.initial),
  ("final_states", listOf string d.finals)]

/-! ## C4 diagrams -/

def C4Actor.json (a : C4Actor) : JsonValue := record [
  ("id", string a.id),
  ("name", string a.name),
  ("description", string a.description),
  ("external", bool a.isExternal)]

def C4SystemKind.json : C4SystemKind → JsonValue
  | .system => word "system"
  | .database => word "database"
  | .queue => word "queue"

def C4System.json (x : C4System) : JsonValue := record [
  ("id", string x.id),
  ("name", string x.name),
  ("description", string x.description),
  ("kind", x.kind.json),
  ("external", bool x.isExternal)]

def C4ContainerKind.json : C4ContainerKind → JsonValue
  | .container => word "container"
  | .database => word "database"
  | .queue => word "queue"
  | .boundary => word "boundary"
  | .systemBoundary => word "system_boundary"

def C4Container.json (c : C4Container) : JsonValue := record [
  ("id", string c.id),
  ("name", string c.name),
  ("technology", optionalText c.technology),
  ("description", string c.description),
  ("kind", c.kind.json),
  ("external", bool c.isExternal)]

def C4Component.json (c : C4Component) : JsonValue := record [
  ("id", string c.id),
  ("name", string c.name),
  ("technology", optionalText c.technology),
  ("description", string c.description),
  ("database", bool c.isDatabase)]

def C4Relationship.json (r : C4Relationship) : JsonValue := record [
  ("source", string r.source),
  ("target", string r.target),
  ("label", string r.label),
  ("technology", optionalText r.technology),
  ("bidirectional", bool r.isBidirectional)]

def C4Level.json : C4Level → JsonValue
  | .context => word "context"
  | .container => word "container"
  | .component => word "component"

def C4Diagram.json (d : C4Diagram) : JsonValue := record [
  ("kind", d.level.json),
  ("actors", listOf C4Actor.json d.actors),
  ("systems", listOf C4System.json d.systems),
  ("containers", listOf C4Container.json d.containers),
  ("components", listOf C4Component.json d.components),
  ("relationships", listOf C4Relationship.json d.relationships)]

/-! ## Pie charts -/

def PieSegment.json (s : PieSegment) : JsonValue := record [
  ("label", string s.label),
  ("value", number s.value)]

def PieChart.json (c : PieChart) : JsonValue := record [
  ("title", optionalText c.title),
  ("show_data", bool c.showData),
  ("segments", listOf PieSegment.json c.segments)]

/-! ## Diagrams of all kinds -/

namespace Diagram

/-- The diagram under the name of its kind. -/
def json : Diagram → JsonValue
  | .classes d => record [("kind", word "class"), ("model", d.json)]
  | .sequence d => record [("kind", word "sequence"), ("model", d.json)]
  | .activity d => record [("kind", word "activity"), ("model", d.json)]
  | .state d => record [("kind", word "state"), ("model", d.json)]
  | .c4 d => record [("kind", word "c4"), ("model", d.json)]
  | .pie c => record [("kind", word "pie"), ("model", c.json)]

/-- The remarks of the reader, for kinds that have any. -/
def diagnosticsJson : Diagram → JsonValue
  | .classes d => d.diagnosticsJson
  | .activity d => d.diagnosticsJson
  | _ => list []

end Diagram

/-- The kind and the notation of a source, and the diagram if it can be read, as the text of a JSON
value. -/
def sourceJson (source : Text) (hint : Option Text) (dialect : Option Dialect) :
    Except Failure Text := do
  let (kind, dialect, diagram?) ← readSource source hint dialect
  let known := [("kind", string kind.id), ("dialect", string dialect.name)]
  let parsed := match diagram? with
    | some d => [("diagnostics", d.diagnosticsJson), ("parsed", d.json)]
    | none => []
  return (record (known ++ parsed)).pretty 0

end DiagramProse
