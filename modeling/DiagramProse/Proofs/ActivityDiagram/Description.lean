import DiagramProse.ActivityDiagram.Prose
import DiagramProse.Proofs.Html.Written

/-!
The description of an activity diagram leaves out no activity. The elements of the diagram are listed in the
order of the document, without regard to how they are described (`FlowElement.nodes`), and the texts of the
activities among them stand in the description one behind the other (`ActivityDiagram.describe_holds`).

Outside decisions the lists of the description are nested as the elements are. In a decision all that is within
the branches comes into one item. So the order is told of items (`flowItems_hold`), of whatever depth, and of the
text of a decision (`decisionText_holds`), both by the texts that the walk of the diagram gives.
-/

namespace DiagramProse

open Text Html

/-! ## The order of the document -/

namespace FlowElement

mutual

/-- An element and all that is within it, in the order of the document: each in front of what is within it. -/
def nodes : FlowElement → List FlowElement
  | start => [start]
  | stop => [stop]
  | finish => [finish]
  | activity text => [activity text]
  | decision condition yes no => decision condition yes no :: (nodesOf yes ++ nodesOf no)
  | partition name elements => partition name elements :: nodesOf elements
  | whileLoop condition value exit elements => whileLoop condition value exit elements :: nodesOf elements
  | repeatLoop condition elements => repeatLoop condition elements :: nodesOf elements
  | fork branches => fork branches :: nodesOfBranches branches

def nodesOf : List FlowElement → List FlowElement
  | [] => []
  | e :: es => e.nodes ++ nodesOf es

def nodesOfBranches : List (List FlowElement) → List FlowElement
  | [] => []
  | b :: bs => nodesOf b ++ nodesOfBranches bs

end

/-- The text of an activity. -/
def activityText? : FlowElement → Option Text
  | activity text => some text
  | _ => none

mutual

theorem texts_eq : ∀ e : FlowElement, e.texts = e.nodes.filterMap activityText?
  | start | stop | finish | activity _ => rfl
  | decision _ yes no => by
    rw [texts, nodes, List.filterMap_cons_none rfl, List.filterMap_append, textsOf_eq yes, textsOf_eq no]
  | partition _ elements => by rw [texts, nodes, List.filterMap_cons_none rfl, textsOf_eq elements]
  | whileLoop _ _ _ elements => by rw [texts, nodes, List.filterMap_cons_none rfl, textsOf_eq elements]
  | repeatLoop _ elements => by rw [texts, nodes, List.filterMap_cons_none rfl, textsOf_eq elements]
  | fork branches => by rw [texts, nodes, List.filterMap_cons_none rfl, textsOfBranches_eq branches]

theorem textsOf_eq : ∀ es : List FlowElement, textsOf es = (nodesOf es).filterMap activityText?
  | [] => rfl
  | e :: es => by rw [textsOf, nodesOf, List.filterMap_append, texts_eq e, textsOf_eq es]

theorem textsOfBranches_eq : ∀ bs : List (List FlowElement),
    textsOfBranches bs = (nodesOfBranches bs).filterMap activityText?
  | [] => rfl
  | b :: bs => by
    rw [textsOfBranches, nodesOfBranches, List.filterMap_append, textsOf_eq b, textsOfBranches_eq bs]

end

end FlowElement

/-! ## Items -/

theorem blockItems_hold {parts : List Text} (opening closing : Text) {items : List Item}
    (h : HoldsInOrder parts (writeItems items)) :
    HoldsInOrder parts (writeItems (blockItems opening [.mk false items] closing)) := by
  refine h.widen ((writeItems_below (escape opening) items).trans ?_)
  rw [blockItems, writeItems_cons _ [.leaf (escape closing)]]
  exact (List.prefix_append _ _).isInfix

/-- The part of a decision that tells of one branch. -/
def branchText (label : Text) (elements : List FlowElement) : Text :=
  let names := FlowElement.textsOf elements
  if names.isEmpty then [] else " - ".toList ++ label ++ ": " ++ join ", " names

theorem branchText_holds (label : Text) (elements : List FlowElement) :
    HoldsInOrder ((FlowElement.textsOf elements).map escape) (escape (branchText label elements)) := by
  simp only [branchText]
  split
  · next hnone =>
    rw [List.isEmpty_iff.1 hnone]
    exact .nil _
  · rw [escape_append, escape_join]
    exact (HoldsInOrder.join _ _).widen (List.suffix_append _ _).isInfix

/-- A decision tells the activities of both branches, those of the yes-branch first. -/
theorem decisionText_holds (p : ActivityPhrases) (condition : Text) (yes no : List FlowElement) :
    HoldsInOrder ((FlowElement.textsOf yes ++ FlowElement.textsOf no).map escape)
      (escape (decisionText p condition yes no)) := by
  have hsplit : decisionText p condition yes no =
      p.decisionLabel ++ ": " ++ condition ++ (branchText p.yes yes ++ branchText p.no no) := by
    rw [← List.append_assoc]
    rfl
  rw [hsplit, escape_append, escape_append (branchText _ _), List.map_append]
  exact ((branchText_holds p.yes yes).append (branchText_holds p.no no)).widen
    (List.suffix_append _ _).isInfix

mutual

/-- The items of an element tell its activities, in whatever lists they are. -/
theorem FlowElement.items_hold (p : ActivityPhrases) : ∀ (e : FlowElement) (forks : Nat),
    HoldsInOrder (e.texts.map escape) (writeItems (e.items p forks).1)
  | .start, _ | .stop, _ | .finish, _ => .nil _
  | .activity text, _ => (HoldsInOrder.self (escape text)).widen (writeItems_leaf _)
  | .decision condition yes no, _ => (decisionText_holds p condition yes no).widen (writeItems_leaf _)
  | .partition _ elements, forks => blockItems_hold _ _ (flowItems_hold p elements forks)
  | .whileLoop _ _ _ elements, forks => blockItems_hold _ _ (flowItems_hold p elements forks)
  | .repeatLoop _ elements, forks => blockItems_hold _ _ (flowItems_hold p elements forks)
  | .fork branches, forks => blockItems_hold _ _ (branchItems_hold p branches (forks + 1) 1)

theorem flowItems_hold (p : ActivityPhrases) : ∀ (elements : List FlowElement) (forks : Nat),
    HoldsInOrder ((FlowElement.textsOf elements).map escape) (writeItems (flowItems p forks elements).1)
  | [], _ => .nil _
  | e :: es, forks => by
    have hrest := flowItems_hold p es (e.items p forks).2
    simp only [FlowElement.textsOf, flowItems, List.map_append, writeItems_append]
    exact (FlowElement.items_hold p e forks).append hrest

theorem branchItems_hold (p : ActivityPhrases) : ∀ (branches : List (List FlowElement)) (forks number : Nat),
    HoldsInOrder ((FlowElement.textsOfBranches branches).map escape)
      (writeItems (branchItems p forks number branches).1)
  | [], _, _ => .nil _
  | b :: bs, forks, number => by
    have hrest := branchItems_hold p bs (flowItems p forks b).2 (number + 1)
    simp only [FlowElement.textsOfBranches, branchItems, List.map_append]
    rw [writeItems_cons]
    exact ((flowItems_hold p b forks).widen (writeItems_below _ _)).append hrest

end

/-! ## Descriptions -/

/-- The description of a diagram holds the texts of all activities, escaped, in the order of the document. -/
theorem ActivityDiagram.describe_holds (d : ActivityDiagram) (locale : Text) :
    HoldsInOrder (((FlowElement.nodesOf d.elements).filterMap FlowElement.activityText?).map escape)
      (d.describe locale).write := by
  rw [← FlowElement.textsOf_eq, ActivityDiagram.describe]
  generalize ActivityPhrases.of (.resolve locale .nl) = p
  have hflow := flowItems_hold p d.elements 0
  generalize hitems : (flowItems p 0 d.elements).1 = items at hflow
  cases items with
  | nil => exact hflow.widen List.nil_infix
  | cons i is =>
    have hlist : Block.list (.mk false (i :: is)) ∈ d.describeWith p := by
      rw [ActivityDiagram.describeWith, hitems]
      simp [labelled, Listing.isEmpty, Listing.items]
    have hwritten : writeItems (i :: is) <:+: (Block.list (.mk false (i :: is))).write :=
      ⟨openTag (tagName false), '\n' :: closeTag (tagName false), rfl⟩
    exact hflow.widen (hwritten.trans (Html.Block.write_infix hlist rfl))

end DiagramProse
