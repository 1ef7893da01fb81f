import DiagramProse.Proofs.ActivityDiagram.Description
import DiagramProse.Proofs.ActivityDiagram.ForkWords
import DiagramProse.Proofs.Html.Items
import Mathlib.Data.List.Count

/-!
The numbers of forks in the description of an activity diagram (`ActivityDiagram.describe_forks`).

A fork that is not inside a decision has an opening item, with its branches below, and a closing item; within a decision
only activities are told. The opening items are known by their first words and by the list below them, so what they are
is told for all items of the description in document order (`flowItems_openings`). Closing items have nothing below. An
activity may read like one of them, so they are told by their place behind an opening item (`flowItems_closesForks`)
and by how often their text stands there beside such activities (`flowItems_count_closing`).
-/

namespace DiagramProse

open Text Html

/-! ## What is told in items of its own -/

namespace FlowElement

mutual

/-- An element and what is within it but not inside a decision, in the order of the document. -/
def outerNodes : FlowElement → List FlowElement
  | start => [start]
  | stop => [stop]
  | finish => [finish]
  | activity text => [activity text]
  | decision condition yes no => [decision condition yes no]
  | partition name elements => partition name elements :: outerNodesOf elements
  | whileLoop condition value exit elements => whileLoop condition value exit elements :: outerNodesOf elements
  | repeatLoop condition elements => repeatLoop condition elements :: outerNodesOf elements
  | fork branches => fork branches :: outerNodesOfBranches branches

def outerNodesOf : List FlowElement → List FlowElement
  | [] => []
  | e :: es => e.outerNodes ++ outerNodesOf es

def outerNodesOfBranches : List (List FlowElement) → List FlowElement
  | [] => []
  | b :: bs => outerNodesOf b ++ outerNodesOfBranches bs

end

/-- The branches of a fork. -/
def branches? : FlowElement → Option (List (List FlowElement))
  | fork branches => some branches
  | _ => none

theorem forks_fork (branches : List (List FlowElement)) : (fork branches).outerNodes.filterMap branches? =
    branches :: (outerNodesOfBranches branches).filterMap branches? := rfl

end FlowElement

open FlowElement

theorem allItems_block (opening closing : Text) (items : List Item) :
    allItems (blockItems opening [.mk false items] closing) =
      .mk (escape opening) [.mk false items] :: (allItems items ++ [.leaf (escape closing)]) := by
  rw [blockItems, allItems_below, allItems_leaf]
  rfl

/-! ## The counter -/

mutual

/-- The counter goes on by one for each fork that is not inside a decision. -/
theorem FlowElement.items_counter (p : ActivityPhrases) : ∀ (e : FlowElement) (n : Nat),
    (e.items p n).2 = n + (e.outerNodes.filterMap branches?).length
  | .start, _ | .stop, _ | .finish, _ | .activity _, _ | .decision _ _ _, _ => rfl
  | .partition _ elements, n => flowItems_counter p elements n
  | .whileLoop _ _ _ elements, n => flowItems_counter p elements n
  | .repeatLoop _ elements, n => flowItems_counter p elements n
  | .fork branches, n => by
    -- a fork takes its number before its branches are told
    have hbranches := branchItems_counter p branches (n + 1) 1
    rw [forks_fork, List.length_cons]
    show (branchItems p (n + 1) 1 branches).2 = _
    omega

theorem flowItems_counter (p : ActivityPhrases) : ∀ (elements : List FlowElement) (n : Nat),
    (flowItems p n elements).2 = n + ((outerNodesOf elements).filterMap branches?).length
  | [], _ => rfl
  | e :: es, n => by
    have hhere := FlowElement.items_counter p e n
    have hrest := flowItems_counter p es (e.items p n).2
    rw [outerNodesOf, List.filterMap_append, List.length_append]
    show (flowItems p (e.items p n).2 es).2 = _
    omega

theorem branchItems_counter (p : ActivityPhrases) : ∀ (branches : List (List FlowElement)) (n number : Nat),
    (branchItems p n number branches).2 = n + ((outerNodesOfBranches branches).filterMap branches?).length
  | [], _, _ => rfl
  | b :: bs, n, number => by
    have hhere := flowItems_counter p b n
    have hrest := branchItems_counter p bs (flowItems p n b).2 (number + 1)
    rw [outerNodesOfBranches, List.filterMap_append, List.length_append]
    show (branchItems p (flowItems p n b).2 (number + 1) bs).2 = _
    omega

end

/-! ## Opening items -/

/-- Whether an item opens a fork: it has a list below, and the words for a fork in front. -/
def opensFork (p : ActivityPhrases) (item : Item) : Bool :=
  !item.lists.isEmpty && startsWith item.html (leadIn p.forkOpen)

/-- The opening item of a fork with the given number. -/
def forkItem (p : ActivityPhrases) (n : Nat) (branches : List (List FlowElement)) : Item :=
  .mk (p.forkOpening n) [.mk false (branchItems p n 1 branches).1]

/-- The opening items of some forks, in front of which there are `n` others. -/
def forkItems (p : ActivityPhrases) (n : Nat) (forks : List (List (List FlowElement))) : List Item :=
  (forks.zipIdx (n + 1)).map fun (branches, number) => forkItem p number branches

theorem forkItems_cons (p : ActivityPhrases) (n : Nat) (branches : List (List FlowElement))
    (forks : List (List (List FlowElement))) :
    forkItems p n (branches :: forks) = forkItem p (n + 1) branches :: forkItems p (n + 1) forks := rfl

theorem forkItems_append (p : ActivityPhrases) (n : Nat) (forks forks' : List (List (List FlowElement))) :
    forkItems p n (forks ++ forks') = forkItems p n forks ++ forkItems p (n + forks.length) forks' := by
  have hstart : n + forks.length + 1 = n + 1 + forks.length := by omega
  rw [forkItems, List.zipIdx_append, List.map_append, forkItems, forkItems, hstart]

variable {p : ActivityPhrases}

theorem opensFork_forkItem (hp : TellsForks p) (n : Nat) (branches : List (List FlowElement)) :
    opensFork p (forkItem p n branches) = true := hp.opening.startsWith_leadIn n

theorem not_opensFork_fill (hp : TellsForks p) {phrase : Text} (h : phrase ∈ [p.partitionOpen, p.loopOpen, p.branch])
    (values : List (Text × Text)) (lists : List Listing) :
    opensFork p (.mk (escape (fill phrase values)) lists) = false := by
  have hwords := not_startsWith_fill (hp.openingApart phrase h) values
  rw [opensFork, Item.html, hwords, Bool.and_false]

theorem filter_opensFork_block {opening : Text} {items : List Item}
    (h : opensFork p (.mk (escape opening) [.mk false items]) = false) (closing : Text) :
    (allItems (blockItems opening [.mk false items] closing)).filter (opensFork p) =
      (allItems items).filter (opensFork p) := by
  have hleaf : [Item.leaf (escape closing)].filter (opensFork p) = [] := rfl
  rw [allItems_block, List.filter_cons_of_neg (by simp [h]), List.filter_append, hleaf, List.append_nil]

mutual

theorem FlowElement.items_openings (hp : TellsForks p) : ∀ (e : FlowElement) (n : Nat),
    (allItems (e.items p n).1).filter (opensFork p) = forkItems p n (e.outerNodes.filterMap branches?)
  | .start, _ | .stop, _ | .finish, _ | .activity _, _ | .decision _ _ _, _ => rfl
  | .partition _ elements, n =>
    (filter_opensFork_block (not_opensFork_fill hp (by simp) _ _) _).trans (flowItems_openings hp elements n)
  | .whileLoop _ _ _ elements, n =>
    (filter_opensFork_block (not_opensFork_fill hp (by simp) _ _) _).trans (flowItems_openings hp elements n)
  | .repeatLoop _ elements, n =>
    (filter_opensFork_block (not_opensFork_fill hp (by simp) _ _) _).trans (flowItems_openings hp elements n)
  | .fork branches, n => by
    have hbranches := branchItems_openings hp branches (n + 1) 1
    have hopens := opensFork_forkItem hp (n + 1) branches
    have hclosing : [Item.leaf (p.forkClosing (n + 1))].filter (opensFork p) = [] := rfl
    have hitems : allItems ((FlowElement.fork branches).items p n).1 = forkItem p (n + 1) branches ::
        (allItems (branchItems p (n + 1) 1 branches).1 ++ [.leaf (p.forkClosing (n + 1))]) := allItems_block _ _ _
    rw [hitems, List.filter_cons_of_pos hopens, List.filter_append, hclosing, List.append_nil, hbranches, forks_fork,
      forkItems_cons]

/-- The items that open a fork are those of the forks not inside a decision, numbered in the order of the document. -/
theorem flowItems_openings (hp : TellsForks p) : ∀ (elements : List FlowElement) (n : Nat),
    (allItems (flowItems p n elements).1).filter (opensFork p) =
      forkItems p n ((outerNodesOf elements).filterMap branches?)
  | [], _ => rfl
  | e :: es, n => by
    have hhere := FlowElement.items_openings hp e n
    have hrest := flowItems_openings hp es (e.items p n).2
    rw [FlowElement.items_counter] at hrest
    rw [outerNodesOf, List.filterMap_append, forkItems_append, ← hhere, ← hrest, ← List.filter_append,
      ← allItems_append, ← FlowElement.items_counter]
    rfl

theorem branchItems_openings (hp : TellsForks p) : ∀ (branches : List (List FlowElement)) (n number : Nat),
    (allItems (branchItems p n number branches).1).filter (opensFork p) =
      forkItems p n ((outerNodesOfBranches branches).filterMap branches?)
  | [], _, _ => rfl
  | b :: bs, n, number => by
    have hhere := flowItems_openings hp b n
    have hrest := branchItems_openings hp bs (flowItems p n b).2 (number + 1)
    have hlabel : opensFork p (.mk (p.branchLabel number) [.mk false (flowItems p n b).1]) = false :=
      not_opensFork_fill hp (by simp) _ _
    have hitems : allItems (branchItems p n number (b :: bs)).1 =
        .mk (p.branchLabel number) [.mk false (flowItems p n b).1] ::
          (allItems (flowItems p n b).1 ++ allItems (branchItems p (flowItems p n b).2 (number + 1) bs).1) :=
      allItems_below _ _ _
    rw [flowItems_counter] at hrest
    rw [hitems, List.filter_cons_of_neg (by simp [hlabel]), List.filter_append, hhere, flowItems_counter, hrest,
      outerNodesOfBranches, List.filterMap_append, forkItems_append]

end

/-! ## Closing items -/

/-- The texts that may be those of closing items, behind `n` forks: one for each fork, and one for each activity. -/
def closingTexts (p : ActivityPhrases) (n : Nat) (nodes : List FlowElement) : List Text :=
  (List.range' (n + 1) (nodes.filterMap branches?).length).map p.forkClosing
    ++ (nodes.filterMap activityText?).map escape

theorem count_closingTexts_append (p : ActivityPhrases) (n : Nat) (nodes nodes' : List FlowElement) (s : Text) :
    (closingTexts p n (nodes ++ nodes')).count s =
      (closingTexts p n nodes).count s + (closingTexts p (n + (nodes.filterMap branches?).length) nodes').count s := by
  have hstart : n + (nodes.filterMap branches?).length + 1 = n + 1 + (nodes.filterMap branches?).length := by omega
  simp only [closingTexts, List.filterMap_append, List.length_append, ← List.range'_append_1, List.map_append,
    List.count_append, hstart]
  omega

theorem count_closingTexts_fork (p : ActivityPhrases) (n : Nat) (branches : List (List FlowElement)) (s : Text) :
    (closingTexts p n (fork branches).outerNodes).count s =
      [p.forkClosing (n + 1)].count s + (closingTexts p (n + 1) (outerNodesOfBranches branches)).count s :=
  count_closingTexts_append p n [fork branches] (outerNodesOfBranches branches) s

section Closings

variable {s : Text}

theorem ne_of_startsWith {t words : Text} (hs : startsWith s words = true) (ht : startsWith t words = false) :
    t ≠ s := by
  rintro rfl
  rw [hs] at ht
  cases ht

theorem fill_ne_closing (hp : TellsForks p) (hs : startsWith s (leadIn p.forkClose) = true) {phrase : Text}
    (h : phrase ∈ [p.partitionOpen, p.partitionClose, p.loopOpen, p.loopClose, p.forkOpen, p.branch])
    (values : List (Text × Text)) : escape (fill phrase values) ≠ s :=
  ne_of_startsWith hs (not_startsWith_fill (hp.closingApart phrase h) values)

theorem count_step (hp : TellsForks p) (hs : startsWith s (leadIn p.forkClose) = true) {step : Text}
    (h : step ∈ [p.start, p.stop, p.finish]) : (allTexts [.leaf step]).count s = 0 := by
  rw [allTexts_leaf, List.count_cons_of_ne (ne_of_startsWith hs (hp.steps step h)), List.count_nil]

theorem count_decision (hp : TellsForks p) (hs : startsWith s (leadIn p.forkClose) = true) (condition : Text)
    (yes no : List FlowElement) : (allTexts [.leaf (escape (decisionText p condition yes no))]).count s = 0 := by
  have hwords : startsWith (escape (decisionText p condition yes no)) (leadIn p.forkClose) = false := by
    simp only [decisionText, List.append_assoc]
    exact not_startsWith_escape hp.decision _
  rw [allTexts_leaf, List.count_cons_of_ne (ne_of_startsWith hs hwords), List.count_nil]

theorem count_block {opening closing : Text} (ho : escape opening ≠ s) (hc : escape closing ≠ s) (items : List Item) :
    (allTexts (blockItems opening [.mk false items] closing)).count s = (allTexts items).count s := by
  rw [blockItems, allTexts_below, allTexts_leaf, List.count_cons_of_ne ho, List.count_append, List.count_cons_of_ne hc,
    List.count_nil, Nat.add_zero]

mutual

theorem FlowElement.items_count_closing (hp : TellsForks p) (hs : startsWith s (leadIn p.forkClose) = true) :
    ∀ (e : FlowElement) (n : Nat), (allTexts (e.items p n).1).count s = (closingTexts p n e.outerNodes).count s
  | .start, _ => count_step hp hs (by simp)
  | .stop, _ => count_step hp hs (by simp)
  | .finish, _ => count_step hp hs (by simp)
  | .activity _, _ => rfl
  | .decision condition yes no, _ => count_decision hp hs condition yes no
  | .partition _ elements, n =>
    (count_block (fill_ne_closing hp hs (by simp) _) (fill_ne_closing hp hs (by simp) _) _).trans
      (flowItems_count_closing hp hs elements n)
  | .whileLoop _ _ _ elements, n =>
    (count_block (fill_ne_closing hp hs (by simp) _) (fill_ne_closing hp hs (by simp) []) _).trans
      (flowItems_count_closing hp hs elements n)
  | .repeatLoop _ elements, n =>
    (count_block (fill_ne_closing hp hs (by simp) _) (fill_ne_closing hp hs (by simp) []) _).trans
      (flowItems_count_closing hp hs elements n)
  | .fork branches, n => by
    have hbranches := branchItems_count_closing hp hs branches (n + 1) 1
    have hopening : p.forkOpening (n + 1) ≠ s := fill_ne_closing hp hs (by simp) _
    have htexts : allTexts ((FlowElement.fork branches).items p n).1 = p.forkOpening (n + 1) ::
        (allTexts (branchItems p (n + 1) 1 branches).1 ++ [p.forkClosing (n + 1)]) := allTexts_below _ _ _
    -- the closing item is the last one in the description, and the first one in the list of numbers
    rw [htexts, List.count_cons_of_ne hopening, List.count_append, hbranches, count_closingTexts_fork, Nat.add_comm]

/-- A text that reads like the end of a fork stands in the description once for each fork that it is the end of, and
once for each activity that it is. -/
theorem flowItems_count_closing (hp : TellsForks p) (hs : startsWith s (leadIn p.forkClose) = true) :
    ∀ (elements : List FlowElement) (n : Nat),
      (allTexts (flowItems p n elements).1).count s = (closingTexts p n (outerNodesOf elements)).count s
  | [], _ => rfl
  | e :: es, n => by
    have hhere := FlowElement.items_count_closing hp hs e n
    have hrest := flowItems_count_closing hp hs es (e.items p n).2
    have htexts : allTexts (flowItems p n (e :: es)).1 =
        allTexts (e.items p n).1 ++ allTexts (flowItems p (e.items p n).2 es).1 := allTexts_append _ _
    rw [htexts, List.count_append, hhere, hrest, FlowElement.items_counter, outerNodesOf, count_closingTexts_append]

theorem branchItems_count_closing (hp : TellsForks p) (hs : startsWith s (leadIn p.forkClose) = true) :
    ∀ (branches : List (List FlowElement)) (n number : Nat),
      (allTexts (branchItems p n number branches).1).count s =
        (closingTexts p n (outerNodesOfBranches branches)).count s
  | [], _, _ => rfl
  | b :: bs, n, number => by
    have hhere := flowItems_count_closing hp hs b n
    have hrest := branchItems_count_closing hp hs bs (flowItems p n b).2 (number + 1)
    have hlabel : p.branchLabel number ≠ s := fill_ne_closing hp hs (by simp) _
    have htexts : allTexts (branchItems p n number (b :: bs)).1 = p.branchLabel number ::
        (allTexts (flowItems p n b).1 ++ allTexts (branchItems p (flowItems p n b).2 (number + 1) bs).1) :=
      allTexts_below _ _ _
    rw [htexts, List.count_cons_of_ne hlabel, List.count_append, hhere, hrest, flowItems_counter, outerNodesOfBranches,
      count_closingTexts_append]

end

end Closings

/-! ## The end of each fork -/

/-- Each item that opens a fork has the item that closes it directly behind it. -/
def ClosesForks (p : ActivityPhrases) (siblings : List Item) : Prop :=
  ∀ i item, siblings[i]? = some item → opensFork p item = true →
    ∃ n, item.html = p.forkOpening n ∧ siblings[i + 1]? = some (.leaf (p.forkClosing n))

theorem closesForks_of_none {siblings : List Item} (h : ∀ item ∈ siblings, opensFork p item = false) :
    ClosesForks p siblings := by
  intro i item hi hopens
  rw [h item (List.mem_of_getElem? hi)] at hopens
  cases hopens

theorem ClosesForks.append {is js : List Item} (h : ClosesForks p is) (h' : ClosesForks p js) :
    ClosesForks p (is ++ js) := by
  intro i item hi hopens
  rcases Nat.lt_or_ge i is.length with hlt | hge
  · rw [List.getElem?_append_left hlt] at hi
    obtain ⟨n, hhtml, hnext⟩ := h i item hi hopens
    have hnextLt : i + 1 < is.length := (List.getElem?_eq_some_iff.1 hnext).1
    exact ⟨n, hhtml, by rw [List.getElem?_append_left hnextLt, hnext]⟩
  · rw [List.getElem?_append_right hge] at hi
    obtain ⟨n, hhtml, hnext⟩ := h' _ item hi hopens
    have hshift : i + 1 - is.length = i - is.length + 1 := by omega
    refine ⟨n, hhtml, ?_⟩
    rw [List.getElem?_append_right (by omega), hshift, hnext]

theorem block_closesForks {opening : Text} {items : List Item}
    (h : opensFork p (.mk (escape opening) [.mk false items]) = false) (closing : Text) :
    ClosesForks p (blockItems opening [.mk false items] closing) := by
  refine closesForks_of_none fun item hitem => ?_
  rcases List.mem_pair.1 hitem with rfl | rfl
  · exact h
  · rfl

theorem fork_closesForks (n : Nat) (lists : List Listing) :
    ClosesForks p [.mk (p.forkOpening n) lists, .leaf (p.forkClosing n)] := by
  intro i item hi hopens
  match i with
  | 0 =>
    obtain rfl := Option.some.inj hi
    exact ⟨n, rfl, rfl⟩
  | 1 =>
    obtain rfl := Option.some.inj hi
    cases hopens
  | i + 2 => cases hi

theorem FlowElement.items_closesForks (hp : TellsForks p) (e : FlowElement) (n : Nat) :
    ClosesForks p (e.items p n).1 := by
  cases e with
  | start | stop | finish | activity | decision =>
    refine closesForks_of_none fun item hitem => ?_
    obtain rfl := List.mem_singleton.1 hitem
    rfl
  | partition | whileLoop | repeatLoop => exact block_closesForks (not_opensFork_fill hp (by simp) _ _) _
  | fork branches => exact fork_closesForks (n + 1) _

theorem flowItems_closesForks (hp : TellsForks p) (elements : List FlowElement) (n : Nat) :
    ClosesForks p (flowItems p n elements).1 := by
  induction elements generalizing n with
  | nil => exact closesForks_of_none fun _ h => by cases h
  | cons e es ih => exact (e.items_closesForks hp n).append (ih _)

theorem branchItems_closesForks (hp : TellsForks p) (branches : List (List FlowElement)) (n number : Nat) :
    ClosesForks p (branchItems p n number branches).1 := by
  refine closesForks_of_none fun item hitem => ?_
  induction branches generalizing n number with
  | nil => cases hitem
  | cons b bs ih =>
    rcases List.mem_cons.1 hitem with rfl | hitem
    · exact not_opensFork_fill hp (by simp) _ _
    · exact ih _ _ hitem

/-- All lists are such that each fork is closed behind its opening item. -/
def AllCloseForks (p : ActivityPhrases) (lists : List (List Item)) : Prop := ∀ siblings ∈ lists, ClosesForks p siblings

theorem block_below {items : List Item} (h : ClosesForks p items) (hbelow : AllCloseForks p (listsBelow items))
    (opening closing : Text) : AllCloseForks p (listsBelow (blockItems opening [.mk false items] closing)) := by
  have hleaf : listsBelow [.leaf (escape closing)] = [] := rfl
  rw [blockItems, listsBelow_below, hleaf, List.append_nil]
  exact List.forall_mem_cons.2 ⟨h, hbelow⟩

mutual

theorem FlowElement.items_below (hp : TellsForks p) : ∀ (e : FlowElement) (n : Nat),
    AllCloseForks p (listsBelow (e.items p n).1)
  | .start, _ | .stop, _ | .finish, _ | .activity _, _ | .decision _ _ _, _ => nofun
  | .partition _ elements, n => block_below (flowItems_closesForks hp elements n) (flowItems_below hp elements n) _ _
  | .whileLoop _ _ _ elements, n =>
    block_below (flowItems_closesForks hp elements n) (flowItems_below hp elements n) _ _
  | .repeatLoop _ elements, n => block_below (flowItems_closesForks hp elements n) (flowItems_below hp elements n) _ _
  | .fork branches, n =>
    block_below (branchItems_closesForks hp branches _ _) (branchItems_below hp branches (n + 1) 1) _ _

theorem flowItems_below (hp : TellsForks p) : ∀ (elements : List FlowElement) (n : Nat),
    AllCloseForks p (listsBelow (flowItems p n elements).1)
  | [], _ => nofun
  | e :: es, n => by
    have hlists : listsBelow (flowItems p n (e :: es)).1 =
        listsBelow (e.items p n).1 ++ listsBelow (flowItems p (e.items p n).2 es).1 := listsBelow_append _ _
    rw [hlists]
    exact List.forall_mem_append.2 ⟨FlowElement.items_below hp e n, flowItems_below hp es _⟩

theorem branchItems_below (hp : TellsForks p) : ∀ (branches : List (List FlowElement)) (n number : Nat),
    AllCloseForks p (listsBelow (branchItems p n number branches).1)
  | [], _, _ => nofun
  | b :: bs, n, number => by
    have hlists : listsBelow (branchItems p n number (b :: bs)).1 = (flowItems p n b).1 ::
        (listsBelow (flowItems p n b).1 ++ listsBelow (branchItems p (flowItems p n b).2 (number + 1) bs).1) :=
      listsBelow_below _ _ _
    rw [hlists]
    exact List.forall_mem_cons.2 ⟨flowItems_closesForks hp b n,
      List.forall_mem_append.2 ⟨flowItems_below hp b n, branchItems_below hp bs _ _⟩⟩

end

/-! ## Branches -/

end DiagramProse
