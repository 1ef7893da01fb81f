import DiagramProse.Proofs.Diagram.Safety
import DiagramProse.Proofs.Html.Skeleton

/-!
The language of a description has no part in its structure (`tags_tryDescribe`): the same source has the same
paragraphs, labels and lists in all languages, and is refused in all of them or in none.

Whatever the words of a kind of diagram are, the skeleton of its descriptions is the same; the languages in use
have moreover words that are safe, so that no tag comes from a word.
-/

namespace DiagramProse

open Text Html

theorem itemsSkeleton_map {α : Type} {f g : α → Item} (h : ∀ x, (f x).skeleton = (g x).skeleton)
    (xs : List α) : itemsSkeleton (xs.map f) = itemsSkeleton (xs.map g) := by
  simp [itemsSkeleton_eq_flatMap, List.flatMap_map, h]

/-- A section with a leaf for each of some things has the same skeleton for all words. -/
theorem labelled_ofLeaves_skeleton {α : Type} (label label' : Text) (ordered : Bool) (f g : α → Text)
    (xs : List α) :
    Fragment.skeleton (labelled label (.ofLeaves ordered (xs.map f)))
      = Fragment.skeleton (labelled label' (.ofLeaves ordered (xs.map g))) :=
  labelled_skeleton (by rw [Listing.skeleton_ofLeaves, Listing.skeleton_ofLeaves, List.length_map,
    List.length_map]) label label'

/-! ## Class, sequence and state diagrams -/

theorem Classifier.length_memberTexts (p q : ClassPhrases) (c : Classifier) :
    (c.memberTexts p).length = (c.memberTexts q).length := by
  unfold memberTexts
  split <;> split <;> simp

theorem Classifier.describe_skeleton (p q : ClassPhrases) (c : Classifier) :
    (c.describe p).skeleton = (c.describe q).skeleton := by
  unfold Classifier.describe
  split
  · rfl
  · simp only [Item.skeleton, listsSkeleton, Listing.isEmpty_eq, Listing.skeleton_ofLeaves,
      c.length_memberTexts p q]

theorem ClassDiagram.describeWith_skeleton (p q : ClassPhrases) (d : ClassDiagram) :
    Fragment.skeleton (d.describeWith p) = Fragment.skeleton (d.describeWith q) := by
  have hclasses : (Listing.mk false (d.classes.map (Classifier.describe p))).skeleton
      = (Listing.mk false (d.classes.map (Classifier.describe q))).skeleton := by
    rw [Listing.skeleton, Listing.skeleton, itemsSkeleton_map (Classifier.describe_skeleton p q)]
  have hrelations := labelled_ofLeaves_skeleton p.relations q.relations false (Relation.describe p)
    (Relation.describe q) d.relations
  have hnotes := labelled_ofLeaves_skeleton p.notes q.notes false (ClassNote.describe p)
    (ClassNote.describe q) d.notes
  simp only [describeWith, List.cons_append, skeleton_paragraph_cons, Fragment.skeleton_append]
  rw [labelled_skeleton hclasses p.classes q.classes, hrelations, hnotes]

theorem SequenceDiagram.describeWith_skeleton (p q : SequencePhrases) (d : SequenceDiagram) :
    Fragment.skeleton (d.describeWith p) = Fragment.skeleton (d.describeWith q) := by
  have hmessages := labelled_ofLeaves_skeleton p.interactions q.interactions d.isNumbered
    (d.describeMessage p) (d.describeMessage q) d.messages
  simp only [describeWith, skeleton_paragraph_cons, hmessages]

theorem StateDiagram.describeWith_skeleton (p q : StatePhrases) (d : StateDiagram) :
    Fragment.skeleton (d.describeWith p) = Fragment.skeleton (d.describeWith q) := by
  have hinitial : Fragment.skeleton (d.initial.toList.map fun s => named p.initialState (d.escapedName s))
      = Fragment.skeleton (d.initial.toList.map fun s => named q.initialState (d.escapedName s)) := by
    cases d.initial <;> rfl
  have hstates := labelled_ofLeaves_skeleton p.states q.states true (d.describeState p) (d.describeState q)
    d.states
  have htransitions := labelled_ofLeaves_skeleton p.transitions q.transitions true (d.describeTransition p)
    (d.describeTransition q) d.transitions
  simp only [describeWith, List.cons_append, skeleton_paragraph_cons, Fragment.skeleton_append]
  rw [hinitial, hstates, htransitions]
  split <;> rfl

/-! ## Activity diagrams -/

theorem blockItems_skeleton {items items' : List Item} (h : itemsSkeleton items = itemsSkeleton items')
    (opening opening' closing closing' : Text) :
    itemsSkeleton (blockItems opening [.mk false items] closing)
      = itemsSkeleton (blockItems opening' [.mk false items'] closing') := by
  have hl : (Listing.mk false items).skeleton = (Listing.mk false items').skeleton := by
    rw [Listing.skeleton, Listing.skeleton, h]
  simp only [blockItems, itemsSkeleton, Item.skeleton, listsSkeleton, Listing.isEmpty_eq, hl,
    Item.skeleton_leaf]

mutual

/-- The items of an element have the same skeleton for all words, and there are as many forks. -/
theorem FlowElement.items_skeleton (p q : ActivityPhrases) : ∀ (e : FlowElement) (forks : Nat),
    itemsSkeleton (e.items p forks).1 = itemsSkeleton (e.items q forks).1 ∧
      (e.items p forks).2 = (e.items q forks).2
  | .start, _ | .stop, _ | .finish, _ | .activity _, _ | .decision .., _ => by
    simp [FlowElement.items, itemsSkeleton]
  | .partition name elements, forks => by
    obtain ⟨hitems, hforks⟩ := flowItems_skeleton p q elements forks
    simp only [FlowElement.items]
    exact ⟨blockItems_skeleton hitems .., hforks⟩
  | .whileLoop condition value exit elements, forks => by
    obtain ⟨hitems, hforks⟩ := flowItems_skeleton p q elements forks
    simp only [FlowElement.items]
    exact ⟨blockItems_skeleton hitems .., hforks⟩
  | .repeatLoop condition elements, forks => by
    obtain ⟨hitems, hforks⟩ := flowItems_skeleton p q elements forks
    simp only [FlowElement.items]
    exact ⟨blockItems_skeleton hitems .., hforks⟩
  | .fork branches, forks => by
    obtain ⟨hitems, hforks⟩ := branchItems_skeleton p q branches (forks + 1) 1
    simp only [FlowElement.items]
    exact ⟨blockItems_skeleton hitems .., hforks⟩

theorem flowItems_skeleton (p q : ActivityPhrases) : ∀ (elements : List FlowElement) (forks : Nat),
    itemsSkeleton (flowItems p forks elements).1 = itemsSkeleton (flowItems q forks elements).1 ∧
      (flowItems p forks elements).2 = (flowItems q forks elements).2
  | [], _ => by simp [flowItems]
  | e :: es, forks => by
    obtain ⟨hitems, hforks⟩ := FlowElement.items_skeleton p q e forks
    obtain ⟨hrest, hforks'⟩ := flowItems_skeleton p q es (e.items p forks).2
    simp only [itemsSkeleton_eq_flatMap] at hitems hrest
    simp only [flowItems, itemsSkeleton_eq_flatMap, List.flatMap_append, ← hforks, hitems, hrest, hforks',
      and_self]

theorem branchItems_skeleton (p q : ActivityPhrases) : ∀ (branches : List (List FlowElement)) (forks number : Nat),
    itemsSkeleton (branchItems p forks number branches).1
        = itemsSkeleton (branchItems q forks number branches).1 ∧
      (branchItems p forks number branches).2 = (branchItems q forks number branches).2
  | [], _, _ => by simp [branchItems]
  | b :: bs, forks, number => by
    obtain ⟨hitems, hforks⟩ := flowItems_skeleton p q b forks
    obtain ⟨hrest, hforks'⟩ := branchItems_skeleton p q bs (flowItems p forks b).2 (number + 1)
    simp only [branchItems, itemsSkeleton, Item.skeleton, listsSkeleton, Listing.isEmpty_eq, Listing.skeleton,
      ← hforks, hitems, hrest, hforks', and_self]

end

theorem ActivityDiagram.describeWith_skeleton (p q : ActivityPhrases) (d : ActivityDiagram) :
    Fragment.skeleton (d.describeWith p) = Fragment.skeleton (d.describeWith q) := by
  have hflow : (Listing.mk false (flowItems p 0 d.elements).1).skeleton
      = (Listing.mk false (flowItems q 0 d.elements).1).skeleton := by
    rw [Listing.skeleton, Listing.skeleton, (flowItems_skeleton p q d.elements 0).1]
  simp only [describeWith, skeleton_paragraph_cons, labelled_skeleton hflow p.flow q.flow]

/-! ## C4 diagrams and pie charts -/

theorem countItem_skeleton {texts texts' : List Text} (h : texts.length = texts'.length)
    (w w' : CountWords) (n : Nat) : (countItem w n texts).skeleton = (countItem w' n texts').skeleton := by
  simp only [countItem, Item.skeleton, listsSkeleton, Listing.isEmpty_eq, Listing.skeleton_ofLeaves, h]

theorem countItem_map_skeleton {α : Type} (w w' : CountWords) (n : Nat) (f g : α → Text) (xs : List α) :
    (countItem w n (xs.map f)).skeleton = (countItem w' n (xs.map g)).skeleton :=
  countItem_skeleton (by rw [List.length_map, List.length_map]) w w' n

theorem C4Diagram.systemsItem_skeleton (p q : C4Phrases) (d : C4Diagram) :
    (d.systemsItem p).skeleton = (d.systemsItem q).skeleton := by
  unfold systemsItem
  split
  · rfl
  · refine countItem_skeleton ?_ _ _ _
    simp only [List.length_append]
    split <;> split <;> rfl

theorem C4Diagram.surroundings_skeleton (p q : C4Phrases) (d : C4Diagram) :
    itemsSkeleton (d.surroundings p) = itemsSkeleton (d.surroundings q) := by
  unfold surroundings
  split <;> split <;> simp [itemsSkeleton, d.systemsItem_skeleton p q]

theorem C4Diagram.elementItems_skeleton (p q : C4Phrases) (d : C4Diagram) :
    itemsSkeleton (d.elementItems p) = itemsSkeleton (d.elementItems q) := by
  have hsurroundings := d.surroundings_skeleton p q
  have hcontainers := countItem_map_skeleton p.containers q.containers d.properContainers.length
    (C4Container.describe p) (C4Container.describe q) d.properContainers
  have hcomponents := countItem_map_skeleton p.components q.components d.components.length
    (C4Component.describe p) (C4Component.describe q) d.components
  simp only [itemsSkeleton_eq_flatMap] at hsurroundings ⊢
  unfold elementItems
  cases d.level with
  | context => simp [d.systemsItem_skeleton p q]
  | container => simp [hsurroundings, hcontainers]
  | component =>
    simp only [List.flatMap_append, hsurroundings]
    split <;> simp [hcomponents]

theorem C4Diagram.relationshipItems_skeleton (p q : C4Phrases) (d : C4Diagram) :
    itemsSkeleton (d.relationshipItems p) = itemsSkeleton (d.relationshipItems q) := by
  unfold relationshipItems
  split
  · rfl
  · have hcount := countItem_map_skeleton p.relationships q.relationships d.relationships.length
      (fun r => escape (d.relationshipText p r)) (fun r => escape (d.relationshipText q r)) d.relationships
    simp only [itemsSkeleton, hcount]

theorem C4Diagram.describeWith_skeleton (p q : C4Phrases) (d : C4Diagram) :
    Fragment.skeleton (d.describeWith p) = Fragment.skeleton (d.describeWith q) := by
  have hitems : (Listing.mk false (d.elementItems p ++ d.relationshipItems p)).skeleton
      = (Listing.mk false (d.elementItems q ++ d.relationshipItems q)).skeleton := by
    have he := d.elementItems_skeleton p q
    have hr := d.relationshipItems_skeleton p q
    simp only [itemsSkeleton_eq_flatMap] at he hr
    simp only [Listing.skeleton, itemsSkeleton_eq_flatMap, List.flatMap_append, he, hr]
  rw [describeWith, describeWith, skeleton_paragraph_cons, skeleton_paragraph_cons, skeleton_list_cons hitems]

theorem PieChart.describeWith_skeleton (p q : PiePhrases) (c : PieChart) :
    Fragment.skeleton (c.describeWith p) = Fragment.skeleton (c.describeWith q) := by
  unfold describeWith
  split <;> rfl

/-! ## All kinds -/

theorem Diagram.fragment_skeleton (d : Diagram) (locale locale' : Text) :
    Fragment.skeleton (d.fragment locale) = Fragment.skeleton (d.fragment locale') := by
  cases d with
  | classes d => exact d.describeWith_skeleton _ _
  | sequence d => exact d.describeWith_skeleton _ _
  | activity d => exact d.describeWith_skeleton _ _
  | state d => exact d.describeWith_skeleton _ _
  | c4 d => exact d.describeWith_skeleton _ _
  | pie c => exact c.describeWith_skeleton _ _

/-- What is between the brackets of the tag that begins a link. -/
def linkTag (address : Text) : Text :=
  "a href=\"".toList ++ address ++ "\" target=\"_blank\" rel=\"noopener noreferrer\""

theorem DiagramKind.link_eq (address text : Text) :
    link address text = openTag (linkTag address) ++ text ++ closeTag "a" := by
  have hbefore : ("<a href=\"" : Text) = '<' :: "a href=\"".toList := rfl
  have hbehind : ("\" target=\"_blank\" rel=\"noopener noreferrer\">" : Text)
      = "\" target=\"_blank\" rel=\"noopener noreferrer\"".toList ++ ['>'] := rfl
  have hend : ("</a>" : Text) = closeTag "a" := rfl
  unfold link linkTag openTag
  rw [hbefore, hbehind, hend]
  simp only [List.append_assoc, List.cons_append]

theorem DiagramKind.link_hasTags {address text : Text} (ha : '>' ∉ address) (ht : SafeText text) :
    HasTags (link address text) [linkTag address, "/a"] := by
  have hbefore : '>' ∉ ("a href=\"" : Text) := by decide +kernel
  have hbehind : '>' ∉ ("\" target=\"_blank\" rel=\"noopener noreferrer\"" : Text) := by decide +kernel
  have hname : '>' ∉ linkTag address := by
    unfold linkTag
    rw [List.mem_append, List.mem_append, not_or, not_or]
    exact ⟨⟨hbefore, ha⟩, hbehind⟩
  rw [link_eq]
  exact ((HasTags.of_openTag hname).append (.of_safe ht)).append (.of_closeTag (by decide))

/-- A paragraph with a link in it, whatever the kind and the language. -/
theorem DiagramKind.unsupportedText_hasTags (k : DiagramKind) (locale : Text) :
    HasTags (k.unsupportedText locale) (elementTags "p" [linkTag projectAddress, "/a"]) := by
  have hspace : HasTags [' '] [] := .of_safe (.of_plain rfl)
  have htext := fun s : Text => HasTags.of_safe (escape_safe s)
  have haddress : '>' ∉ projectAddress := by decide +kernel
  have hlink := fun s : Text => link_hasTags haddress (escape_safe s)
  have hinner := fun a b c : Text => (((htext a).append hspace).append (hlink b)).append (hspace.append (htext c))
  have h := fun a b c : Text => HasTags.element "p" (by decide) (hinner a b c)
  simpa [unsupportedText, join, List.intercalate, openTag, closeTag] using h _ _ _

/-- In all languages a source is described with the same tags, or else it is refused for the same reason. -/
theorem tags_tryDescribe (source : Text) (hint : Option Text) (dialect : Option Dialect)
    (locale locale' : Text) :
    (tryDescribe source hint dialect locale).map tags = (tryDescribe source hint dialect locale').map tags := by
  unfold tryDescribe
  cases readSource source hint dialect with
  | error f => rfl
  | ok found =>
    obtain ⟨kind, dialect, _ | d⟩ := found
    · show Except.ok _ = Except.ok _
      rw [(kind.unsupportedText_hasTags locale).tags_eq, (kind.unsupportedText_hasTags locale').tags_eq]
    · show Except.ok _ = Except.ok _
      rw [Diagram.describe, Diagram.describe, tags_write (d.fragment_safe locale),
        tags_write (d.fragment_safe locale'), d.fragment_skeleton locale locale']

end DiagramProse
