import DiagramProse.Proofs.Html.Markup

/-!
The tags of a description, told by its blocks and lists alone (`Fragment.skeleton`). The texts between the
tags have no part in it: as long as they are safe, the tags of what is written are the skeleton, whatever the
texts are (`tags_write`).
-/

namespace DiagramProse.Html

open Text

/-! ## Texts and their tags -/

/-- The tags of a text are `ts`, and none of them is still open at its end. -/
def HasTags (s : Text) (ts : List Text) : Prop := ∀ rest, tags (s ++ rest) = ts ++ tags rest

/-- The tags of an element, with those of what is in it between them. -/
def elementTags (name : Text) (ts : List Text) : List Text := name :: ts ++ ['/' :: name]

namespace HasTags

variable {s t name : Text} {ts us : List Text}

theorem tags_eq (h : HasTags s ts) : tags s = ts := by
  have := h []
  rwa [List.append_nil, show tags [] = [] from rfl, List.append_nil] at this

theorem of_safe (h : SafeText s) : HasTags s [] := fun rest => tags_safe h rest

theorem lineFeed : HasTags "\n" [] := of_safe (.of_plain (by decide))

theorem append (hs : HasTags s ts) (ht : HasTags t us) : HasTags (s ++ t) (ts ++ us) := by
  intro rest
  rw [List.append_assoc, hs, ht, List.append_assoc]

theorem of_openTag (hc : '>' ∉ name) : HasTags (openTag name) [name] := fun rest => tags_openTag hc rest

theorem of_closeTag (hc : '>' ∉ name) : HasTags (closeTag name) ['/' :: name] := fun rest =>
  tags_closeTag hc rest

theorem element (name : Text) (hc : '>' ∉ name) (h : HasTags s ts) :
    HasTags (openTag name ++ s ++ closeTag name) (elementTags name ts) :=
  ((of_openTag hc).append h).append (of_closeTag hc)

end HasTags

/-! ## Skeletons -/

mutual

def Item.skeleton : Item → List Text
  | .mk _ lists => elementTags "li" (listsSkeleton lists)

/-- The tags of the lists that have items. -/
def listsSkeleton : List Listing → List Text
  | [] => []
  | l :: ls => (if l.isEmpty then [] else l.skeleton) ++ listsSkeleton ls

def Listing.skeleton : Listing → List Text
  | .mk ordered items => elementTags (tagName ordered) (itemsSkeleton items)

def itemsSkeleton : List Item → List Text
  | [] => []
  | i :: is => i.skeleton ++ itemsSkeleton is

end

def Block.skeleton : Block → List Text
  | .paragraph _ => elementTags "p" []
  | .heading _ => elementTags "p" (elementTags "strong" [])
  | .list l => l.skeleton

/-- The tags of the blocks that are written. -/
def Fragment.skeleton (f : Fragment) : List Text := (f.filter fun b => !b.isVoid).flatMap Block.skeleton

theorem itemsSkeleton_eq_flatMap (is : List Item) : itemsSkeleton is = is.flatMap Item.skeleton := by
  induction is with
  | nil => rfl
  | cons i is ih => rw [itemsSkeleton, ih, List.flatMap_cons]

@[simp] theorem Item.skeleton_leaf (t : Text) : (Item.leaf t).skeleton = elementTags "li" [] := rfl

/-- Of leaves nothing counts but their number. -/
theorem Listing.skeleton_ofLeaves (ordered : Bool) (texts : List Text) :
    (ofLeaves ordered texts).skeleton
      = elementTags (tagName ordered) (List.replicate texts.length (elementTags "li" [])).flatten := by
  have h : ∀ texts : List Text,
      itemsSkeleton (texts.map Item.leaf) = (List.replicate texts.length (elementTags "li" [])).flatten := by
    intro texts
    induction texts with
    | nil => rfl
    | cons t texts ih =>
      rw [List.map_cons, itemsSkeleton, ih, Item.skeleton_leaf, List.length_cons, List.replicate_succ,
        List.flatten_cons]
  rw [ofLeaves, Listing.skeleton, h]

/-- Whether a list has items shows behind its first tag. -/
theorem Listing.isEmpty_eq (l : Listing) : l.isEmpty = (l.skeleton[1]? != some "li".toList) := by
  obtain ⟨ordered, items⟩ := l
  cases items with
  | nil => cases ordered <;> decide
  | cons i is =>
    obtain ⟨html, lists⟩ := i
    simp [isEmpty, Listing.items, skeleton, itemsSkeleton, Item.skeleton, elementTags]

theorem Fragment.skeleton_append (f g : Fragment) :
    Fragment.skeleton (f ++ g) = Fragment.skeleton f ++ Fragment.skeleton g := by
  simp [Fragment.skeleton]

/-- A paragraph adds the same tags, whatever it says. -/
theorem skeleton_paragraph_cons (t : Text) (f : Fragment) :
    Fragment.skeleton (.paragraph t :: f) = elementTags "p" [] ++ Fragment.skeleton f := rfl

/-- So does a label. -/
theorem skeleton_heading_cons (t : Text) (f : Fragment) :
    Fragment.skeleton (.heading t :: f) = elementTags "p" (elementTags "strong" []) ++ Fragment.skeleton f := rfl

theorem skeleton_list_cons {l l' : Listing} (h : l.skeleton = l'.skeleton) (f : Fragment) :
    Fragment.skeleton (.list l :: f) = Fragment.skeleton (.list l' :: f) := by
  have he : l.isEmpty = l'.isEmpty := by rw [l.isEmpty_eq, l'.isEmpty_eq, h]
  simp only [Fragment.skeleton, List.filter_cons, Block.isVoid, he]
  split
  · rw [List.flatMap_cons, List.flatMap_cons, Block.skeleton, Block.skeleton, h]
  · rfl

/-- Lists of one skeleton make sections of one skeleton, whatever their labels are. -/
theorem labelled_skeleton {l l' : Listing} (h : l.skeleton = l'.skeleton) (label label' : Text) :
    Fragment.skeleton (labelled label l) = Fragment.skeleton (labelled label' l') := by
  unfold labelled
  rw [l.isEmpty_eq, l'.isEmpty_eq, h]
  split
  · rfl
  · rw [skeleton_heading_cons, skeleton_heading_cons, skeleton_list_cons h]

/-! ## The tags of what is written -/

mutual

theorem Item.write_hasTags : ∀ {i : Item}, i.Safe → HasTags i.write i.skeleton
  | .mk html lists, h => by
    rw [Item.Safe] at h
    have hinner := (HasTags.of_safe h.1).append (writeLists_hasTags h.2)
    simpa [Item.write, Item.skeleton] using HasTags.element "li" (by decide) hinner

theorem writeLists_hasTags : ∀ {ls : List Listing}, ListsSafe ls → HasTags (writeLists ls) (listsSkeleton ls)
  | [], _ => HasTags.of_safe .nil
  | l :: ls, h => by
    rw [ListsSafe] at h
    have hl := (HasTags.lineFeed.append (Listing.write_hasTags h.1)).append HasTags.lineFeed
    have hls := writeLists_hasTags h.2
    rw [writeLists, listsSkeleton]
    split
    · exact hls
    · simpa using hl.append hls

theorem Listing.write_hasTags : ∀ {l : Listing}, l.Safe → HasTags l.write l.skeleton
  | .mk ordered items, h => by
    rw [Listing.Safe] at h
    have hinner := (writeItems_hasTags h).append HasTags.lineFeed
    have hname : '>' ∉ tagName ordered := by cases ordered <;> decide
    simpa [Listing.write, Listing.skeleton] using HasTags.element (tagName ordered) hname hinner

theorem writeItems_hasTags : ∀ {is : List Item}, ItemsSafe is → HasTags (writeItems is) (itemsSkeleton is)
  | [], _ => HasTags.of_safe .nil
  | i :: is, h => by
    rw [ItemsSafe] at h
    have hi := HasTags.lineFeed.append (Item.write_hasTags h.1)
    simpa [writeItems, itemsSkeleton] using hi.append (writeItems_hasTags h.2)

end

theorem Block.write_hasTags {b : Block} (h : b.Safe) : HasTags b.write b.skeleton := by
  cases b with
  | paragraph html => exact HasTags.element "p" (by decide) (.of_safe h)
  | heading label =>
    have ht := HasTags.of_safe ((escape_safe label).append (.of_plain (s := [':']) rfl))
    have hs := HasTags.element "p" (by decide) (HasTags.element "strong" (by decide) ht)
    simpa [Block.write, Block.skeleton] using hs
  | list l => exact Listing.write_hasTags h

/-- The tags of a fragment of safe texts are its skeleton. -/
theorem tags_write {f : Fragment} (h : ∀ b ∈ f, b.Safe) : tags f.write = Fragment.skeleton f := by
  refine HasTags.tags_eq ?_
  unfold Fragment.write Fragment.skeleton join
  have hs : ∀ b ∈ f.filter fun b => !b.isVoid, b.Safe := fun b hb => h b (List.mem_filter.1 hb).1
  generalize f.filter (fun b => !b.isVoid) = shown at hs
  induction shown with
  | nil => exact .of_safe .nil
  | cons b bs ih =>
    have hb := Block.write_hasTags (hs b (by simp))
    have hbs := ih fun c hc => hs c (by simp [hc])
    cases bs with
    | nil => simpa using hb
    | cons c cs =>
      rw [List.map_cons, List.map_cons, List.intercalate_cons_cons, List.flatMap_cons]
      simpa using (hb.append HasTags.lineFeed).append hbs

end DiagramProse.Html
