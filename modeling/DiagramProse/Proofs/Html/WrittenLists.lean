import DiagramProse.Html.Fragment
import DiagramProse.Proofs.Text.Cuts
import DiagramProse.Proofs.Text.Lines

/-!
Writing loses nothing of a list but the lists without items below it. What a list is written as can be read in one way
only, wherever it stands (`Listing.write_inj`): the first tag behind the text of an item says whether a list begins
there or the item ends, so that a line feed in front of it belongs to the text or to the markup. Lists without items
leave no trace, at whatever depth they stand (`write_pruned`).
-/

namespace DiagramProse.Html

open Text

/-! ## Lists that are written as they are -/

mutual

/-- An item with no tag in its text, nor in those of the items below it, and with no list below it that has no items. -/
def Item.Legible : Item → Prop
  | .mk html lists => '<' ∉ html ∧ ListsLegible lists

def ListsLegible : List Listing → Prop
  | [] => True
  | l :: ls => l.Legible ∧ ListsLegible ls

/-- A list with items, all of them legible. -/
def Listing.Legible : Listing → Prop
  | .mk _ items => items ≠ [] ∧ ItemsLegible items

def ItemsLegible : List Item → Prop
  | [] => True
  | i :: is => i.Legible ∧ ItemsLegible is

end

theorem Listing.Legible.isEmpty {l : Listing} (h : l.Legible) : l.isEmpty = false := by
  obtain ⟨ordered, items⟩ := l
  rw [Legible] at h
  simpa [Listing.isEmpty, Listing.items] using h.1

theorem length_openTag_tagName (ordered : Bool) : (openTag (tagName ordered)).length = 4 := by
  cases ordered <;> rfl

theorem openTag_tagName_inj {ordered ordered' : Bool} (h : openTag (tagName ordered) = openTag (tagName ordered')) :
    ordered = ordered' := by
  revert ordered ordered'
  decide

/-- A list begins with a tag that ends no item. -/
theorem Listing.exists_write (l : Listing) : ∃ c s, c ≠ '/' ∧ l.write = '<' :: c :: s := by
  obtain ⟨ordered, items⟩ := l
  cases ordered with
  | false => exact ⟨'u', _, by decide, rfl⟩
  | true => exact ⟨'o', _, by decide, rfl⟩

theorem writeLists_cons {l : Listing} (h : l.Legible) (ls : List Listing) (r : Text) :
    writeLists (l :: ls) ++ r = '\n' :: (l.write ++ '\n' :: (writeLists ls ++ r)) := by
  simp [writeLists, h.isEmpty]

theorem writeItems_cons_append (i : Item) (is : List Item) (r : Text) :
    writeItems (i :: is) ++ r = '\n' :: (i.write ++ (writeItems is ++ r)) := by
  simp [writeItems]

/-- The line feed between the text of an item and the lists below it. -/
def feed (ls : List Listing) : Text := if ls.isEmpty then [] else ['\n']

theorem not_mem_feed (ls : List Listing) : '<' ∉ feed ls := by
  unfold feed
  split <;> decide

/-- Behind the text of an item stands a tag, which is the end of the item if there are no lists below it. -/
theorem exists_tag {ls : List Listing} (h : ListsLegible ls) (r : Text) :
    ∃ c s, writeLists ls ++ (closeTag "li" ++ r) = feed ls ++ '<' :: c :: s ∧ ls.isEmpty = (c == '/') := by
  cases ls with
  | nil => exact ⟨'/', _, rfl, rfl⟩
  | cons l ls =>
    rw [ListsLegible] at h
    obtain ⟨c, s, hc, hs⟩ := l.exists_write
    refine ⟨c, s ++ '\n' :: (writeLists ls ++ (closeTag "li" ++ r)), ?_, (beq_eq_false_iff_ne.2 hc).symm⟩
    rw [writeLists_cons h.1, hs]
    rfl

/-! ## Reading what is written -/

/-- The first tag parts a text in one way only. -/
theorem append_tag_inj {s s' t t' : Text} (hs : '<' ∉ s) (hs' : '<' ∉ s') (h : s ++ '<' :: t = s' ++ '<' :: t') :
    s = s' ∧ t = t' := by
  have hcut := congrArg (cutAt? (· == '<')) h
  rw [cutAt?_char_append hs, cutAt?_char_append hs'] at hcut
  simpa using hcut

/-- The text of an item ends in front of a tag, less a line feed if a list begins there. -/
theorem html_inj {html html' r r' : Text} {ls ls' : List Listing} (hhtml : '<' ∉ html) (hhtml' : '<' ∉ html')
    (hls : ListsLegible ls) (hls' : ListsLegible ls')
    (h : html ++ (writeLists ls ++ (closeTag "li" ++ r)) = html' ++ (writeLists ls' ++ (closeTag "li" ++ r'))) :
    html = html' ∧ writeLists ls ++ (closeTag "li" ++ r) = writeLists ls' ++ (closeTag "li" ++ r') := by
  obtain ⟨c, s, hs, hc⟩ := exists_tag hls r
  obtain ⟨c', s', hs', hc'⟩ := exists_tag hls' r'
  rw [hs, hs', ← List.append_assoc, ← List.append_assoc] at h
  obtain ⟨hfront, hbehind⟩ :=
    append_tag_inj (by simp [hhtml, not_mem_feed]) (by simp [hhtml', not_mem_feed]) h
  obtain ⟨rfl, rfl⟩ := List.cons.inj hbehind
  -- the tags are the same, so either both texts have a line feed behind them that is markup, or neither has
  have hfeed : feed ls = feed ls' := by rw [feed, feed, hc, hc']
  rw [hfeed] at hfront hs
  exact ⟨List.append_cancel_right hfront, by rw [hs, hs']⟩

mutual

/-- An item is told by what is written, and so is the text behind it. -/
theorem Item.write_inj : ∀ {i i' : Item}, i.Legible → i'.Legible → ∀ {r r' : Text},
    i.write ++ r = i'.write ++ r' → i = i' ∧ r = r'
  | .mk html lists, .mk html' lists', hi, hi', r, r', h => by
    rw [Item.Legible] at hi hi'
    have hopened : html ++ (writeLists lists ++ (closeTag "li" ++ r)) =
        html' ++ (writeLists lists' ++ (closeTag "li" ++ r')) := by
      simpa only [Item.write, List.append_assoc, List.append_cancel_left_eq] using h
    obtain ⟨rfl, hbehind⟩ := html_inj hi.1 hi'.1 hi.2 hi'.2 hopened
    obtain ⟨rfl, rfl⟩ := writeLists_inj hi.2 hi'.2 hbehind
    exact ⟨rfl, rfl⟩

/-- The lists of an item go on up to the end of the item. -/
theorem writeLists_inj : ∀ {ls ls' : List Listing}, ListsLegible ls → ListsLegible ls' → ∀ {r r' : Text},
    writeLists ls ++ (closeTag "li" ++ r) = writeLists ls' ++ (closeTag "li" ++ r') → ls = ls' ∧ r = r'
  | [], [], _, _, r, r', h => ⟨rfl, List.append_cancel_left h⟩
  | [], l' :: ls', _, hls', r, r', h => by
    rw [ListsLegible] at hls'
    rw [writeLists_cons hls'.1] at h
    exact absurd (List.cons.inj h).1 (by decide)
  | l :: ls, [], hls, _, r, r', h => by
    rw [ListsLegible] at hls
    rw [writeLists_cons hls.1] at h
    exact absurd (List.cons.inj h).1 (by decide)
  | l :: ls, l' :: ls', hls, hls', r, r', h => by
    rw [ListsLegible] at hls hls'
    rw [writeLists_cons hls.1, writeLists_cons hls'.1] at h
    obtain ⟨rfl, hrest⟩ := Listing.write_inj hls.1 hls'.1 (List.cons.inj h).2
    obtain ⟨rfl, rfl⟩ := writeLists_inj hls.2 hls'.2 (List.cons.inj hrest).2
    exact ⟨rfl, rfl⟩

/-- A list is told by what is written, and so is the text behind it. -/
theorem Listing.write_inj : ∀ {l l' : Listing}, l.Legible → l'.Legible → ∀ {r r' : Text},
    l.write ++ r = l'.write ++ r' → l = l' ∧ r = r'
  | .mk ordered items, .mk ordered' items', hl, hl', r, r', h => by
    rw [Listing.Legible] at hl hl'
    simp only [Listing.write, List.append_assoc, List.cons_append] at h
    have hlength : (openTag (tagName ordered)).length = (openTag (tagName ordered')).length := by
      rw [length_openTag_tagName, length_openTag_tagName]
    obtain rfl := openTag_tagName_inj (List.append_inj_left h hlength)
    obtain ⟨rfl, rfl⟩ := writeItems_inj ordered hl.2 hl'.2 (List.append_cancel_left h)
    exact ⟨rfl, rfl⟩

/-- The items of a list go on up to the end of the list. -/
theorem writeItems_inj (ordered : Bool) : ∀ {is is' : List Item}, ItemsLegible is → ItemsLegible is' →
    ∀ {r r' : Text}, writeItems is ++ '\n' :: (closeTag (tagName ordered) ++ r) =
      writeItems is' ++ '\n' :: (closeTag (tagName ordered) ++ r') → is = is' ∧ r = r'
  | [], [], _, _, r, r', h => ⟨rfl, List.append_cancel_left (List.cons.inj h).2⟩
  | [], ⟨_, _⟩ :: is', _, _, r, r', h => by
    simp [writeItems, Item.write, openTag, closeTag] at h
  | ⟨_, _⟩ :: is, [], _, _, r, r', h => by
    simp [writeItems, Item.write, openTag, closeTag] at h
  | i :: is, i' :: is', his, his', r, r', h => by
    rw [ItemsLegible] at his his'
    rw [writeItems_cons_append, writeItems_cons_append] at h
    obtain ⟨rfl, hrest⟩ := Item.write_inj his.1 his'.1 (List.cons.inj h).2
    obtain ⟨rfl, rfl⟩ := writeItems_inj ordered his.2 his'.2 hrest
    exact ⟨rfl, rfl⟩

end

/-! ## Lists without items -/

mutual

/-- An item without the lists below it that have no items, at whatever depth. -/
def Item.pruned : Item → Item
  | .mk html lists => .mk html (prunedLists lists)

def prunedLists : List Listing → List Listing
  | [] => []
  | l :: ls => if l.isEmpty then prunedLists ls else l.pruned :: prunedLists ls

def Listing.pruned : Listing → Listing
  | .mk ordered items => .mk ordered (prunedItems items)

def prunedItems : List Item → List Item
  | [] => []
  | i :: is => i.pruned :: prunedItems is

end

def Block.pruned : Block → Block
  | .list l => .list l.pruned
  | b => b

/-- A fragment without lists that have no items, be they blocks or below the items of other lists. -/
def Fragment.pruned (f : Fragment) : Fragment := (f.filter fun b => !b.isVoid).map Block.pruned

theorem prunedLists_eq (ls : List Listing) : prunedLists ls = (ls.filter fun l => !l.isEmpty).map Listing.pruned := by
  induction ls with
  | nil => rfl
  | cons l ls ih =>
    rw [prunedLists, ih]
    cases h : l.isEmpty <;> simp [h]

theorem Listing.isEmpty_pruned (l : Listing) : l.pruned.isEmpty = l.isEmpty := by
  obtain ⟨ordered, items⟩ := l
  cases items <;> rfl

mutual

theorem Item.write_pruned : ∀ i : Item, i.pruned.write = i.write
  | .mk html lists => by rw [Item.pruned, Item.write, Item.write, writeLists_pruned]

theorem writeLists_pruned : ∀ ls : List Listing, writeLists (prunedLists ls) = writeLists ls
  | [] => rfl
  | l :: ls => by
    rw [prunedLists, writeLists]
    split
    · rw [writeLists_pruned, List.nil_append]
    · next h => rw [writeLists, Listing.isEmpty_pruned, if_neg h, Listing.write_pruned, writeLists_pruned]

theorem Listing.write_pruned : ∀ l : Listing, l.pruned.write = l.write
  | .mk ordered items => by rw [Listing.pruned, Listing.write, Listing.write, writeItems_pruned]

theorem writeItems_pruned : ∀ is : List Item, writeItems (prunedItems is) = writeItems is
  | [] => rfl
  | i :: is => by rw [prunedItems, writeItems, writeItems, Item.write_pruned, writeItems_pruned]

end

namespace Block

theorem write_pruned (b : Block) : b.pruned.write = b.write := by
  cases b with
  | list l => exact l.write_pruned
  | _ => rfl

theorem isVoid_pruned (b : Block) : b.pruned.isVoid = b.isVoid := by
  cases b with
  | list l => exact l.isEmpty_pruned
  | _ => rfl

end Block

namespace Fragment

theorem write_pruned (f : Fragment) : Fragment.write f.pruned = f.write := by
  have hvoid : (fun b : Block => !b.isVoid) ∘ Block.pruned = fun b => !b.isVoid :=
    funext fun b => congrArg not b.isVoid_pruned
  have hwrite : Block.write ∘ Block.pruned = Block.write := funext Block.write_pruned
  rw [write, write, pruned, List.filter_map, hvoid, List.filter_filter, List.map_map, hwrite]
  simp

/-- What stands around a list with items does not depend on the list. -/
theorem exists_write_around (f g : Fragment) : ∃ before after : Text, ∀ l : Listing, l.isEmpty = false →
    Fragment.write (f ++ .list l :: g) = before ++ l.write ++ after := by
  refine ⟨join "\n" ((f.filter fun b => !b.isVoid).map Block.write ++ [[]]),
    join "\n" ([] :: (g.filter fun b => !b.isVoid).map Block.write), fun l hl => ?_⟩
  have hshown : (f ++ .list l :: g).filter (fun b => !b.isVoid) =
      f.filter (fun b => !b.isVoid) ++ .list l :: g.filter fun b => !b.isVoid := by
    rw [List.filter_append, List.filter_cons_of_pos (by simp [Block.isVoid, hl])]
  rw [write, hshown, List.map_append, List.map_cons]
  exact join_around "\n" l.write _ _

/-- Lists without items leave no trace, whether they are attached to an item, in a fragment or anywhere below, and of
other lists all can be told from what is written: which of them are ordered, their items, and the texts of these. -/
theorem write_tells_lists :
    (∀ {f g : Fragment} {l l' : Listing}, l.Legible → l'.Legible →
        Fragment.write (f ++ .list l :: g) = Fragment.write (f ++ .list l' :: g) → l = l') ∧
      (∀ {l : Listing}, l.isEmpty = true →
        (∀ (html : Text) (lists lists' : List Listing),
          (Item.mk html (lists ++ l :: lists')).write = (Item.mk html (lists ++ lists')).write) ∧
        ∀ f g : Fragment, Fragment.write (f ++ .list l :: g) = Fragment.write (f ++ g)) ∧
      ∀ f : Fragment, Fragment.write f.pruned = f.write := by
  refine ⟨fun {f g l l'} hl hl' h => ?_, fun {l} hl => ⟨fun html lists lists' => ?_, fun f g => ?_⟩, write_pruned⟩
  · obtain ⟨before, after, hwrite⟩ := exists_write_around f g
    rw [hwrite l hl.isEmpty, hwrite l' hl'.isEmpty, List.append_assoc, List.append_assoc] at h
    exact (Listing.write_inj hl hl' (List.append_cancel_left h)).1
  · have hskip : prunedLists (lists ++ l :: lists') = prunedLists (lists ++ lists') := by
      simp [prunedLists_eq, List.filter_append, hl]
    rw [Item.write, Item.write, ← writeLists_pruned, hskip, writeLists_pruned]
  · have hskip : Fragment.pruned (f ++ .list l :: g) = Fragment.pruned (f ++ g) := by
      simp [pruned, List.filter_append, Block.isVoid, hl]
    rw [← write_pruned, hskip, write_pruned]

/-- The text of the first item ends in a line feed, and a list begins behind it. -/
theorem write_tells_lists_nested :
    let l : Listing := .mk true [.mk "parent\n" [.mk false [.leaf "child"]], .leaf "sibling"]
    let l' : Listing := .mk true [.mk "parent\n" [.ofLeaves false ["child"]], .leaf "sibling"]
    let void : Listing := .mk true []
    (l.Legible ∧ l'.Legible ∧ Fragment.write ([] ++ .list l :: []) = Fragment.write ([] ++ .list l' :: []) ∧ l = l') ∧
      void.isEmpty = true ∧ (Item.mk "parent" ([] ++ void :: [l])).write = (Item.mk "parent" ([] ++ [l])).write := by
  intro l l' void
  have hl : l.Legible := by
    simp [l, Listing.Legible, ItemsLegible, Item.Legible, ListsLegible, Item.leaf]
  have hl' : l'.Legible := hl
  have hwrite : Fragment.write ([] ++ .list l :: []) = Fragment.write ([] ++ .list l' :: []) := rfl
  exact ⟨⟨hl, hl', hwrite, write_tells_lists.1 hl hl' hwrite⟩, rfl, (write_tells_lists.2.1 rfl).1 "parent" [] [l]⟩

end Fragment

end DiagramProse.Html
