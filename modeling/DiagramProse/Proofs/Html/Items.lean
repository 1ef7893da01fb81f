import DiagramProse.Html.Fragment
import Mathlib.Tactic.Common

/-!
The items of a list and all that is below them: the items in document order (`allItems`), their texts (`allTexts`), and
the lists that they have below (`listsBelow`). Each is told of lists put together, and of a list below an item.
-/

namespace DiagramProse.Html

mutual

/-- An item and all items below it in document order, each in front of those below. -/
def Item.all : Item → List Item
  | .mk html lists => .mk html lists :: itemsOfLists lists

def itemsOfLists : List Listing → List Item
  | [] => []
  | l :: ls => l.all ++ itemsOfLists ls

def Listing.all : Listing → List Item
  | .mk _ items => allItems items

/-- The items of a list and all items below them. -/
def allItems : List Item → List Item
  | [] => []
  | i :: is => i.all ++ allItems is

end

theorem allItems_append (is js : List Item) : allItems (is ++ js) = allItems is ++ allItems js := by
  induction is with
  | nil => rfl
  | cons i is ih => rw [List.cons_append, allItems, allItems, ih, List.append_assoc]

theorem allItems_leaf (html : Text) (is : List Item) : allItems (.leaf html :: is) = .leaf html :: allItems is := rfl

theorem allItems_below (html : Text) (items is : List Item) :
    allItems (.mk html [.mk false items] :: is) = .mk html [.mk false items] :: (allItems items ++ allItems is) := by
  simp [allItems, Item.all, itemsOfLists, Listing.all]

/-- The lists below the items of a list, at whatever depth. -/
def listsBelow (items : List Item) : List (List Item) :=
  (allItems items).flatMap fun i => i.lists.map Listing.items

theorem listsBelow_append (is js : List Item) : listsBelow (is ++ js) = listsBelow is ++ listsBelow js := by
  rw [listsBelow, allItems_append, List.flatMap_append, listsBelow, listsBelow]

theorem listsBelow_below (html : Text) (items is : List Item) :
    listsBelow (.mk html [.mk false items] :: is) = items :: (listsBelow items ++ listsBelow is) := by
  rw [listsBelow, allItems_below, List.flatMap_cons, List.flatMap_append]
  rfl

/-- The texts of all items. -/
def allTexts (items : List Item) : List Text := (allItems items).map Item.html

theorem allTexts_append (is js : List Item) : allTexts (is ++ js) = allTexts is ++ allTexts js := by
  rw [allTexts, allItems_append, List.map_append, allTexts, allTexts]

theorem allTexts_leaf (html : Text) : allTexts [.leaf html] = [html] := rfl

theorem allTexts_below (html : Text) (items is : List Item) :
    allTexts (.mk html [.mk false items] :: is) = html :: (allTexts items ++ allTexts is) := by
  rw [allTexts, allItems_below, List.map_cons, List.map_append]
  rfl

end DiagramProse.Html
