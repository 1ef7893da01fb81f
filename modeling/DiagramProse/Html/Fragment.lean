import DiagramProse.Html.Escape

/-!
The markup of a description: paragraphs, bold section labels, and lists whose items may hold further
lists. Text placed in an item or a paragraph is escaped before; a label is escaped here. A list
without items is never written.
-/

namespace DiagramProse.Html

mutual

/-- A list item: escaped text, then the lists below it. -/
inductive Item where
  | mk (html : Text) (lists : List Listing)

/-- A list, numbered if `ordered`. -/
inductive Listing where
  | mk (ordered : Bool) (items : List Item)

end

namespace Item

def html : Item → Text
  | mk h _ => h

def lists : Item → List Listing
  | mk _ ls => ls

/-- An item with nothing below it. -/
def leaf (html : Text) : Item := mk html []

end Item

namespace Listing

def ordered : Listing → Bool
  | mk o _ => o

def items : Listing → List Item
  | mk _ is => is

def isEmpty (l : Listing) : Bool := l.items.isEmpty

def ofLeaves (ordered : Bool) (texts : List Text) : Listing := mk ordered (texts.map Item.leaf)

end Listing

/-! ## Writing -/

def tagName (ordered : Bool) : Text := if ordered then "ol" else "ul"

def openTag (name : Text) : Text := '<' :: name ++ ['>']

def closeTag (name : Text) : Text := '<' :: '/' :: name ++ ['>']

mutual

def Item.write : Item → Text
  | .mk html lists => openTag "li" ++ html ++ writeLists lists ++ closeTag "li"

/-- The lists below an item, each between line feeds. -/
def writeLists : List Listing → Text
  | [] => []
  | l :: ls => (if l.isEmpty then [] else '\n' :: l.write ++ ['\n']) ++ writeLists ls

def Listing.write : Listing → Text
  | .mk ordered items => openTag (tagName ordered) ++ writeItems items ++ '\n' :: closeTag (tagName ordered)

/-- The items of a list, each on a new line. -/
def writeItems : List Item → Text
  | [] => []
  | i :: is => '\n' :: i.write ++ writeItems is

end

/-! ## Blocks -/

/-- One block of a description. -/
inductive Block where
  /-- A paragraph of escaped text. -/
  | paragraph (html : Text)
  /-- A bold section label, followed by a colon. -/
  | heading (label : Text)
  | list (l : Listing)

namespace Block

def isVoid : Block → Bool
  | list l => l.isEmpty
  | _ => false

def write : Block → Text
  | paragraph html => openTag "p" ++ html ++ closeTag "p"
  | heading label =>
    openTag "p" ++ openTag "strong" ++ escape label ++ [':'] ++ closeTag "strong" ++ closeTag "p"
  | list l => l.write

end Block

/-- A description is a sequence of blocks. -/
abbrev Fragment := List Block

/-- The blocks on lines of their own, without the lists that have no items. -/
def Fragment.write (f : Fragment) : Text :=
  Text.join ['\n'] ((f.filter fun b => !b.isVoid).map Block.write)

end DiagramProse.Html
