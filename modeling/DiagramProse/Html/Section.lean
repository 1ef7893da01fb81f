import DiagramProse.Html.Fragment

/-!
The common shape of descriptions: a list under a label, left out as a whole if it has no items.
-/

namespace DiagramProse.Html

/-- A label and a list below it, or nothing if the list has no items. -/
def labelled (label : Text) (l : Listing) : Fragment :=
  if l.isEmpty then [] else [.heading label, .list l]

end DiagramProse.Html
