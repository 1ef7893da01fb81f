import DiagramProse.Text.Basic

/-!
Pie charts: labelled segments, each with a value. The share of a segment is told in whole percents.
-/

namespace DiagramProse

structure PieSegment where
  label : Text
  value : Float

structure PieChart where
  title : Option Text
  showData : Bool
  segments : List PieSegment

namespace PieChart

def empty : PieChart := ⟨none, false, []⟩

/-- The sum of the values, from the first to the last. -/
def total (c : PieChart) : Float := c.segments.foldl (fun sum s => sum + s.value) 0

end PieChart

/-- The share of a value in a total, in percents rounded to the nearest whole one, halves away from
zero; nothing is a share of a total that is not positive. -/
def percentage (value total : Float) : Int :=
  if 0 < total then (value / total * 100).round.toInt64.toInt else 0

end DiagramProse
