import DiagramProse.Decimal.Shortest
import DiagramProse.Html.Fragment
import DiagramProse.Locale
import DiagramProse.PieChart.Basic

/-!
The description of a pie chart: a summary, and the segments with their values and shares. English
stands in for unknown languages.
-/

namespace DiagramProse

open Text Html

/-- The words in which pie charts are described. -/
structure PiePhrases where
  empty : Text
  titled : Text
  titledMany : Text
  untitled : Text
  untitledMany : Text

namespace PiePhrases

def english : PiePhrases where
  empty := "Pie chart with no segments."
  titled := "Pie chart with title \"{title}\" showing {count} segment."
  titledMany := "Pie chart with title \"{title}\" showing {count} segments."
  untitled := "Pie chart showing {count} segment."
  untitledMany := "Pie chart showing {count} segments."

def dutch : PiePhrases where
  empty := "Taartdiagram zonder segmenten."
  titled := "Taartdiagram met titel \"{title}\" met {count} segment."
  titledMany := "Taartdiagram met titel \"{title}\" met {count} segmenten."
  untitled := "Taartdiagram met {count} segment."
  untitledMany := "Taartdiagram met {count} segmenten."

def of (l : Locale) : PiePhrases := l.pick english dutch

end PiePhrases

/-- Values are shown in full, with as few digits as tell them apart; those that are no numbers or
not finite by name. -/
def PieSegment.valueText (s : PieSegment) : Text :=
  if s.value.isNaN then "NaN"
  else if s.value.isInf then (if s.value < 0 then "-inf" else "inf")
  else (Decimal.ofFloat .up s.value).positional

def PieSegment.describe (s : PieSegment) (total : Float) : Text :=
  escape (s.label ++ ": " ++ s.valueText ++ " (" ++ ofInt (percentage s.value total) ++ "%)")

namespace PieChart

def summary (c : PieChart) (p : PiePhrases) : Text :=
  let n := c.segments.length
  match c.title with
  | some title => replace (placeholder "title") title (countPhrase n p.titled p.titledMany)
  | none => countPhrase n p.untitled p.untitledMany

def describeWith (p : PiePhrases) (c : PieChart) : Fragment :=
  if c.segments.isEmpty then [.paragraph (escape p.empty)]
  else
    [.paragraph (escape (c.summary p)),
      .list (.ofLeaves false (c.segments.map fun s => s.describe c.total))]

def describe (c : PieChart) (locale : Text) : Fragment :=
  c.describeWith (.of (.resolve locale .en))

end PieChart

end DiagramProse
