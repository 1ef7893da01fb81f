import DiagramProse.Dialect
import DiagramProse.Kind.Basic
import DiagramProse.Text.Lines

/-!
Telling the kind of a diagram from its source. A hint decides; then signs of C4, which look like
messages otherwise; then the header of a Mermaid source and the start marker of a PlantUML one; and
last what the lines look like, in a fixed order.
-/

namespace DiagramProse

open Text

/-! ## Places in a source -/

/-- The text behind each line feed. -/
def afterLineFeeds : Text → List Text
  | [] => []
  | c :: s => if c = '\n' then s :: afterLineFeeds s else afterLineFeeds s

/-- The text from the first mark of each line on, blank lines in front of it left out. -/
def lineBeginnings (s : Text) : List Text := (s :: afterLineFeeds s).map trimStart

/-- Whether the text from some place on has property `f`. -/
def anySuffix (f : Text → Bool) : Text → Bool
  | [] => f []
  | c :: s => f (c :: s) || anySuffix f s

/-- The lines that are neither blank nor comments, trimmed. -/
def tellingLines (source : Text) : List Text :=
  (source.lines.map trim).filter fun line => !line.isEmpty && !isComment line

/-- The first line that is neither blank, nor a comment, nor part of front matter between dashes. -/
def firstTellingLine : (inFrontMatter : Bool) → List Text → Option Text
  | _, [] => none
  | inFrontMatter, raw :: rest =>
    let line := raw.trim
    if line = "---" then firstTellingLine (!inFrontMatter) rest
    else if inFrontMatter || line.isEmpty || isComment line then firstTellingLine inFrontMatter rest
    else some line

def firstLine? (source : Text) : Option Text := firstTellingLine false source.lines

/-! ## C4 -/

/-- What is found in no source but one of C4, in lower case. -/
def c4Markers : List Text := ["!include <c4/", "c4-plantuml", "c4_context", "c4_container", "c4_component"]

/-- What the name of a C4 element begins with. -/
def c4ElementWords : List Text := ["Person", "System", "Container", "Component"]

/-- What can follow that. -/
def c4ElementForms : List Text := ["", "_Ext", "Db", "Db_Ext", "Queue", "Queue_Ext", "_Boundary"]

/-- Whether a text begins with the call of a C4 element. -/
def beginsC4Element (s : Text) : Bool :=
  c4ElementWords.any fun word =>
    (dropPrefix? s word).any fun rest =>
      c4ElementForms.any fun form =>
        (dropPrefix? rest form).any fun after => after.trimStart.startsWith ['(']

def looksLikeC4 (source lower : Text) : Bool :=
  c4Markers.any lower.contains
    || (firstLine? source).any (fun line => line.lowerAscii.startsWith "c4")
    || (lineBeginnings source).any beginsC4Element

/-! ## Headers and markers -/

/-- The kinds that the header of a Mermaid source can name. -/
def mermaidHeaders : List (Text × DiagramKind) := [
  ("classdiagram", .classes),
  ("classdiagram-v2", .classes),
  ("sequencediagram", .sequence),
  ("statediagram", .state),
  ("statediagram-v2", .state),
  ("erdiagram", .entityRelationship),
  ("gantt", .gantt),
  ("pie", .pie),
  ("flowchart", .generic),
  ("graph", .generic),
  ("journey", .generic),
  ("mindmap", .generic),
  ("timeline", .generic),
  ("gitgraph", .generic),
  ("quadrantchart", .generic),
  ("requirementdiagram", .generic),
  ("xychart-beta", .generic),
  ("sankey-beta", .generic),
  ("block-beta", .generic)]

def kindOfHeader? (source : Text) : Option DiagramKind := do
  let header ← firstLine? source
  mermaidHeaders.lookup (header.lowerAscii.words.headD [])

/-- The kind named behind the first start marker; the common marker for all kinds names none. -/
def kindOfMarker? (lower : Text) : Option DiagramKind := do
  let (_, rest) ← cut? "@start" lower
  let marker := rest.takeWhile Char.isAlphanum
  if marker = "uml" then none
  else if marker = "gantt" then some .gantt
  else if marker = "sequence" then some .sequence
  else if marker = "activity" then some .activity
  else if marker = "state" then some .state
  else if marker = "chen" then some .entityRelationship
  else some .generic

/-! ## What lines look like -/

def looksLikeActivity (line : Text) : Bool :=
  (line.startsWith [':'] && line.endsWith [';'])
    || (["start", "stop", "endif", "endwhile", "fork again", "end fork", "split again"] :
        List Text).contains line
    || line.startsWith "repeat while"

def looksLikeClass (line : Text) : Bool :=
  line.startsWithAny ["class ", "interface ", "abstract ", "enum ", "enumeration ", "annotation "]
    || (["<|--", "--|>", "<|..", "..|>", "*--", "--*", "o--", "--o "] : List Text).any line.contains

def looksLikeSequence (line : Text) : Bool :=
  line.startsWithAny [
      "participant ", "actor ", "boundary ", "control ", "database ", "collections ", "queue ",
      "autonumber", "activate "]
    || line.contains "->"

def looksLikeEntityRelationship (line : Text) : Bool :=
  (line.startsWith "entity " && line.endsWith ['\x7b'])
    || (["||--", "\x7do--", "\x7d|--", "--o\x7b", "--|\x7b", "|o--"] : List Text).any line.contains

/-- Whether a text begins with something in parentheses, which may be anything but a closing one. -/
def beginsRound (s : Text) : Bool :=
  ((dropPrefix? s ['(']).bind (cutAt? (· == ')'))).any fun (inner, _) => !inner.isEmpty

/-- Whether a text begins with something in square brackets that holds neither `]` nor `*`. -/
def beginsSquare (s : Text) : Bool :=
  (dropPrefix? s ['[']).any fun rest =>
    let inner := rest.takeWhile fun c => c != ']' && c != '*'
    !inner.isEmpty && Text.startsWith (rest.drop inner.length) [']']

def looksLikeUseCase (source : Text) : Bool :=
  (lineBeginnings source).any (fun s =>
      ((dropPrefix? s "usecase").bind afterBlanks?).isSome || beginsRound s)
    || anySuffix (fun s => (dropPrefix? s "->").any fun rest => beginsRound rest.trimStart) source

def looksLikeComponent (source : Text) : Bool :=
  (lineBeginnings source).any fun s =>
    ((dropPrefix? s "component").bind afterBlanks?).isSome || beginsSquare s

/-! ## The kind -/

/-- The kind of a source without header and marker. -/
def kindOfLines (source lower : Text) : DiagramKind :=
  let lines := tellingLines source
  if lines.any looksLikeActivity then .activity
  else if lower.contains "[*]" || lines.any (fun line => line.startsWith "state ") then .state
  else if lines.any looksLikeClass then .classes
  else if looksLikeUseCase source then .useCase
  else if lines.any looksLikeSequence then .sequence
  else if lines.any looksLikeEntityRelationship then .entityRelationship
  else if looksLikeComponent source then .component
  else .generic

/-- The kind of a source in the given notation, told by its contents alone. -/
def kindOfSource (source : Text) (dialect : Dialect) : DiagramKind :=
  let lower := source.lowerAscii
  if looksLikeC4 source lower then .c4
  else
    let header := if dialect = .mermaid then kindOfHeader? source else none
    (header <|> kindOfMarker? lower).getD (kindOfLines source lower)

/-- The kind of a source. A notation that is not given is guessed. -/
def DiagramKind.detect (source : Text) (hint : Option Text) (dialect : Option Dialect) : DiagramKind :=
  (hint.bind ofHint?).getD (kindOfSource source (dialect.getD (.guess source)))

end DiagramProse
