import DiagramProse.Markdown.Fence
import DiagramProse.Options.Basic
import DiagramProse.Text.Word

/-!
Code blocks that hold diagrams, and what is set for them behind the language of their fences: an image
type, a title, and whether source or description are hidden.
-/

namespace DiagramProse

open Text

/-! ## Settings -/

/-- What is set for a block. -/
structure BlockSettings where
  imageType : Option Text := none
  title : Option Text := none
  hidesSource : Bool := false
  hidesDescription : Bool := false
deriving DecidableEq, Repr

namespace BlockSettings

/-- The text up to the next double quote, if it is not empty. -/
def quotedValue? (s : Text) : Option Text :=
  (cutAt? (· == '"') s).bind fun (value, _) => nonempty? value

/-- The value behind the first place where `opening` begins a word and a value follows. `before` is the
character in front of the text. -/
def valueBehind? (opening : Text) : (before : Option Char) → Text → Option Text
  | _, [] => none
  | before, c :: s =>
    let value :=
      if isBoundary before (some c) then (dropPrefix? (c :: s) opening).bind quotedValue? else none
    value <|> valueBehind? opening (some c) s

/-- The value of a setting that is written as its name, an equals sign and the value in quotes. -/
def value? (name : Text) (s : Text) : Option Text := valueBehind? (name ++ ['=', '"']) none s

/-- Reads the text behind the language of a fence. -/
def read (s : Text) : BlockSettings where
  imageType := value? "imgType" s
  title := value? "imgTitle" s <|> value? "title" s
  hidesSource := s.words.contains "hideSource".toList
  hidesDescription := s.words.contains "hideA11y".toList

end BlockSettings

/-! ## Blocks -/

/-- A code block that holds a diagram, and the positions in the document between which it stands. -/
structure DiagramBlock where
  language : Text
  settings : BlockSettings
  source : Text
  start : Nat
  stop : Nat
deriving DecidableEq, Repr

namespace DiagramBlock

/-- The diagram in a fenced block: the first word behind the fence is its language. -/
def ofFence (f : Markdown.Fence) : DiagramBlock :=
  let info := f.info.trim
  let (language, rest) := (cutAt? isBlank info).getD (info, [])
  ⟨language, .read rest, f.code, f.start, f.stop⟩

/-- All blocks of a document in a language that holds diagrams. -/
def collect (document : Text) (options : Options) : List DiagramBlock :=
  ((Markdown.fences document).map ofFence).filter fun b => options.handlesLanguage b.language

/-- The notation by image type, or by the language of the fence. -/
def dialect? (b : DiagramBlock) : Option Dialect :=
  b.settings.imageType.bind Dialect.ofName? <|> Dialect.ofName? b.language

/-- What the image type says about the kind of the diagram. -/
def kindHint? (b : DiagramBlock) : Option Text :=
  if b.settings.imageType = some "c4plantuml".toList then some "c4" else none

end DiagramBlock

end DiagramProse
