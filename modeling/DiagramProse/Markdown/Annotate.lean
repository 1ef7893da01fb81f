import DiagramProse.Markdown.Details

/-!
Documents with details behind their diagrams. All else in a document stays as it is.
-/

namespace DiagramProse.Markdown

open Text

/-- A text that ends its last line. -/
def withLineEnd (s : Text) : Text := if s.getLast? = some '\n' then s else s ++ ['\n']

/-- The text from position `i` up to position `j`. -/
def between (s : Text) (i j : Nat) : Text := (s.take j).drop i

/-- Inserts texts on lines of their own behind the given positions, which increase. `out` is what was
written already and `done` the position up to which it goes. -/
def insertFrom (document out : Text) (done : Nat) : List (Nat × Text) → Text
  | [] => out ++ document.drop done
  | (position, inserted) :: rest =>
    insertFrom document (withLineEnd (out ++ between document done position) ++ inserted) position rest

/-- What is inserted behind the blocks of a document, and where. -/
def insertions (document : Text) (options : Options) : List (Nat × Text) :=
  ((DiagramBlock.collect document options).map fun b => (b.stop, b.companion options)).filter
    fun (_, text) => !text.isEmpty

/-- Shows source and description of every diagram behind its code block. -/
def annotate (document : Text) (options : Options) : Text :=
  insertFrom document [] 0 (insertions document options)

end DiagramProse.Markdown
