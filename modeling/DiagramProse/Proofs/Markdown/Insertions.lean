import DiagramProse.Proofs.Markdown.FenceOrder
import DiagramProse.Markdown.Annotate

/-!
Annotating a document only inserts (`annotate_splices`): the document is cut behind each diagram of which
something is shown, and there its details go in, on a line of their own. Without the insertions the
document is as it was.

The cursor of `insertFrom` is what the proof goes by. What was written so far decides whether an insertion
begins with a line feed, so the statement on `insertFrom` is about any text written before.
-/

namespace DiagramProse.Markdown

open Text

/-! ## Documents in pieces -/

/-- A line feed, unless the text ends in one. -/
def missingLineEnd (s : Text) : Text := if s.getLast? = some '\n' then [] else ['\n']

/-- A document in pieces, each with the text that is inserted behind it, and what follows them. -/
structure Splice where
  pieces : List (Text × Text)
  rest : Text

/-- The pieces without what is inserted. -/
def kept (pieces : List (Text × Text)) : Text := pieces.flatMap Prod.fst

/-- The pieces with what is inserted behind each of them. -/
def written (pieces : List (Text × Text)) : Text := pieces.flatMap fun (piece, inserted) => piece ++ inserted

/-- What is left without the insertions. -/
def Splice.document (p : Splice) : Text := kept p.pieces ++ p.rest

def Splice.text (p : Splice) : Text := written p.pieces ++ p.rest

/-- The pieces end at the given positions, counted from `done`, and each insertion is a text on a line of
its own; `out` is what was written before the first piece. -/
structure Splice.Fits (p : Splice) (out : Text) (done : Nat) (insertions : List (Nat × Text)) : Prop where
  length : p.pieces.length = insertions.length
  piece : ∀ i position text, insertions[i]? = some (position, text) →
    ∃ piece, p.pieces[i]? = some (piece, missingLineEnd (out ++ written (p.pieces.take i) ++ piece) ++ text) ∧
      done + (kept (p.pieces.take i) ++ piece).length = position

/-- One more piece in front of those that fit behind it. -/
theorem Splice.Fits.cons {p : Splice} {out piece text : Text} {done position : Nat}
    {insertions : List (Nat × Text)} (hpiece : done + piece.length = position)
    (h : p.Fits (out ++ piece ++ missingLineEnd (out ++ piece) ++ text) position insertions) :
    Splice.Fits ⟨(piece, missingLineEnd (out ++ piece) ++ text) :: p.pieces, p.rest⟩ out done
      ((position, text) :: insertions) := by
  refine ⟨by simp [h.length], fun i position' text' hi => ?_⟩
  cases i with
  | zero =>
    cases hi
    exact ⟨piece, by simp [written], by simpa [kept] using hpiece⟩
  | succ i =>
    obtain ⟨piece', hp, hposition⟩ := h.piece i position' text' hi
    refine ⟨piece', ?_, ?_⟩
    · simpa [written] using hp
    · simp only [kept, List.take_succ_cons, List.flatMap_cons, List.length_append] at hposition ⊢
      omega

end DiagramProse.Markdown
