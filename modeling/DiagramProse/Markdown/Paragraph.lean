import DiagramProse.Markdown.Reference

/-!
Where blocks other than fences end that go over several lines: paragraphs, indented code, raw HTML.
Each function gives the text at the beginning of the line where the next block may begin.
-/

namespace DiagramProse.Markdown

open Text

/-- What follows the text of a paragraph. A line goes on with it, even one outside its containers, unless
the line is blank, underlines the paragraph or begins something else. -/
def afterProse (containers : List Container) : (fuel : Nat) → Text → Text
  | 0, _ => []
  | fuel + 1, s =>
    let next := afterLine s
    let line := innerLine containers next
    match line.afterUnderline? with
    | some rest => rest
    | none =>
      let contents := line.contents.skipSpaces
      if line.interrupts || contents.isAtEnd then next
      else afterProse containers fuel contents.rest

/-- What follows a paragraph. Definitions of link targets may stand at its beginning: the line behind one
goes on with the paragraph unless it is blank or begins something else. -/
def afterParagraph (containers : List Container) : (fuel : Nat) → Text → Text
  | 0, _ => []
  | fuel + 1, s =>
    match afterReference? containers s with
    | none => afterProse containers (s.length + 1) s
    | some after =>
      match afterBlankLine? after with
      | none => after
      | some next =>
        let line := innerLine containers next
        if line.isBlank || line.interrupts then next
        else afterParagraph containers fuel line.contents.skipSpaces.rest

/-- What follows indented code, and whether its last line is blank. -/
def afterIndentedCode (containers : List Container) : (fuel : Nat) → Text → (blank : Bool) → Bool × Text
  | 0, _, _ => (false, [])
  | fuel + 1, s, blank =>
    let next := (splitLineFeed s).2
    let line := innerLine containers next
    let (missing, contents) := line.contents.advance 4
    if !line.isInside || (missing ≠ 0 && !contents.isAtEnd) || contents.rest.isEmpty then
      (blank, next)
    else
      let isBlank := (afterBlankLine? contents.rest).isSome
      afterIndentedCode containers fuel contents.rest isBlank

/-- What follows a block of raw HTML. -/
def afterHtml (containers : List Container) (limit : HtmlEnd) : (fuel : Nat) → Text → Text
  | 0, _ => []
  | fuel + 1, s =>
    let (current, next) := splitLineFeed s
    let line := innerLine containers next
    let isLast :=
      match limit with
      | .mark mark => current.contains mark
      | .blankLine => line.isBlank
    if !line.isInside || isLast || line.contents.rest.isEmpty then next
    else afterHtml containers limit fuel line.contents.rest

end DiagramProse.Markdown
