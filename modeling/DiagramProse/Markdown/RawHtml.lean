import DiagramProse.Markdown.Cursor

/-!
Where a block of raw HTML begins, told from the text that begins with `<`. Some blocks go on until a
closing mark, the others until a blank line; of the latter, those that begin with any other tag do not
interrupt a paragraph.
-/

namespace DiagramProse.Markdown

open Text

/-- How far a block of raw HTML goes. -/
inductive HtmlEnd where
  | mark (mark : Text)
  | blankLine
deriving DecidableEq, Repr

/-! ## Blocks with a closing mark -/

/-- Tags whose contents are not markup. -/
def verbatimTags : List Text := ["pre", "style", "script", "textarea"]

/-- The mark that ends a block, given the text behind the opening bracket. -/
def closingMark? (s : Text) : Option Text :=
  let tag := verbatimTags.find? fun tag =>
    equalIgnoreAsciiCase (s.take tag.length) tag
      && !(s.drop tag.length).head?.any fun c => !(isGapOrEnd c || c == '>')
  match tag with
  | some tag => some ('<' :: '/' :: tag ++ ['>'])
  | none =>
    if s.startsWith "!--" then some "-->"
    else if s.startsWith ['?'] then some "?>"
    else if s.startsWith "![CDATA[" then some "]]>"
    else
      match s with
      | '!' :: c :: _ => if c.isAlpha then some ['>'] else none
      | _ => none

/-! ## Blocks that begin with the tag of a block element -/

def blockTags : List Text :=
  List.map String.toList [
    "address", "article", "aside", "base", "basefont", "blockquote", "body", "caption", "center",
    "col", "colgroup", "dd", "details", "dialog", "dir", "div", "dl", "dt", "fieldset", "figcaption",
    "figure", "footer", "form", "frame", "frameset", "h1", "h2", "h3", "h4", "h5", "h6", "head",
    "header", "hr", "html", "iframe", "legend", "li", "link", "main", "menu", "menuitem", "nav",
    "noframes", "ol", "optgroup", "option", "p", "param", "search", "section", "summary", "table",
    "tbody", "td", "tfoot", "th", "thead", "title", "tr", "track", "ul"]

/-- Whether the text behind the opening bracket is the tag of a block element. -/
def beginsBlockTag (s : Text) : Bool :=
  let t := (dropPrefix? s ['/']).getD s
  let name := t.takeWhile Char.isAlphanum
  let rest := t.drop name.length
  blockTags.contains (lowerAscii name)
    && (Text.startsWith rest "/>"
      || !rest.head?.any fun c => !(c == ' ' || c == '\t' || isLineEnd c || c == '>'))

/-! ## Blocks that begin with any complete tag -/

def isAttributeChar (c : Char) : Bool :=
  c.isAlphanum || c == '_' || c == '.' || c == ':' || c == '-'

def isBareValueChar (c : Char) : Bool :=
  !(c == '\'' || c == '"' || c == ' ' || c == '=' || c == '>' || c == '<' || c == '\x60' || isLineEnd c)

/-- What follows the value of an attribute, which lies on one line. -/
def afterValue? (s : Text) : Option Text :=
  match s with
  | [] => none
  | c :: rest =>
    if c = '"' ∨ c = '\'' then
      match cutAt? (fun x => x == c || isLineEnd x) rest with
      | some (value, after) => if (rest.drop value.length).head? = some c then some after else none
      | none => none
    else if isBareValueChar c then some (s.dropWhile isBareValueChar)
    else none

/-- What follows an attribute. Blanks behind a name without a value belong to what follows. -/
def afterAttribute? (s : Text) : Option Text :=
  match s with
  | [] => none
  | c :: rest =>
    if c.isAlpha || c == '_' || c == ':' then
      let afterName := rest.dropWhile isAttributeChar
      let next := afterName.dropWhile isGap
      if next.head?.any isLineEnd then none
      else
        match dropPrefix? next ['='] with
        | some value => afterValue? (value.dropWhile isGap)
        | none => some afterName
    else none

/-- What follows the attributes of an opening tag, each with blanks in front. -/
def afterAttributes? : (fuel : Nat) → Text → Option Text
  | 0, _ => none
  | fuel + 1, s =>
    let t := s.dropWhile isGap
    match t.head? with
    | none => none
    | some c =>
      if isLineEnd c then none
      else if c = '/' ∨ c = '>' then some t
      else if t.length = s.length then none
      else (afterAttribute? t).bind (afterAttributes? fuel)

/-- What follows a complete opening or closing tag, of which the bracket was read. -/
def afterTag? (s : Text) : Option Text := do
  let (closing, t) := match dropPrefix? s ['/'] with
    | some t => (true, t)
    | none => (false, s)
  guard (t.head?.any Char.isAlpha)
  let afterName := t.dropWhile fun c => c.isAlphanum || c == '-'
  if closing then dropPrefix? (afterName.dropWhile isGap) ['>']
  else
    let u := (← afterAttributes? (s.length + 1) afterName).dropWhile isGap
    dropPrefix? ((dropPrefix? u ['/']).getD u) ['>']

/-- Whether a complete tag stands alone on its line. -/
def isLoneTag (s : Text) : Bool := ((afterTag? s).bind afterBlankLine?).isSome

/-! ## Blocks -/

/-- The block that begins here and that can interrupt a paragraph. -/
def interruptingHtml? (s : Text) : Option HtmlEnd := do
  let t ← dropPrefix? s ['<']
  (closingMark? t).map HtmlEnd.mark <|> (if beginsBlockTag t then some .blankLine else none)

/-- The block that begins here. -/
def htmlBlock? (s : Text) : Option HtmlEnd :=
  interruptingHtml? s
    <|> (dropPrefix? s ['<']).bind fun t => if isLoneTag t then some .blankLine else none

end DiagramProse.Markdown
