import DiagramProse.Text.Keyed
import DiagramProse.Yaml.Scalar

/-!
The tokens of a YAML stream. Indentation becomes tokens that open and close block collections. A scalar
that turns out to be a key gets its key token, and perhaps the opening of a mapping, put in front when
the colon behind it is read; this is possible as long as the colon stands on the same line.
-/

namespace DiagramProse.Yaml

open Text

/-! ## Tokens -/

/-- How a scalar is written. -/
inductive ScalarStyle where
  | plain
  | quoted
  | literal
  | folded
deriving DecidableEq, Repr

inductive Token where
  | versionDirective (major minor : Nat)
  | tagDirective (handle expansion : Text)
  | documentStart
  | documentEnd
  | blockSequence
  | blockMapping
  | blockEnd
  | entry
  | key
  | value
  | flowSequence
  | flowSequenceEnd
  | flowMapping
  | flowMappingEnd
  | comma
  | anchor (number : Nat)
  | reference (number : Nat)
  | tag (handle suffix : Text)
  | scalar (style : ScalarStyle) (text : Text)
deriving DecidableEq, Repr

/-- A token that may turn out to be a key: where it begins, how many tokens are in front of it, and
whether nothing else could stand there. -/
structure PossibleKey where
  start : Place
  position : Nat
  isRequired : Bool
deriving DecidableEq, Repr

/-- What is known between two tokens. `margins` are the columns behind those in which the open block
collections begin, and `keys` the possible key of each level of brackets, both innermost first; `anchors`
are the numbers of the names that were anchored. -/
structure Scanner where
  place : Place
  tokens : List Token := []
  margins : List Nat := []
  keys : List (Option PossibleKey) := [none]
  keyAllowed : Bool := true
  anchors : Keyed Nat := []

namespace Scanner

def inFlow (s : Scanner) : Bool := 1 < s.keys.length

def margin (s : Scanner) : Nat := s.margins.head?.getD 0

def add (s : Scanner) (t : Token) : Scanner := { s with tokens := s.tokens ++ [t] }

def moveTo (s : Scanner) (p : Place) : Scanner := { s with place := p }

/-! ## Indentation -/

/-- Closes the block collections that begin in a column from `margin` on. -/
def closeTo (s : Scanner) (margin : Nat) : Scanner :=
  if s.inFlow then s
  else
    let margins := s.margins.dropWhile (margin < ·)
    let closed := s.margins.length - margins.length
    { s with tokens := s.tokens ++ List.replicate closed .blockEnd, margins }

/-- Opens a block collection in front of the token at a position, unless one is open in that column. -/
def openAt (s : Scanner) (column position : Nat) (t : Token) : Scanner :=
  if s.inFlow || column < s.margin then s
  else
    { s with
      tokens := s.tokens.take position ++ t :: s.tokens.drop position
      margins := (column + 1) :: s.margins }

/-! ## Keys -/

/-- The possible key of this level is none after all. -/
def dropKey? (s : Scanner) : Option Scanner :=
  match s.keys with
  | some k :: ks => if k.isRequired then none else some { s with keys := none :: ks }
  | _ => some s

/-- What begins here may be a key. -/
def saveKey? (s : Scanner) : Option Scanner :=
  if !s.keyAllowed then some s
  else do
    let t ← s.dropKey?
    let isRequired := !s.inFlow && s.margin = s.place.column + 1
    return { t with keys := some ⟨s.place, s.tokens.length, isRequired⟩ :: t.keys.drop 1 }

/-- A key is followed by its colon on the same line and within 1024 characters. -/
def dropStaleKeys? (s : Scanner) : Option Scanner := do
  let keys ← s.keys.mapM fun key =>
    match key with
    | none => some none
    | some k =>
      if k.start.line < s.place.line || k.start.index + 1024 < s.place.index then
        if k.isRequired then none else some none
      else some (some k)
  return { s with keys }

/-! ## Between tokens -/

/-- Goes on behind blanks, comments and line breaks. A byte order mark may begin a line and takes up a
column; a tab may only stand where no key may begin. -/
def skipFiller : (fuel : Nat) → Scanner → Scanner
  | 0, s => s
  | fuel + 1, s =>
    let p := if s.place.column = 0 && s.place.rest.head? = some '\ufeff' then s.place.skip 1 else s.place
    let p := p.skipWhile fun c => c == ' ' || ((s.inFlow || !s.keyAllowed) && c == '\t')
    let p := if p.rest.head? = some '#' then p.skipWhile fun c => !isBreak c else p
    if isAtBreak p.rest then
      skipFiller fuel { s with place := p.skipBreak, keyAllowed := s.keyAllowed || !s.inFlow }
    else s.moveTo p

/-! ## One token -/

/-- The marks between documents close all that is open. -/
def documentMark? (s : Scanner) (t : Token) : Option Scanner := do
  let u ← (s.closeTo 0).dropKey?
  return { u.add t with place := s.place.skip 3, keyAllowed := false }

def openFlow? (s : Scanner) (t : Token) : Option Scanner := do
  let u ← s.saveKey?
  return { u.add t with place := s.place.skip 1, keys := none :: u.keys, keyAllowed := true }

def closeFlow? (s : Scanner) (t : Token) : Option Scanner := do
  let u ← s.dropKey?
  let keys := if u.inFlow then u.keys.drop 1 else u.keys
  return { u.add t with place := s.place.skip 1, keys, keyAllowed := false }

def comma? (s : Scanner) : Option Scanner := do
  let u ← s.dropKey?
  return { u.add .comma with place := s.place.skip 1, keyAllowed := true }

/-- An entry of a block sequence begins where a key may begin. -/
def blockItem? (s : Scanner) : Option Scanner := do
  guard (s.inFlow || s.keyAllowed)
  let u ← (s.openAt s.place.column s.tokens.length .blockSequence).dropKey?
  return { u.add .entry with place := s.place.skip 1, keyAllowed := true }

/-- A key with an indicator of its own. -/
def explicitKey? (s : Scanner) : Option Scanner := do
  guard (s.inFlow || s.keyAllowed)
  let u ← (s.openAt s.place.column s.tokens.length .blockMapping).dropKey?
  return { u.add .key with place := s.place.skip 1, keyAllowed := !s.inFlow }

/-- A value. The possible key in front of it is one. -/
def value? (s : Scanner) : Option Scanner :=
  match s.keys with
  | some k :: ks =>
    let u := { s with
      tokens := s.tokens.take k.position ++ Token.key :: s.tokens.drop k.position
      keys := none :: ks }
    let v := u.openAt k.start.column k.position .blockMapping
    some { v.add .value with place := s.place.skip 1, keyAllowed := false }
  | _ => do
    guard (s.inFlow || s.keyAllowed)
    let u := s.openAt s.place.column s.tokens.length .blockMapping
    return { u.add .value with place := s.place.skip 1, keyAllowed := !s.inFlow }

/-- The name behind an indicator, and what may follow it. -/
def name? (p : Place) : Option (Text × Place) := do
  let name := (p.rest.drop 1).takeWhile isNameChar
  let q := p.skip (1 + name.length)
  guard (!name.isEmpty)
  guard (isAtGap q.rest || q.rest.head?.any fun c =>
    c == '?' || c == ':' || c == ',' || c == ']' || c == '\x7d' || c == '%' || c == '@' || c == '\x60')
  return (name, q)

/-- An anchor. Its number is how many names there were; as a name that comes again adds none, the number
may then be given once more. -/
def anchor? (s : Scanner) : Option Scanner := do
  let u ← s.saveKey?
  let (name, p) ← name? s.place
  let number := u.anchors.length
  let anchors := Keyed.put name number u.anchors
  return { u.add (.anchor number) with place := p, keyAllowed := false, anchors }

/-- An alias of a name that was anchored before. -/
def reference? (s : Scanner) : Option Scanner := do
  let u ← s.saveKey?
  let (name, p) ← name? s.place
  return { u.add (.reference (← u.anchors.lookup name)) with place := p, keyAllowed := false }

/-- The characters that stand for themselves in tags. Commas and brackets stand in tags with brackets
around them only. -/
def isTagChar (isBracketed : Bool) (c : Char) : Bool :=
  isNameChar c || ";/?:@&=+$.!~*'()".toList.contains c
    || (isBracketed && (c == ',' || c == '[' || c == ']'))

/-- How many octets follow the first octet of a character. -/
def followingOctets? (first : Nat) : Option Nat :=
  if first < 0x80 then some 0
  else if first < 0xc0 then none
  else if first < 0xe0 then some 1
  else if first < 0xf0 then some 2
  else if first < 0xf8 then some 3
  else none

/-- The octets of a tag as characters with those numbers, and the text behind it. A percent sign and two
digits stand for an octet; `due` more of them belong to the character that was begun. -/
def tagOctets? (isBracketed : Bool) : (due : Nat) → Text → Option (Text × Text)
  | due, '%' :: a :: b :: s => do
    guard (isDigitOf 16 a && isDigitOf 16 b)
    let octet := ofDigits 16 [a, b]
    let due ← match due with
      | 0 => followingOctets? octet
      | due + 1 => if 0x80 ≤ octet && octet < 0xc0 then some due else none
    (tagOctets? isBracketed due s).map fun (t, r) => (Char.ofNat octet :: t, r)
  | 0, c :: s =>
    if c = '%' then none
    else if isTagChar isBracketed c then (tagOctets? isBracketed 0 s).map fun (t, r) => (c :: t, r)
    else some ([], c :: s)
  | 0, [] => some ([], [])
  | _ + 1, _ => none

/-- A part of a tag that begins here, up to an octet zero in it, and the place behind it. -/
def tagPart? (isBracketed : Bool) (p : Place) : Option (Text × Place) := do
  let (octets, rest) ← tagOctets? isBracketed 0 p.rest
  return (octets.takeWhile (· != '\x00'), p.skip (p.rest.length - rest.length))

/-- The handle and the suffix of a tag, and the place behind it. -/
def tagParts? (p : Place) : Option ((Text × Text) × Place) :=
  if p.rest.startsWith "!<" then do
    let start := p.skip 2
    let (suffix, q) ← tagPart? true start
    guard (q.index != start.index && q.rest.head? = some '>')
    return (([], suffix), q.skip 1)
  else
    let name := (p.rest.drop 1).takeWhile isNameChar
    let behind := p.skip (1 + name.length)
    if behind.rest.head? = some '!' then do
      let start := behind.skip 1
      let (suffix, q) ← tagPart? false start
      guard (q.index != start.index)
      return (('!' :: name ++ ['!'], suffix), q)
    else do
      let (suffix, q) ← tagPart? false (p.skip 1)
      return (if suffix.isEmpty then ([], ['!']) else (['!'], suffix), q)

def tag? (s : Scanner) : Option Scanner := do
  let u ← s.saveKey?
  let ((handle, suffix), p) ← tagParts? s.place
  guard (isAtGap p.rest || (s.inFlow && p.rest.head? = some ','))
  return { u.add (.tag handle suffix) with place := p, keyAllowed := false }

def blockScalar? (s : Scanner) (isLiteral : Bool) : Option Scanner := do
  let u ← s.dropKey?
  let (text, p) ← block? isLiteral s.margin (s.place.skip 1)
  let style := if isLiteral then .literal else .folded
  return { u.add (.scalar style text) with place := p, keyAllowed := true }

def quotedScalar? (s : Scanner) (isSingle : Bool) : Option Scanner := do
  let u ← s.saveKey?
  let start := s.place.skip 1
  let fuel := start.rest.length + 1
  let (text, p) ← if isSingle then singleQuoted? fuel start else doubleQuoted? fuel start
  return { u.add (.scalar .quoted text) with place := p, keyAllowed := false }

def plainScalar? (s : Scanner) : Option Scanner := do
  let u ← s.saveKey?
  let (text, p, isBroken) ← plain? s.inFlow s.margin s.place
  return { u.add (.scalar .plain text) with place := p, keyAllowed := isBroken }

/-! ## Directives -/

/-- A number of a version, which has nine digits at most, and the place behind it. -/
def versionNumber? (p : Place) : Option (Nat × Place) := do
  let digits := p.rest.takeWhile Char.isDigit
  guard (!digits.isEmpty && digits.length ≤ 9)
  return (ofDigits 10 digits, p.skip digits.length)

/-- A directive, behind its percent sign. -/
def directiveToken? (p : Place) : Option (Token × Place) := do
  let name := p.rest.takeWhile isNameChar
  let q := p.skip name.length
  guard (isAtGap q.rest)
  let q := q.skipWhile isGapChar
  if name = "YAML".toList then
    let (major, r) ← versionNumber? q
    guard (r.rest.head? = some '.')
    let (minor, r) ← versionNumber? (r.skip 1)
    return (.versionDirective major minor, r)
  else
    guard (name = "TAG".toList && q.rest.head? = some '!')
    let word := (q.rest.drop 1).takeWhile isNameChar
    let r := q.skip (1 + word.length)
    let isClosed := r.rest.head? = some '!'
    guard (isClosed || word.isEmpty)
    let handle := '!' :: word ++ (if isClosed then ['!'] else [])
    let r := if isClosed then r.skip 1 else r
    guard (r.rest.head?.any isGapChar)
    let r := r.skipWhile isGapChar
    let (expansion, after) ← tagPart? true r
    guard (after.index != r.index && isAtGap after.rest)
    return (.tagDirective handle expansion, after)

def directive? (s : Scanner) : Option Scanner := do
  let u ← (s.closeTo 0).dropKey?
  let (token, p) ← directiveToken? (s.place.skip 1)
  let p := p.skipWhile isGapChar
  guard (p.rest.isEmpty || isAtBreak p.rest || p.rest.head? = some '#')
  return { u.add token with place := p, keyAllowed := false }

/-! ## All tokens -/

/-- The characters that begin no plain scalar. -/
def isIndicator (c : Char) : Bool :=
  isFlowChar c || "-?:#&*!|>'\"%@\x60".toList.contains c

/-- Reads the token that begins here. -/
def token? (s : Scanner) : Option Scanner :=
  match s.place.rest with
  | [] => none
  | c :: after =>
    if s.place.column = 0 ∧ c = '%' then s.directive?
    else if s.place.isDocumentMark then
      s.documentMark? (if c = '-' then .documentStart else .documentEnd)
    else if c = '[' then s.openFlow? .flowSequence
    else if c = '\x7b' then s.openFlow? .flowMapping
    else if c = ']' then s.closeFlow? .flowSequenceEnd
    else if c = '\x7d' then s.closeFlow? .flowMappingEnd
    else if c = ',' then s.comma?
    else if c = '-' ∧ isAtGap after then s.blockItem?
    else if c = '?' ∧ (s.inFlow ∨ isAtGap after) then s.explicitKey?
    else if c = ':' ∧ (s.inFlow ∨ isAtGap after) then s.value?
    else if c = '*' then s.reference?
    else if c = '&' then s.anchor?
    else if c = '!' then s.tag?
    else if c = '|' ∧ ¬ s.inFlow then s.blockScalar? true
    else if c = '>' ∧ ¬ s.inFlow then s.blockScalar? false
    else if c = '\'' then s.quotedScalar? true
    else if c = '"' then s.quotedScalar? false
    else if isGapOrBreak c then none
    else if !isIndicator c || c = '-' || c = '?' || c = ':' then s.plainScalar?
    else none

/-- Reads tokens up to the end of the stream, where all that is open in blocks is closed. -/
def run? : (fuel : Nat) → Scanner → Option (List Token)
  | 0, _ => none
  | fuel + 1, s => do
    let t ← (s.skipFiller (s.place.rest.length + 1)).dropStaleKeys?
    let u := t.closeTo (t.place.column + 1)
    if u.place.rest.isEmpty then return (← (u.closeTo 0).dropKey?).tokens
    else run? fuel (← u.token?)

end Scanner

/-- The tokens of a stream. -/
def tokens? (s : Text) : Option (List Token) := do
  guard (s.all isStreamChar)
  Scanner.run? (s.length + 1) { place := ⟨s, 0, 0, 0⟩ }

end DiagramProse.Yaml
