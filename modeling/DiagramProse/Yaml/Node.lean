import DiagramProse.Yaml.Token

/-!
The nodes of a YAML document, read from its tokens. An alias stands for an anchored node;
`Document.target` gives it.
-/

namespace DiagramProse.Yaml

open Text

inductive Node where
  | scalar (style : ScalarStyle) (tag : Option Text) (text : Text)
  | sequence (items : List Node)
  | mapping (pairs : List (Node × Node))
  | anchored (number : Nat) (node : Node)
  | reference (number : Nat)

namespace Node

/-- The node where nothing is written. -/
def empty : Node := scalar .plain none []

end Node

/-! ## Properties -/

/-- What is written in front of a node. -/
structure Properties where
  anchor : Option Nat := none
  tag : Option Text := none

/-- Handles of tags and what they stand for. -/
abbrev TagHandles := List (Text × Text)

def standardHandles : TagHandles := [(['!'], ['!']), (['!', '!'], "tag:yaml.org,2002:")]

def resolveTag? (handles : TagHandles) (handle suffix : Text) : Option Text :=
  if handle.isEmpty then some suffix else (handles.lookup handle).map fun expansion => expansion ++ suffix

/-- An anchor and a tag, in any order, and the tokens behind them. -/
def properties? (handles : TagHandles) : List Token → Option (Properties × List Token)
  | .anchor a :: .tag h x :: ts => (resolveTag? handles h x).map fun tag => (⟨some a, some tag⟩, ts)
  | .tag h x :: .anchor a :: ts => (resolveTag? handles h x).map fun tag => (⟨some a, some tag⟩, ts)
  | .anchor a :: ts => some (⟨some a, none⟩, ts)
  | .tag h x :: ts => (resolveTag? handles h x).map fun tag => (⟨none, some tag⟩, ts)
  | ts => some ({}, ts)

def withAnchor (p : Properties) (n : Node) : Node :=
  match p.anchor with
  | some number => .anchored number n
  | none => n

/-! ## Nodes -/

/-- Whether the tokens go on with one of those given, so that a node in front of them is empty. -/
def beginsWith (ts : List Token) (ends : List Token) : Bool := ts.head?.any ends.contains

mutual

/-- A node. In a block it may be a block collection, and as the value of a key also a sequence whose
entries are indented no further than the key. -/
def node? (handles : TagHandles) : (fuel : Nat) → (inBlock isValue : Bool) → List Token →
    Option (Node × List Token)
  | 0, _, _, _ => none
  | fuel + 1, inBlock, isValue, ts =>
    match ts with
    | .reference number :: rest => some (.reference number, rest)
    | _ => do
      let (p, ts) ← properties? handles ts
      let (node, rest) ← match ts with
        | .scalar style text :: rest => some (.scalar style p.tag text, rest)
        | .flowSequence :: rest =>
          (flowItems? handles fuel true rest).map fun (items, rest) => (.sequence items, rest)
        | .flowMapping :: rest =>
          (flowPairs? handles fuel true rest).map fun (pairs, rest) => (.mapping pairs, rest)
        | .entry :: _ =>
          if isValue then
            (looseItems? handles fuel ts).map fun (items, rest) => (.sequence items, rest)
          else if p.anchor.isSome || p.tag.isSome then some (.scalar .plain p.tag [], ts)
          else none
        | .blockSequence :: rest =>
          if inBlock then (blockItems? handles fuel rest).map fun (items, rest) => (.sequence items, rest)
          else none
        | .blockMapping :: rest =>
          if inBlock then (blockPairs? handles fuel rest).map fun (pairs, rest) => (.mapping pairs, rest)
          else none
        | _ =>
          if p.anchor.isSome || p.tag.isSome then some (.scalar .plain p.tag [], ts) else none
      return (withAnchor p node, rest)

/-- A node of a block, or the empty node if the tokens go on with one of those given. -/
def blockNode? (handles : TagHandles) : (fuel : Nat) → (isValue : Bool) → (ends : List Token) →
    List Token → Option (Node × List Token)
  | 0, _, _, _ => none
  | fuel + 1, isValue, ends, ts =>
    if beginsWith ts ends then some (.empty, ts) else node? handles fuel true isValue ts

/-- The entries of a block sequence up to its end. -/
def blockItems? (handles : TagHandles) : (fuel : Nat) → List Token → Option (List Node × List Token)
  | 0, _ => none
  | fuel + 1, ts =>
    match ts with
    | .blockEnd :: rest => some ([], rest)
    | .entry :: rest => do
      let (item, rest) ← blockNode? handles fuel false [.entry, .blockEnd] rest
      let (items, rest) ← blockItems? handles fuel rest
      return (item :: items, rest)
    | _ => none

/-- The entries of a sequence that is the value of a key, in the column of that key. -/
def looseItems? (handles : TagHandles) : (fuel : Nat) → List Token → Option (List Node × List Token)
  | 0, _ => none
  | fuel + 1, ts =>
    match ts with
    | .entry :: rest => do
      let (item, rest) ← blockNode? handles fuel false [.entry, .key, .value, .blockEnd] rest
      let (items, rest) ← looseItems? handles fuel rest
      return (item :: items, rest)
    | _ => some ([], ts)

/-- The pairs of a block mapping up to its end. -/
def blockPairs? (handles : TagHandles) : (fuel : Nat) → List Token →
    Option (List (Node × Node) × List Token)
  | 0, _ => none
  | fuel + 1, ts =>
    match ts with
    | .blockEnd :: rest => some ([], rest)
    | .key :: rest => do
      let (key, rest) ← blockNode? handles fuel true [.key, .value, .blockEnd] rest
      let (value, rest) ← match rest with
        | .value :: rest => blockNode? handles fuel true [.key, .value, .blockEnd] rest
        | _ => some (.empty, rest)
      let (pairs, rest) ← blockPairs? handles fuel rest
      return ((key, value) :: pairs, rest)
    | _ => none

/-- A value between brackets, which may be left out. -/
def flowValue? (handles : TagHandles) : (fuel : Nat) → (closing : Token) → List Token →
    Option (Node × List Token)
  | 0, _, _ => none
  | fuel + 1, closing, ts =>
    match ts with
    | .value :: rest =>
      if beginsWith rest [.comma, closing] then some (.empty, rest) else node? handles fuel false false rest
    | _ => some (.empty, ts)

/-- The items of a sequence in brackets. A single pair may stand for a mapping; if it has no key, the token
in the place of the key is passed over. -/
def flowItems? (handles : TagHandles) : (fuel : Nat) → (isFirst : Bool) → List Token →
    Option (List Node × List Token)
  | 0, _, _ => none
  | fuel + 1, isFirst, ts =>
    match ts with
    | .flowSequenceEnd :: rest => some ([], rest)
    | _ => do
      let ts ← if isFirst then some ts else
        match ts with
        | .comma :: rest => some rest
        | _ => none
      match ts with
      | .flowSequenceEnd :: rest => return ([], rest)
      | .key :: rest => do
        let (key, rest) ← if beginsWith rest [.value, .comma, .flowSequenceEnd] then
            some (.empty, rest.drop 1)
          else node? handles fuel false false rest
        let (value, rest) ← flowValue? handles fuel .flowSequenceEnd rest
        let (items, rest) ← flowItems? handles fuel false rest
        return (.mapping [(key, value)] :: items, rest)
      | _ => do
        let (item, rest) ← node? handles fuel false false ts
        let (items, rest) ← flowItems? handles fuel false rest
        return (item :: items, rest)

/-- The pairs of a mapping in braces. -/
def flowPairs? (handles : TagHandles) : (fuel : Nat) → (isFirst : Bool) → List Token →
    Option (List (Node × Node) × List Token)
  | 0, _, _ => none
  | fuel + 1, isFirst, ts =>
    match ts with
    | .flowMappingEnd :: rest => some ([], rest)
    | _ => do
      let ts ← if isFirst then some ts else
        match ts with
        | .comma :: rest => some rest
        | _ => none
      match ts with
      | .flowMappingEnd :: rest => return ([], rest)
      | .key :: rest => do
        let (key, rest) ← if beginsWith rest [.value, .comma, .flowMappingEnd] then some (.empty, rest)
          else node? handles fuel false false rest
        let (value, rest) ← flowValue? handles fuel .flowMappingEnd rest
        let (pairs, rest) ← flowPairs? handles fuel false rest
        return ((key, value) :: pairs, rest)
      | _ => do
        let (key, rest) ← node? handles fuel false false ts
        let (pairs, rest) ← flowPairs? handles fuel false rest
        return ((key, .empty) :: pairs, rest)

end

/-! ## Aliases -/

mutual

/-- The anchored nodes in a node with their numbers, in the order in which they begin. -/
def Node.anchors : Node → List (Nat × Node)
  | .scalar .. => []
  | .reference _ => []
  | .sequence items => itemAnchors items
  | .mapping pairs => pairAnchors pairs
  | .anchored number n => (number, n) :: n.anchors

def itemAnchors : List Node → List (Nat × Node)
  | [] => []
  | n :: ns => n.anchors ++ itemAnchors ns

def pairAnchors : List (Node × Node) → List (Nat × Node)
  | [] => []
  | (key, value) :: ps => key.anchors ++ value.anchors ++ pairAnchors ps

end

/-- A document: its node, and the anchored nodes with their numbers, the last one first. -/
structure Document where
  root : Node
  anchors : List (Nat × Node)

namespace Document

def ofNode (n : Node) : Document := ⟨n, n.anchors.reverse⟩

/-- What a node stands for: an alias for the last node that has its number. -/
def target (d : Document) : Node → Node
  | .anchored _ n => n
  | .reference number => (d.anchors.lookup number).getD .empty
  | n => n

end Document

/-! ## Documents -/

/-- Takes the directives at the beginning. Only version 1.1 or 1.2 is read, and nothing is set twice. -/
def directives? : (hasVersion : Bool) → (handles : TagHandles) → List Token →
    Option (TagHandles × List Token)
  | hasVersion, handles, .versionDirective major minor :: ts =>
    if !hasVersion && major = 1 && (minor = 1 || minor = 2) then directives? true handles ts else none
  | hasVersion, handles, .tagDirective handle expansion :: ts =>
    if (handles.lookup handle).isNone then
      directives? hasVersion (handles ++ [(handle, expansion)]) ts
    else none
  | _, handles, ts => some (handles, ts)

def dropDocumentEnds (ts : List Token) : List Token :=
  ts.dropWhile (· == .documentEnd)

/-- The only document of a stream; where there is none, nothing is written in it. -/
def document? (ts : List Token) : Option Document := do
  if ts.isEmpty then return .ofNode .empty
  else
    let (handles, rest) ← directives? false [] ts
    let isExplicit := beginsWith rest [.documentStart]
    guard (isExplicit || rest.length = ts.length)
    let handles := handles ++ standardHandles.filter fun (h, _) => (handles.lookup h).isNone
    let contents := if isExplicit then rest.drop 1 else rest
    let isEmpty := isExplicit && (contents.isEmpty || (match contents.head? with
      | some .documentEnd => true
      | some .documentStart => true
      | some (.versionDirective _ _) => true
      | some (.tagDirective _ _) => true
      | _ => false))
    let (node, after) ←
      if isEmpty then some (.empty, contents) else node? handles (4 * ts.length + 4) true false contents
    guard (dropDocumentEnds after).isEmpty
    return .ofNode node

/-- Reads a stream that holds at most one document. -/
def read? (s : Text) : Option Document := do document? (← tokens? s)

end DiagramProse.Yaml
