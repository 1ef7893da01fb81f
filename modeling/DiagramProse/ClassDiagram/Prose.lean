import DiagramProse.ClassDiagram.Basic
import DiagramProse.ClassDiagram.Phrases
import DiagramProse.Html.Section
import DiagramProse.Text.Alphanumeric
import DiagramProse.Text.Template

/-!
The description of a class diagram: a summary, then the classes with their members, the relations and
the notes, each under a label of its own if there are any. Dutch stands in for unknown languages.
-/

namespace DiagramProse

open Text Html

/-- The words of a phrase, one space between them. -/
def Text.phrase (parts : List Text) : Text := join [' '] parts

/-! ## Types -/

/-- A tilde opens a list of type arguments if it stands between letters or digits, else it closes one.
`before` is the character in front of the text. -/
def angleBrackets : (before : Option Char) → Text → Text
  | _, [] => []
  | before, c :: s =>
    (if c != '~' then c
      else if before.any isAlphanumeric && s.head?.any isAlphanumeric then '<' else '>')
      :: angleBrackets (some c) s

/-- A type with angle brackets for tildes, and with a word for the brackets of an array. -/
def readableType (p : ClassPhrases) (type : Text) : Text :=
  let t := angleBrackets none type.trim
  match dropSuffix? t "[]" with
  | some element => phrase [trim element, p.array]
  | none => t

def withType (p : ClassPhrases) (name : Text) (type : Option Text) : Text :=
  match type with
  | some t => phrase [name, p.ofType, escape (readableType p t)]
  | none => name

/-! ## Members -/

def VisibilityWords.word? (w : VisibilityWords) : Visibility → Option Text
  | .public => some w.everyone
  | .private => some w.own
  | .protected => some w.heirs
  | .package => some w.package
  | .unspecified => none

/-- A noun with the word for the visibility in front of it. -/
def memberKind (w : VisibilityWords) (v : Visibility) (noun : Text) : Text :=
  match w.word? v with
  | some word => phrase [word, noun]
  | none => noun

/-- In an enumeration, an attribute with neither sign nor type is a value. -/
def Attribute.describe (p : ClassPhrases) (inEnumeration : Bool) (a : Attribute) : Text :=
  if inEnumeration && a.typeName.isNone && a.visibility = .unspecified then
    phrase [p.value, escape a.name]
  else
    withType p (phrase [memberKind p.attributeVisibility a.visibility p.attributeNoun, escape a.name])
      a.typeName

def Parameter.describe (p : ClassPhrases) (x : Parameter) : Text :=
  withType p (escape x.name) x.typeName

def describeParameters (p : ClassPhrases) (xs : List Parameter) : Text :=
  match xs with
  | [] => p.withoutParameters
  | [x] => phrase [p.withParameter, x.describe p]
  | xs => phrase [p.withParameters, join ", " (xs.map (Parameter.describe p))]

def Method.describe (p : ClassPhrases) (m : Method) : Text :=
  let head := phrase [memberKind p.methodVisibility m.visibility p.methodNoun, escape m.name]
  let result := m.returnType.map fun t => phrase [p.returnType, escape (readableType p t)]
  join ", " (head :: describeParameters p m.parameters :: result.toList)

/-! ## Classes -/

def Classifier.header (p : ClassPhrases) (c : Classifier) : Text :=
  let name := escape c.name
  match c.stereotype with
  | none => phrase [p.plainClass, name]
  | some .interface => phrase [p.interface, name]
  | some .abstract => phrase [p.abstractClass, name]
  | some .enumeration => phrase [p.enumeration, name]
  | some (.custom label) => phrase [p.plainClass, name, p.withStereotype, escape label]

def Classifier.hasCustomStereotype (c : Classifier) : Bool :=
  match c.stereotype with
  | some (.custom _) => true
  | _ => false

/-- The methods, then the attributes; where there are only the ones, the others are said to be
missing. -/
def Classifier.memberTexts (p : ClassPhrases) (c : Classifier) : List Text :=
  (if c.methods.isEmpty then [p.noMethods] else c.methods.map (Method.describe p)) ++
    (if c.attributes.isEmpty then [p.noAttributes]
      else c.attributes.map (Attribute.describe p (c.stereotype = some .enumeration)))

def Classifier.describe (p : ClassPhrases) (c : Classifier) : Item :=
  if c.attributes.isEmpty && c.methods.isEmpty then
    .leaf (phrase [c.header p, p.withoutMembers])
  else
    let comma : Text := if c.hasCustomStereotype then [','] else []
    .mk (c.header p ++ comma ++ [' '] ++ p.withMembers ++ [':']) [.ofLeaves false (c.memberTexts p)]

/-! ## Relations and notes -/

def relationVerb (p : ClassPhrases) : RelationKind → Text
  | .inheritance => p.inheritance
  | .implementation => p.implementation
  | .association => p.association
  | .aggregation => p.aggregation
  | .composition => p.composition
  | .dependency => p.dependency

/-- Whether a kind of relation is said with the verb alone, without its label. -/
def RelationKind.isDescent : RelationKind → Bool
  | .inheritance | .implementation => true
  | _ => false

def describeEnd (p : ClassPhrases) (multiplicity : Option Text) (name : Text) : Option Text :=
  multiplicity.map fun m => phrase [escape m, p.atEnd, name]

def Relation.describe (p : ClassPhrases) (r : Relation) : Text :=
  let source := escape r.source
  let target := escape r.target
  let verb := relationVerb p r.kind
  let sentence :=
    if r.kind.isDescent then phrase [source, verb, target]
    else
      let named := r.label.map fun label => phrase [p.named, '\'' :: escape label ++ ['\'']]
      phrase (source :: verb :: named.toList ++ [p.withTarget, target])
  let ends := (describeEnd p r.sourceMultiplicity source).toList ++
    (describeEnd p r.targetMultiplicity target).toList
  if ends.isEmpty then sentence
  else sentence ++ ", " ++ phrase [p.multiplicity, join ([' '] ++ p.conjunction ++ [' ']) ends]

def ClassNote.describe (p : ClassPhrases) (n : ClassNote) : Text :=
  escape (fill p.noteFor [("class", n.className)]) ++ ": " ++ escape n.text

/-! ## The diagram -/

def ClassDiagram.describeWith (p : ClassPhrases) (d : ClassDiagram) : Fragment :=
  .paragraph (fill p.summary
      [("classes", ofNat d.classes.length), ("relations", ofNat d.relations.length)])
    :: labelled p.classes (.mk false (d.classes.map (Classifier.describe p)))
    ++ labelled p.relations (.ofLeaves false (d.relations.map (Relation.describe p)))
    ++ labelled p.notes (.ofLeaves false (d.notes.map (ClassNote.describe p)))

def ClassDiagram.describe (d : ClassDiagram) (locale : Text) : Fragment :=
  d.describeWith (.of (.resolve locale .nl))

end DiagramProse
