import DiagramProse.Locale

/-!
The words in which class diagrams are described, in each language.
-/

namespace DiagramProse

/-- Words for the four visibilities that have a sign. -/
structure VisibilityWords where
  everyone : Text
  own : Text
  heirs : Text
  package : Text

structure ClassPhrases where
  summary : Text
  classes : Text
  relations : Text
  notes : Text
  plainClass : Text
  interface : Text
  abstractClass : Text
  enumeration : Text
  withStereotype : Text
  withMembers : Text
  withoutMembers : Text
  noAttributes : Text
  noMethods : Text
  attributeNoun : Text
  methodNoun : Text
  value : Text
  attributeVisibility : VisibilityWords
  methodVisibility : VisibilityWords
  ofType : Text
  array : Text
  withoutParameters : Text
  withParameter : Text
  withParameters : Text
  returnType : Text
  inheritance : Text
  implementation : Text
  association : Text
  aggregation : Text
  composition : Text
  dependency : Text
  named : Text
  withTarget : Text
  multiplicity : Text
  atEnd : Text
  conjunction : Text
  noteFor : Text

namespace ClassPhrases

def english : ClassPhrases where
  summary := "Class diagram with {classes} class(es) and {relations} relation(s)."
  classes := "Classes"
  relations := "Relations"
  notes := "Notes"
  plainClass := "Class"
  interface := "Interface"
  abstractClass := "Abstract class"
  enumeration := "Enumeration"
  withStereotype := "with stereotype"
  withMembers := "with"
  withoutMembers := "without methods and attributes"
  noAttributes := "no attributes"
  noMethods := "no methods"
  attributeNoun := "attribute"
  methodNoun := "method"
  value := "value"
  attributeVisibility := ⟨"public", "private", "protected", "package"⟩
  methodVisibility := ⟨"public", "private", "protected", "package"⟩
  ofType := "of type"
  array := "array"
  withoutParameters := "without parameters"
  withParameter := "with parameter"
  withParameters := "with parameters"
  returnType := "return type"
  inheritance := "extends"
  implementation := "implements interface"
  association := "has an association"
  aggregation := "has an aggregation"
  composition := "has a composition"
  dependency := "has a dependency"
  named := "named"
  withTarget := "with"
  multiplicity := "multiplicity"
  atEnd := "at"
  conjunction := "and"
  noteFor := "For class {class}"

def dutch : ClassPhrases where
  summary := "Klassendiagram met {classes} klasse(n) en {relations} relatie(s)."
  classes := "Klassen"
  relations := "Relaties"
  notes := "Notities"
  plainClass := "Klasse"
  interface := "Interface"
  abstractClass := "Abstracte klasse"
  enumeration := "Enumeratie"
  withStereotype := "met stereotype"
  withMembers := "met"
  withoutMembers := "zonder methoden en attributen"
  noAttributes := "geen attributen"
  noMethods := "geen methoden"
  attributeNoun := "attribuut"
  methodNoun := "methode"
  value := "waarde"
  attributeVisibility := ⟨"publiek", "privé", "beschermd", "package"⟩
  methodVisibility := ⟨"publieke", "private", "beschermde", "package"⟩
  ofType := "van type"
  array := "array"
  withoutParameters := "zonder parameters"
  withParameter := "met parameter"
  withParameters := "met parameters"
  returnType := "return type"
  inheritance := "erft van"
  implementation := "implementeert interface"
  association := "heeft een associatie"
  aggregation := "heeft een aggregatie"
  composition := "heeft een compositie"
  dependency := "heeft een afhankelijkheid"
  named := "met naam"
  withTarget := "met"
  multiplicity := "multipliciteit"
  atEnd := "bij"
  conjunction := "en"
  noteFor := "Bij klasse {class}"

def of (l : Locale) : ClassPhrases := l.pick english dutch

end ClassPhrases

end DiagramProse
