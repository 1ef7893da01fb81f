import DiagramProse.Text.Blank

/-!
The languages in which descriptions are written. A language is recognised by the primary subtag of a
language code, so `en-US` and `EN` both name English; a kind of diagram decides for itself which
language stands in for an unknown one.
-/

namespace DiagramProse

inductive Locale where
  | en
  | nl
deriving DecidableEq, Repr

namespace Locale

def code : Locale → Text
  | en => "en"
  | nl => "nl"

/-- Reads the primary subtag of a language code. -/
def ofCode? (code : Text) : Option Locale :=
  let primary := (code.trim.takeWhile fun c => c != '-' && c != '_').map Char.toLower
  if primary = "en" then some en
  else if primary = "nl" then some nl
  else none

/-- The language of a code, and `default` for a code of another language. -/
def resolve (code : Text) (default : Locale) : Locale := (ofCode? code).getD default

def pick {α : Type} (l : Locale) (english dutch : α) : α :=
  match l with
  | en => english
  | nl => dutch

end Locale

end DiagramProse
