import DiagramProse.Markdown.NamedCharacter
import DiagramProse.Markdown.Reference

/-!
The text behind an opening fence. A backslash before punctuation stands for the punctuation, and a
reference to a character by number or by name stands for that character.
-/

namespace DiagramProse.Markdown

open Text

/-- The character with the given number. What is no such number, or zero, stands for the replacement
character. -/
def numberedCharacter (n : Nat) : Char := if n = 0 then '\ufffd' else (charOf? n).getD '\ufffd'

/-- The characters that a reference stands for, of which the ampersand was read, and the number of
characters behind the ampersand that belong to it. -/
def reference? (s : Text) : Option (Text × Nat) :=
  let numbered (mark : Text) (base limit : Nat) : Option (Text × Nat) := do
    let digits := (s.drop mark.length).takeWhile (isDigitOf base)
    let size := mark.length + digits.length
    guard (s.startsWith mark && digits ≠ [] && digits.length ≤ limit && s[size]? = some ';')
    return ([numberedCharacter (ofDigits base digits)], size + 1)
  let named : Option (Text × Nat) := do
    let name := s.takeWhile Char.isAlphanum
    guard (s[name.length]? = some ';')
    return (← namedCharacter? name, name.length + 1)
  numbered "#" 10 7 <|> numbered "#x" 16 6 <|> numbered "#X" 16 6 <|> named

/-- Resolves backslashes and references to characters; carriage returns are left out. -/
def unescape (s : Text) : Text :=
  let rec go : Nat → Text → Text
    | _, [] => []
    | skip + 1, _ :: s => go skip s
    | 0, c :: s =>
      if c = '\\' then
        match s with
        | d :: _ => if isPunctuation d then d :: go 1 s else c :: go 0 s
        | [] => c :: go 0 s
      else if c = '&' then
        match reference? s with
        | some (characters, size) => characters ++ go size s
        | none => c :: go 0 s
      else if c = '\r' then go 0 s
      else c :: go 0 s
  go 0 s

end DiagramProse.Markdown
