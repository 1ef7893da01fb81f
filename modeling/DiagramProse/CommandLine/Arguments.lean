import DiagramProse.Text.Keyed

/-!
The arguments of a command: one input and options, which have a long name and perhaps a letter. Letters
may stand together behind one hyphen; a value stands behind its option, directly or as the next argument.
Arguments are read from left to right, and the first that is wrong or asks for a text decides.
-/

namespace DiagramProse

open Text

/-- What an option stands for. -/
inductive OptionForm where
  | flag
  | text
  /-- A text that is not empty. -/
  | path
  | version
  | help
deriving DecidableEq, Repr

/-- An option that a command has. -/
structure OptionSpec where
  name : Text
  letter : Option Char
  form : OptionForm
deriving DecidableEq, Repr

/-- What is given to a command. -/
structure Arguments where
  input : Option Text := none
  flags : List Text := []
  values : Keyed Text := []
deriving DecidableEq, Repr

/-- Why a command does not run. -/
inductive Refusal where
  | misuse
  | version
  | help
deriving DecidableEq, Repr

namespace Arguments

def value? (a : Arguments) (name : Text) : Option Text := a.values.lookup name

def hasFlag (a : Arguments) (name : Text) : Bool := a.flags.contains name

/-- There is one input, and it is not empty. -/
def setInput (a : Arguments) (input : Text) : Except Refusal Arguments :=
  if a.input.isSome || input.isEmpty then .error .misuse else .ok { a with input := some input }

/-- An option without a value is given at most once. -/
def setFlag (a : Arguments) (spec : OptionSpec) : Except Refusal Arguments :=
  match spec.form with
  | .version => .error .version
  | .help => .error .help
  | .flag =>
    if a.hasFlag spec.name then .error .misuse else .ok { a with flags := a.flags ++ [spec.name] }
  | .text | .path => .error .misuse

/-- An option with a value is given at most once. -/
def setValue (a : Arguments) (spec : OptionSpec) (value : Text) : Except Refusal Arguments :=
  let isWrong := spec.form = .path ∧ value.isEmpty
  if isWrong ∨ (a.value? spec.name).isSome then .error .misuse
  else .ok { a with values := a.values.put spec.name value }

def takesValue (spec : OptionSpec) : Bool := spec.form = .text || spec.form = .path

/-- Reads letters behind a hyphen. The last of them may be an option whose value is the next argument. -/
def readLetters (specs : List OptionSpec) :
    Arguments → Text → Except Refusal (Arguments × Option OptionSpec)
  | a, [] => .ok (a, none)
  | a, c :: rest =>
    match specs.find? fun spec => spec.letter = some c with
    | none => .error .misuse
    | some spec =>
      if takesValue spec then
        if rest.isEmpty then .ok (a, some spec)
        else do return (← a.setValue spec ((dropPrefix? rest ['=']).getD rest), none)
      else do readLetters specs (← a.setFlag spec) rest

/-- Reads a long option, of which the hyphens were read. -/
def readLong (specs : List OptionSpec) (a : Arguments) (body : Text) :
    Except Refusal (Arguments × Option OptionSpec) :=
  let (name, value) := match cutAt? (· == '=') body with
    | some (name, value) => (name, some value)
    | none => (body, none)
  match specs.find? (·.name = name), value with
  | none, _ => .error .misuse
  | some spec, none =>
    if takesValue spec then .ok (a, some spec) else do return (← a.setFlag spec, none)
  | some spec, some value =>
    if takesValue spec then do return (← a.setValue spec value, none) else .error .misuse

/-- Whether an argument is no option; a single hyphen is none. -/
def isPlain (arg : Text) : Bool := arg = ['-'] || arg.head? != some '-'

/-- Reads arguments. `pending` is an option whose value comes next, and behind two hyphens nothing is an
option any more. -/
def readFrom (specs : List OptionSpec) :
    Arguments → (pending : Option OptionSpec) → (isLast : Bool) → List Text → Except Refusal Arguments
  | a, none, _, [] => if a.input.isSome then .ok a else .error .misuse
  | _, some _, _, [] => .error .misuse
  | a, some spec, _, arg :: rest =>
    if isPlain arg then do readFrom specs (← a.setValue spec arg) none false rest else .error .misuse
  | a, none, isLast, arg :: rest =>
    if isLast || isPlain arg then do readFrom specs (← a.setInput arg) none isLast rest
    else if arg = ['-', '-'] then readFrom specs a none true rest
    else do
      let (b, pending) ← match dropPrefix? arg ['-', '-'] with
        | some body => readLong specs a body
        | none => readLetters specs a (arg.drop 1)
      readFrom specs b pending false rest

def read (specs : List OptionSpec) (args : List Text) : Except Refusal Arguments :=
  readFrom specs {} none false args

/-- The options that every command has. -/
def standardSpecs : List OptionSpec := [
  ⟨"verbose", some 'v', .flag⟩, ⟨"version", some 'V', .version⟩, ⟨"help", some 'h', .help⟩]

end Arguments

end DiagramProse
