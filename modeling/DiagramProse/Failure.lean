import DiagramProse.Text.Basic

/-!
What can go wrong, and how it is told.
-/

namespace DiagramProse

/-- Why a file could not be read or written. -/
inductive FileProblem where
  | notFound
  | isDirectory
  | notADirectory
  | nameTooLong
  | notUtf8
  | other (message : Text)
deriving DecidableEq, Repr

def FileProblem.message : FileProblem → Text
  | notFound => "No such file or directory (os error 2)"
  | isDirectory => "Is a directory (os error 21)"
  | notADirectory => "Not a directory (os error 20)"
  | nameTooLong => "File name too long (os error 36)"
  | notUtf8 => "stream did not contain valid UTF-8"
  | other message => message

/-- What is wrong with options. -/
inductive OptionsProblem where
  | unknownPreset (name : Text)
  | unreadable (path : Text)
  | badToml
  | badYaml
deriving DecidableEq, Repr

def OptionsProblem.message : OptionsProblem → Text
  | unknownPreset name => "Unknown built-in preset '" ++ name ++ "'. Available: en, nl"
  | unreadable path => "Failed to parse " ++ path ++ " as TOML or YAML"
  | badToml => "Failed to parse TOML options: "
  | badYaml => "Failed to parse YAML options: "

inductive Failure where
  | emptySource
  | options (p : OptionsProblem)
  | file (p : FileProblem)
deriving DecidableEq, Repr

def Failure.message : Failure → Text
  | emptySource => "Diagram source is empty"
  | options p => "Invalid configuration: " ++ p.message
  | file p => p.message

end DiagramProse
