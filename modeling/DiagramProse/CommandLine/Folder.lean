import DiagramProse.CommandLine.Host
import DiagramProse.Text.Keyed

/-!
A folder with files as a host. Paths are relative to the folder; a folder below it exists if a file lies
in it, and around it are folders of which nothing else is known. `contents?_write` says that a file that
was written is there, `decodeUtf8_encodeUtf8` that its text is read back.
-/

namespace DiagramProse

open Text

/-- The text of bytes in UTF-8. -/
def decodeUtf8 (bytes : ByteArray) : Except FileProblem Text :=
  match String.fromUTF8? bytes with
  | some s => .ok s.toList
  | none => .error .notUtf8

def encodeUtf8 (s : Text) : ByteArray := (String.ofList s).toUTF8

theorem decodeUtf8_encodeUtf8 (s : Text) : decodeUtf8 (encodeUtf8 s) = .ok s := by
  have h : String.fromUTF8? (String.ofList s).toUTF8 = some (String.ofList s) := by
    simp only [String.fromUTF8?, String.fromUTF8]
    rw [dif_pos (by simpa using (String.ofList s).isValidUTF8)]
    rfl
  simp only [decodeUtf8, encodeUtf8, h, String.toList_ofList]

/-- Files by their paths, and the standard input of a command that runs in the folder. -/
structure Folder where
  files : List (List Text × ByteArray)
  input : ByteArray

namespace Folder

/-- The bytes of the file at a path. -/
def contents? (f : Folder) (path : List Text) : Option ByteArray := f.files.lookup path

/-- Whether there is a folder at a path: the folder itself, or one with a file in it. -/
def isFolder (f : Folder) (path : List Text) : Bool :=
  path.isEmpty || f.files.any fun (p, _) => path.isPrefixOf p && p != path

def write (f : Folder) (path : List Text) (bytes : ByteArray) : Folder :=
  { f with files := (path, bytes) :: f.files.filter fun (p, _) => p != path }

theorem contents?_write (f : Folder) (path : List Text) (bytes : ByteArray) :
    (f.write path bytes).contents? path = some bytes := by
  simp [write, contents?]

/-! ## Paths -/

/-- The parts of a path between its slashes. -/
def parts (path : Text) : List Text := (path.splitBy (· == '/')).filter fun part => !part.isEmpty

/-- Where a path leads: to a place in the folder, or to one of the folders around it. -/
inductive Location where
  | inside (place : List Text)
  | around
deriving DecidableEq, Repr

def Location.parent : Location → Location
  | inside [] => around
  | inside place => inside place.dropLast
  | around => around

/-- Only from a folder is there a way on. -/
def checkFolder (f : Folder) : Location → Except FileProblem Unit
  | .inside place =>
    if (f.contents? place).isSome then .error .notADirectory
    else if f.isFolder place then .ok ()
    else .error .notFound
  | .around => .ok ()

/-- The most bytes that a part of a path has. -/
def longestPart : Nat := 255

/-- The most bytes that a path has. -/
def longestPath : Nat := 4095

/-- Goes from a location along the parts of a path. -/
def walk (f : Folder) : Location → (parts : List Text) → Except FileProblem Location
  | l, [] => .ok l
  | l, part :: rest => do
    f.checkFolder l
    if part = ['.'] then f.walk l rest
    else if part = ['.', '.'] then f.walk l.parent rest
    else if longestPart < utf8Size part then .error .nameTooLong
    else match l with
      | .inside place => f.walk (.inside (place ++ [part])) rest
      | .around => .error .notFound

/-- The location that a path leads to; a slash in front leads out of the folder. -/
def locate (f : Folder) (path : Text) : Except FileProblem Location :=
  if path.contains ['\x00'] then .error (.other "file name contained an unexpected NUL byte")
  else if path.isEmpty then .error .notFound
  else if longestPath < utf8Size path then .error .nameTooLong
  else f.walk (if path.startsWith ['/'] then .around else .inside []) (parts path)

def endsInSlash (path : Text) : Bool := path.getLast? = some '/'

/-! ## Files -/

def read (f : Folder) (path : Text) : Except FileProblem Text := do
  match ← f.locate path with
  | .around => .error .isDirectory
  | .inside place =>
    match f.contents? place with
    | some bytes => if endsInSlash path then .error .notADirectory else decodeUtf8 bytes
    | none => .error (if f.isFolder place then .isDirectory else .notFound)

def isFile (f : Folder) (path : Text) : Bool :=
  match f.locate path with
  | .ok (.inside place) => (f.contents? place).isSome && !endsInSlash path
  | _ => false

/-- The folder after a text was written into a file. -/
def store (f : Folder) (path contents : Text) : Except FileProblem Folder := do
  match ← f.locate path with
  | .around => .error .isDirectory
  | .inside place =>
    if f.isFolder place then .error .isDirectory
    else if endsInSlash path then
      .error (if (f.contents? place).isSome then .notADirectory else .isDirectory)
    else return f.write place (encodeUtf8 contents)

/-- The folder as the place where a command runs. -/
def host : Host (StateM Folder) where
  readInput := do return decodeUtf8 (← get).input
  readFile path := do return (← get).read path
  isFile path := do return (← get).isFile path
  writeFile path contents := do
    match (← get).store path contents with
    | .ok f => set f; return .ok ()
    | .error p => return .error p

end Folder

end DiagramProse
