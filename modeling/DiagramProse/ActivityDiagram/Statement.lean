import DiagramProse.Dialect
import DiagramProse.Text.Quoted

/-!
What a single line of an activity diagram says. Conditions stand in parentheses, which may be nested;
texts lose their markup, and their runs of blanks become single spaces.
-/

namespace DiagramProse

open Text

/-! ## Texts and conditions -/

/-- The text without bold, italic, underlined and monospaced markup and without line breaks. -/
def cleanActivity (s : Text) : Text :=
  squeeze (replace "\"\"" [] (replace "__" [] (replace "//" [] (replace "**" []
    (replace "\\n" [' '] s)))))

/-- The text up to the parenthesis that closes the last of `depth + 1` open ones, and what follows. -/
def closeParen? : (depth : Nat) → Text → Option (Text × Text)
  | _, [] => none
  | depth, c :: s =>
    if c = ')' then
      match depth with
      | 0 => some ([], s)
      | depth + 1 => (closeParen? depth s).map fun (a, b) => (c :: a, b)
    else
      (closeParen? (if c = '(' then depth + 1 else depth) s).map fun (a, b) => (c :: a, b)

/-- The trimmed contents of the first group in parentheses, if it is balanced, and what follows. -/
def parenGroup? (s : Text) : Option (Text × Text) := do
  let (_, rest) ← cutAt? (· == '(') s
  let (inner, after) ← closeParen? 0 rest
  return (trim inner, after)

/-- The cleaned condition of a line, if it has one. -/
def condition? (s : Text) : Option Text := (parenGroup? s).map fun (c, _) => cleanActivity c

/-- The characters that can end an activity on one line. -/
def activityTerminators : List Char := [';', '|', '<', '>', '/', '\\', ']', '\x7d']

/-- The text of an activity without its terminator, if it has one. -/
def dropTerminator? (body : Text) : Option Text :=
  match body.trimEnd.reverse with
  | c :: before => if activityTerminators.contains c then some before.reverse else none
  | [] => none

/-! ## Statements -/

inductive FlowStatement where
  | skip
  | note (isOpen : Bool)
  | activity (text : Text)
  | openActivity (first : Text)
  | start
  | stop
  | finish
  | openIf (condition : Text)
  | elseIf (condition : Text)
  | elseBranch
  | endIf
  | openWhile (condition : Text) (value : Option Text)
  | endWhile (exit : Option Text)
  | openRepeat (first : Option Text)
  | endRepeat (condition : Text)
  | openFork
  | forkAgain (line : Text)
  | endFork (line : Text)
  | openPartition (name : Text)
  | endPartition (line : Text)
deriving DecidableEq, Repr

def isFlowDirective (line : Text) : Bool :=
  (line.startsWith ['|'] && line.endsWith ['|']) ||
    line.startsWithAny [
      "@", "!", "title", "skinparam", "header", "footer", "caption", "legend", "endlegend",
      "end legend", "scale", "detach", "kill", "->", "-[", "left to right", "top to bottom"]

/-- The text after the colon of an activity, which may also lie on the way back of a loop. -/
def activityBody? (line : Text) : Option Text :=
  dropPrefix? line [':'] <|> (dropPrefix? line "backward").bind fun rest => dropPrefix? rest.trim [':']

/-- An activity that ends on its line, or the beginning of one. -/
def FlowStatement.ofActivity (body : Text) : FlowStatement :=
  match dropTerminator? body with
  | some text => activity text
  | none => openActivity body

/-- A line begins with the word before its first blank or parenthesis. -/
def leadingWord (line : Text) : Text := line.takeWhile fun c => !(isBlank c || c == '(')

/-- The condition of a loop and the value it is compared with. -/
def FlowStatement.ofWhile (line : Text) : FlowStatement :=
  match parenGroup? line with
  | some (condition, rest) =>
    openWhile (cleanActivity condition) ((dropPrefix? rest.trim "is").bind condition?)
  | none => openWhile [] none

/-- A line that begins or ends a block, or a branch of one. -/
def FlowStatement.ofBlock (line : Text) : FlowStatement :=
  let word := leadingWord line
  if word = "if" then openIf ((condition? line).getD [])
  else if word = "elseif" || line.startsWith "else if" then elseIf ((condition? line).getD [])
  else if word = "else" then elseBranch
  else if word = "endif" || line.startsWith "end if" then endIf
  else if word = "while" then ofWhile line
  else if word = "endwhile" || line.startsWith "end while" then endWhile (condition? line)
  else if line.startsWithAny ["repeat while", "repeatwhile"] then
    endRepeat ((condition? line).getD [])
  else if word = "repeat" then
    openRepeat ((dropPrefix? (trim (line.drop word.length)) [':']).bind dropTerminator?)
  else if line = "fork again" || line = "split again" then forkAgain line
  else if line.startsWithAny ["end fork", "fork end", "end split", "split end", "end merge"] then
    endFork line
  else if line = "fork" || line = "split" then openFork
  else if word = "partition" then
    openPartition (unquote (dropEndWhile (· == '\x7b') (trim (line.drop word.length))))
  else if line = ['\x7d'] || line = "end partition" then endPartition line
  else skip

/-- What a line outside notes and unfinished activities says. -/
def FlowStatement.read (line : Text) : FlowStatement :=
  if line.isEmpty || isComment line || isFlowDirective line then skip
  else if line.startsWithAny ["note ", "floating note"] then note (!line.contains [':'])
  else
    match activityBody? line with
    | some body => ofActivity body
    | none =>
      if line = "start" then start
      else if line = "stop" then stop
      else if line = "end" then finish
      else ofBlock line

end DiagramProse
