import DiagramProse.ActivityDiagram.Reading
import DiagramProse.Proofs.Text.Beginnings
import DiagramProse.Proofs.Text.Cuts

/-!
Activity diagrams written in PlantUML, one statement on a line, and how each of these lines is read.
There are two ways to write a no-branch that is a single decision: after `else`, with an `endif` of its
own, or as `elseif`, which goes on with the decision around it and shares its `endif`. Which no-branches
are written in the second way is left open (`Chaining`).
-/

namespace DiagramProse

open Text

/-! ## Writing -/

/-- Which no-branches may be written as `elseif`. A place in a forest is the way to it: `false` leads to
the first element, to the yes-branch of a decision and to the first branch of a fork, `true` to the
elements behind the first, to the no-branch and to the branches behind the first. -/
abbrev Chaining := List Bool → Bool

def Chaining.under (chain : Chaining) (turn : Bool) : Chaining := fun way => chain (turn :: way)

/-- The parenthesised text behind a keyword, if there is any. -/
def afterKeyword (keyword : Text) (value : Option Text) : Text :=
  match value with
  | some v => keyword ++ " (" ++ v ++ ")"
  | none => []

def FlowElement.isDecision : FlowElement → Bool
  | decision .. => true
  | _ => false

mutual

/-- The lines of an element. -/
def FlowElement.lines (chain : Chaining) : FlowElement → List Text
  | .start => ["start"]
  | .stop => ["stop"]
  | .finish => ["end"]
  | .activity text => [':' :: text ++ [';']]
  | .decision condition yes no =>
    ("if (" ++ condition ++ ") then (yes)" : Text) ::
      flowLines (chain.under false) yes ++ elseLines (chain.under true) no ++ [("endif" : Text)]
  | .partition name elements =>
    ("partition \"" ++ name ++ "\" \x7b" : Text) :: flowLines chain elements ++ [("\x7d" : Text)]
  | .whileLoop condition value exit elements =>
    ("while (" ++ condition ++ ")" ++ afterKeyword " is" value : Text) ::
      flowLines chain elements ++ [("endwhile" ++ afterKeyword [] exit : Text)]
  | .repeatLoop condition elements =>
    ("repeat" : Text) :: flowLines chain elements ++ [("repeat while (" ++ condition ++ ")" : Text)]
  | .fork branches => ("fork" : Text) :: branchLines chain branches ++ [("end fork" : Text)]

/-- The lines of a forest. -/
def flowLines (chain : Chaining) : List FlowElement → List Text
  | [] => []
  | e :: es => e.lines (chain.under false) ++ flowLines (chain.under true) es

/-- The lines of a no-branch: `else` and the branch, or what goes on with `elseif`. -/
def elseLines (chain : Chaining) : List FlowElement → List Text
  | [] => [("else (no)" : Text)]
  | e :: es =>
    if es.isEmpty && e.isDecision && chain [] then e.elseIfLines chain
    else ("else (no)" : Text) :: (e.lines (chain.under false) ++ flowLines (chain.under true) es)

/-- The lines of a decision that goes on with the one around it. -/
def FlowElement.elseIfLines (chain : Chaining) : FlowElement → List Text
  | .decision condition yes no =>
    ("elseif (" ++ condition ++ ") then (yes)" : Text) ::
      flowLines (chain.under false) yes ++ elseLines (chain.under true) no
  | _ => []

/-- The lines of the branches of a fork. -/
def branchLines (chain : Chaining) : List (List FlowElement) → List Text
  | [] => []
  | b :: bs =>
    flowLines (chain.under false) b ++
      if bs.isEmpty then [] else ("fork again" : Text) :: branchLines (chain.under true) bs

end

/-- The source of a forest. -/
def flowSource (chain : Chaining) (elements : List FlowElement) : Text :=
  join "\n" (flowLines chain elements)

/-! ## Forests that can be written -/

/-- Whether each parenthesis is closed, `depth` being open already. -/
def isParenthesised : (depth : Nat) → Text → Bool
  | depth, [] => depth == 0
  | depth, c :: s =>
    if c = '(' then isParenthesised (depth + 1) s
    else if c = ')' then
      match depth with
      | 0 => false
      | depth + 1 => isParenthesised depth s
    else isParenthesised depth s

/-- A text that reading leaves as it is. -/
def isClean (s : Text) : Bool := cleanActivity s = s

/-- A text that can stand in parentheses. -/
def isCondition (s : Text) : Bool := isClean s && isParenthesised 0 s

mutual

/-- Whether the texts in an element stay as they are when they are written and read again. -/
def FlowElement.isWritable : FlowElement → Bool
  | .start | .stop | .finish => true
  | .activity text => isClean text
  | .decision condition yes no => isCondition condition && flowIsWritable yes && flowIsWritable no
  | .partition name elements => name.all (· != '\n') && flowIsWritable elements
  | .whileLoop condition value exit elements =>
    isCondition condition && value.all isCondition && exit.all isCondition && flowIsWritable elements
  | .repeatLoop condition elements => isCondition condition && flowIsWritable elements
  | .fork branches => !branches.isEmpty && branchesAreWritable branches

def flowIsWritable : List FlowElement → Bool
  | [] => true
  | e :: es => e.isWritable && flowIsWritable es

def branchesAreWritable : List (List FlowElement) → Bool
  | [] => true
  | b :: bs => flowIsWritable b && branchesAreWritable bs

end

/-! ## Conditions -/

theorem tight_of_isClean {s : Text} (h : isClean s = true) : Tight s := by
  have hs : cleanActivity s = s := by simpa [isClean] using h
  rw [← hs]
  exact tight_squeeze _

theorem isClean_noLineFeed {s : Text} (h : isClean s = true) : '\n' ∉ s := by
  have hs : cleanActivity s = s := by simpa [isClean] using h
  intro hn
  rw [← hs] at hn
  have : '\n' = ' ' := eq_space_of_mem_squeeze hn rfl
  simp at this

theorem closeParen?_append {s : Text} {depth : Nat} (h : isParenthesised depth s = true) (rest : Text) :
    closeParen? depth (s ++ ')' :: rest) = some (s, rest) := by
  induction s generalizing depth with
  | nil =>
    obtain rfl : depth = 0 := by simpa [isParenthesised] using h
    simp [closeParen?]
  | cons c s ih =>
    unfold isParenthesised at h
    split at h
    · next hc => subst hc; simp [closeParen?, ih h]
    · split at h
      · next hc =>
        subst hc
        cases depth with
        | zero => cases h
        | succ depth => simp [closeParen?, ih h]
      · next ho hc => simp [closeParen?, ho, hc, ih h]

/-- The first parenthesis of a text that has none in `before`. -/
theorem parenGroup?_eq (before s rest : Text) (hb : '(' ∉ before) (h : isCondition s = true) :
    parenGroup? (before ++ '(' :: (s ++ ')' :: rest)) = some (s, rest) := by
  simp only [isCondition, Bool.and_eq_true] at h
  have hcut : cutAt? (· == '(') (before ++ '(' :: (s ++ ')' :: rest)) = some (before, s ++ ')' :: rest) :=
    cutAt?_char_append hb _
  simp [parenGroup?, hcut, closeParen?_append h.2, trim_eq_self (tight_of_isClean h.1)]

theorem isClean_of_isCondition {s : Text} (h : isCondition s = true) : isClean s = true := by
  simp_all [isCondition]

theorem cleanActivity_of_isCondition {s : Text} (h : isCondition s = true) : cleanActivity s = s := by
  simpa [isClean] using isClean_of_isCondition h

theorem condition?_eq (before s rest : Text) (hb : '(' ∉ before) (h : isCondition s = true) :
    condition? (before ++ '(' :: (s ++ ')' :: rest)) = some s := by
  simp [condition?, parenGroup?_eq before s rest hb h, cleanActivity_of_isCondition h]

/-! ## Lines -/

/-- A line of a source, without blanks at its ends, and what it says. -/
structure Spells (l : Text) (s : FlowStatement) : Prop where
  isLine : IsLine l
  tight : Tight l
  read : FlowStatement.read l = s

instance (l : Text) (s : FlowStatement) : Decidable (Spells l s) :=
  decidable_of_iff (IsLine l ∧ Tight l ∧ FlowStatement.read l = s)
    ⟨fun h => ⟨h.1, h.2.1, h.2.2⟩, fun h => ⟨h.isLine, h.tight, h.read⟩⟩

/-- A line made of a keyword, of text without line feeds and of an ending. -/
theorem Spells.of_read (start : Text) {middle ending : Text} {s : FlowStatement}
    (hs : Tight start) (hs' : '\n' ∉ start) (hne : start ≠ []) (hm : '\n' ∉ middle)
    (he : Tight ending) (he' : IsLine ending)
    (h : FlowStatement.read (start ++ middle ++ ending) = s) : Spells (start ++ middle ++ ending) s :=
  ⟨isLine_append (by simp [hs', hm]) he', tight_append hs he hne he'.ne_nil, h⟩

/-- The words with which lines begin or end a block and no other line begins. -/
def blockWords : List Text := ["if", "elseif", "while", "endwhile", "repeat", "partition"]

/-- A line that begins with a colon or with such a word is not left out, and is no note. -/
theorem not_skipped {w : Text} (hw : w ∈ [':'] :: "backward" :: blockWords) (rest : Text) :
    (isComment (w ++ rest) || isFlowDirective (w ++ rest)) = false ∧
      startsWithAny (w ++ rest) ["note ", "floating note"] = false := by
  rw [isFlowDirective, Bool.or_eq_false_iff, Bool.or_eq_false_iff, Bool.and_eq_false_iff]
  refine ⟨⟨startsWithAny_of_apart ?_ rest, .inl (startsWith_of_apart ?_ rest),
    startsWithAny_of_apart ?_ rest⟩, startsWithAny_of_apart ?_ rest⟩
  all_goals revert w; decide

theorem dropTerminator?_semicolon (text : Text) : dropTerminator? (text ++ [';']) = some text := by
  have hblank : ∀ c ∈ (text ++ [';']).getLast?, isBlank c = false := by simp; decide
  rw [dropTerminator?, trimEnd, dropEndWhile_eq_self hblank]
  simp [activityTerminators]

theorem read_colon (body : Text) : FlowStatement.read ([':'] ++ body) = .ofActivity body := by
  obtain ⟨hskip, hnote⟩ := not_skipped (by decide : [':'] ∈ [':'] :: "backward" :: blockWords) body
  have hbody : activityBody? ([':'] ++ body) = some body := by
    rw [activityBody?, dropPrefix?_append]
    rfl
  rw [FlowStatement.read, Bool.or_assoc, hskip, hnote, hbody]
  rfl

theorem activity_spells {text : Text} (h : isClean text = true) :
    Spells (':' :: text ++ [';']) (.activity text) := by
  have hread : FlowStatement.read ([':'] ++ (text ++ [';'])) = .activity text := by
    rw [read_colon, FlowStatement.ofActivity, dropTerminator?_semicolon]
  exact .of_read [':'] (by decide) (by decide) (by decide) (isClean_noLineFeed h) (by decide)
    (by decide) hread

/-- A line that begins with the keyword of a block is read as one that begins or ends a block. -/
theorem read_eq_ofBlock {l w : Text} (hl : leadingWord l = w) (hw : w ∈ blockWords) :
    FlowStatement.read l = FlowStatement.ofBlock l := by
  obtain ⟨rest, rfl⟩ : ∃ rest, l = w ++ rest :=
    ⟨l.dropWhile fun c => !(isBlank c || c == '('),
      by rw [← hl, leadingWord, List.takeWhile_append_dropWhile]⟩
  obtain ⟨hskip, hnote⟩ := not_skipped (List.mem_cons_of_mem _ (List.mem_cons_of_mem _ hw)) rest
  have hne : w ≠ [] := (by decide : ∀ w ∈ blockWords, w ≠ []) w hw
  have hbody : activityBody? (w ++ rest) = none := by
    have hcolon : apart w [':'] = true := (by decide : ∀ w ∈ blockWords, apart w [':'] = true) w hw
    have hback : apart w "backward" = true :=
      (by decide : ∀ w ∈ blockWords, apart w "backward" = true) w hw
    rw [activityBody?, dropPrefix?_of_apart hcolon, dropPrefix?_of_apart hback]
    rfl
  -- `endwhile` begins with `end`, so this is about whole words
  have hword : ∀ p ∈ (["start", "stop", "end"] : List Text), w ++ rest ≠ p := by
    intro p hp he
    have hp' : leadingWord p ∉ blockWords :=
      (by decide : ∀ p ∈ (["start", "stop", "end"] : List Text), leadingWord p ∉ blockWords) p hp
    rw [← he, hl] at hp'
    exact hp' hw
  have hempty : (w ++ rest).isEmpty = false := by simp [hne]
  rw [FlowStatement.read, Bool.or_assoc, hempty, hskip, hnote, hbody]
  simp only [hword "start" (by decide), hword "stop" (by decide), hword "end" (by decide)]
  rfl

/-- A line with a condition in it, of which the leading word is known. -/
theorem condition_spells (start ending : Text) {w c : Text} {s : FlowStatement} (hc : isCondition c = true)
    (hstart : Tight start ∧ '\n' ∉ start ∧ start ≠ []) (hending : Tight ending ∧ IsLine ending)
    (hl : leadingWord (start ++ c ++ ending) = w) (hw : w ∈ blockWords)
    (h : FlowStatement.ofBlock (start ++ c ++ ending) = s) : Spells (start ++ c ++ ending) s := by
  obtain ⟨hs, hs', hne⟩ := hstart
  have hn : '\n' ∉ c := isClean_noLineFeed (isClean_of_isCondition hc)
  refine .of_read start hs hs' hne hn hending.1 hending.2 ?_
  rw [read_eq_ofBlock hl hw, h]

theorem if_spells {c : Text} (h : isCondition c = true) :
    Spells ("if (" ++ c ++ ") then (yes)") (.openIf c) := by
  have hw : leadingWord ("if (" ++ c ++ ") then (yes)") = "if" := by simp [leadingWord, isBlank]
  have hc : condition? ("if (" ++ c ++ ") then (yes)") = some c := by
    simpa using condition?_eq "if " c " then (yes)" (by decide) h
  refine condition_spells "if (" ") then (yes)" h (by decide) (by decide) hw (by decide) ?_
  simp only [FlowStatement.ofBlock, hw, hc]
  simp

theorem elseIf_spells {c : Text} (h : isCondition c = true) :
    Spells ("elseif (" ++ c ++ ") then (yes)") (.elseIf c) := by
  have hw : leadingWord ("elseif (" ++ c ++ ") then (yes)") = "elseif" := by simp [leadingWord, isBlank]
  have hc : condition? ("elseif (" ++ c ++ ") then (yes)") = some c := by
    simpa using condition?_eq "elseif " c " then (yes)" (by decide) h
  refine condition_spells "elseif (" ") then (yes)" h (by decide) (by decide) hw (by decide) ?_
  simp only [FlowStatement.ofBlock, hw, hc]
  simp

theorem repeatWhile_spells {c : Text} (h : isCondition c = true) :
    Spells ("repeat while (" ++ c ++ ")") (.endRepeat c) := by
  have hw : leadingWord ("repeat while (" ++ c ++ ")") = "repeat" := by simp [leadingWord, isBlank]
  have hc : condition? ("repeat while (" ++ c ++ ")") = some c := by
    simpa using condition?_eq "repeat while " c [] (by decide) h
  refine condition_spells "repeat while (" ")" h (by decide) (by decide) hw (by decide) ?_
  simp only [FlowStatement.ofBlock, hw, hc]
  simp [startsWithAny, startsWith]

/-- A keyword with a parenthesised text behind it ends in a parenthesis, if the text is there. -/
theorem afterKeyword_value {value : Option Text} (h : value.all isCondition = true) :
    (dropPrefix? (trim (afterKeyword " is" value)) "is").bind condition? = value := by
  cases value with
  | none => rfl
  | some v =>
    have hv : isCondition v = true := by simpa using h
    have ht : Tight ("is (" ++ v ++ ")") := tight_append (by decide) (by decide) (by decide) (by decide)
    have hl : trim (afterKeyword " is" (some v)) = "is (" ++ v ++ ")" := by
      rw [← trim_eq_self ht]
      simp [afterKeyword, trim, trimStart, isBlank]
    have hd : dropPrefix? ("is (" ++ v ++ ")") "is" = some (" (" ++ v ++ ")") := by
      simp [dropPrefix?]
    rw [hl, hd]
    simpa using condition?_eq " " v [] (by decide) hv

theorem while_spells {c : Text} {value : Option Text} (h : isCondition c = true)
    (hv : value.all isCondition = true) :
    Spells ("while (" ++ c ++ ")" ++ afterKeyword " is" value) (.openWhile c value) := by
  have hc : parenGroup? ("while (" ++ c ++ ")" ++ afterKeyword " is" value) =
      some (c, afterKeyword " is" value) := by
    simpa using parenGroup?_eq "while " c (afterKeyword " is" value) (by decide) h
  have hw : leadingWord ("while (" ++ c ++ ")" ++ afterKeyword " is" value) = "while" := by
    simp [leadingWord, isBlank]
  have hr : FlowStatement.read ("while (" ++ c ++ ")" ++ afterKeyword " is" value) =
      .openWhile c value := by
    rw [read_eq_ofBlock hw (by decide)]
    simp only [FlowStatement.ofBlock, hw, FlowStatement.ofWhile, hc, cleanActivity_of_isCondition h]
    rw [afterKeyword_value hv]
    simp [startsWith]
  have hcn : '\n' ∉ c := isClean_noLineFeed (isClean_of_isCondition h)
  cases value with
  | none =>
    rw [afterKeyword, List.append_nil] at hr ⊢
    exact .of_read "while (" (by decide) (by decide) (by decide) hcn (by decide) (by decide) hr
  | some v =>
    have hvn : '\n' ∉ v := isClean_noLineFeed (isClean_of_isCondition (by simpa using hv))
    have hl : ("while (" ++ c ++ ")" ++ afterKeyword " is" (some v) : Text) =
        "while (" ++ (c ++ ") is (" ++ v) ++ ")" := by simp [afterKeyword]
    rw [hl] at hr ⊢
    exact .of_read "while (" (by decide) (by decide) (by decide) (by simp [hcn, hvn]) (by decide)
      (by decide) hr

theorem endWhile_spells {exit : Option Text} (h : exit.all isCondition = true) :
    Spells ("endwhile" ++ afterKeyword [] exit) (.endWhile exit) := by
  cases exit with
  | none => exact ⟨by decide, by decide, by decide⟩
  | some v =>
    have hv : isCondition v = true := by simpa using h
    have hw : leadingWord ("endwhile (" ++ v ++ ")") = "endwhile" := by simp [leadingWord, isBlank]
    have hc : condition? ("endwhile (" ++ v ++ ")") = some v := by
      simpa using condition?_eq "endwhile " v [] (by decide) hv
    refine condition_spells "endwhile (" ")" hv (by decide) (by decide) hw (by decide) ?_
    simp only [FlowStatement.ofBlock, hw, hc]
    simp [startsWith]

/-- The name of a partition, in quotation marks. -/
theorem partitionName_eq (name : Text) :
    unquote (dropEndWhile (· == '\x7b') (trim (" \"" ++ name ++ "\" \x7b"))) = name := by
  have hq : Tight ("\"" ++ name ++ "\"") := tight_append (by decide) (by decide) (by decide) (by decide)
  have hb : Tight ("\"" ++ name ++ "\" \x7b") :=
    tight_append (by decide) (by decide) (by decide) (by decide)
  have ht : trim (" \"" ++ name ++ "\" \x7b") = "\"" ++ name ++ "\" \x7b" := by
    rw [← trim_eq_self hb]
    simp [trim, trimStart, isBlank]
  have hs : trim ("\"" ++ name ++ "\" ") = "\"" ++ name ++ "\"" := by
    have : "\"" ++ name ++ "\" " = ("\"" ++ name ++ "\"" : Text) ++ [' '] := by simp
    rw [this, trim, trimStart, dropWhile_eq_self (by simpa using hq.head), trimEnd, dropEndWhile]
    simp [isBlank]
  rw [ht]
  have hd : dropEndWhile (· == '\x7b') ("\"" ++ name ++ "\" \x7b") = "\"" ++ name ++ "\" " := by
    simp [dropEndWhile]
  rw [hd, unquote, hs]
  simp [dropPrefix?, dropSuffix?]

theorem partition_spells {name : Text} (h : name.all (· != '\n') = true) :
    Spells ("partition \"" ++ name ++ "\" \x7b") (.openPartition name) := by
  have hw : leadingWord ("partition \"" ++ name ++ "\" \x7b") = "partition" := by
    simp [leadingWord, isBlank]
  have hn : '\n' ∉ name := fun hm => by simpa using List.all_eq_true.1 h _ hm
  have hd : ("partition \"" ++ name ++ "\" \x7b" : Text).drop ("partition" : Text).length =
      " \"" ++ name ++ "\" \x7b" := rfl
  refine .of_read "partition \"" (by decide) (by decide) (by decide) hn (by decide) (by decide) ?_
  rw [read_eq_ofBlock hw (by decide)]
  simp only [FlowStatement.ofBlock, hw, hd, partitionName_eq]
  simp [startsWith, startsWithAny]

end DiagramProse
