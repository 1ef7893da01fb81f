import DiagramProse.C4Diagram.Reading
import DiagramProse.Proofs.Text.Letters
import DiagramProse.Proofs.Text.Quotes

/-!
Calls that are written one on a line, with their arguments in double quotes, are found again
(`findCalls_lines`). What stands in the quotes does not matter: commas, parentheses and words with
parentheses behind them are all part of the argument.
-/

namespace DiagramProse

open Text

/-! ## Writing -/

/-- A text that can stand in double quotes on a line. -/
def isQuotable (s : Text) : Bool := s.all fun c => c != '"' && c != '\n'

/-- The word of a call: letters, digits and underscores, no digit at the front. -/
def isCallName (s : Text) : Bool := s.head?.any (fun c => isCallChar c && !c.isDigit) && s.all isCallChar

namespace C4Call

def line (c : C4Call) : Text := c.name ++ '(' :: (join [',', ' '] (c.arguments.map quoted) ++ [')'])

/-- There is an argument, as none at all cannot be told from an empty one. -/
def isWritable (c : C4Call) : Bool :=
  isCallName c.name && !c.arguments.isEmpty && c.arguments.all isQuotable

end C4Call

/-! ## Arguments -/

theorem quote_not_mem {s : Text} (h : isQuotable s = true) : '"' ∉ s :=
  not_mem_of_all h rfl

theorem lineFeed_not_mem_quoted {s : Text} (h : isQuotable s = true) : '\n' ∉ quoted s := by
  have : '\n' ∉ s := not_mem_of_all h rfl
  simp [quoted, this]

theorem positional?_quoted (s : Text) : positional? (quoted s) = some s := by
  have hdollar : startsWith (quoted s) ['$'] = false := rfl
  simp only [positional?, trim_eq_self (tight_quoted s), hdollar, unquote_quoted]
  rfl

/-- A space in front of an argument does not count. -/
theorem positional?_space_cons (s : Text) : positional? (' ' :: s) = positional? s := by
  unfold positional?
  rw [trim_space_cons]

variable {a after t : Text} {as : List Text}

/-- What stands in quotes is copied, whatever it is. -/
theorem rawArguments?_inQuotes {s : Text} (hs : '"' ∉ s) {depth : Nat}
    (h : rawArguments? true depth t = some (a :: as, after)) :
    rawArguments? true depth (s ++ t) = some ((s ++ a) :: as, after) := by
  induction s with
  | nil => exact h
  | cons c s ih =>
    have hc : c ≠ '"' := by rintro rfl; simp at hs
    have hrest := ih fun hm => hs (List.mem_cons_of_mem _ hm)
    simp only [List.cons_append, rawArguments?, if_neg hc, if_true, hrest, Option.map_some]

theorem rawArguments?_quoted {s : Text} (hs : '"' ∉ s) {depth : Nat}
    (h : rawArguments? false depth t = some (a :: as, after)) :
    rawArguments? false depth (quoted s ++ t) = some ((quoted s ++ a) :: as, after) := by
  have hclosing : rawArguments? true depth ('"' :: t) = some (('"' :: a) :: as, after) := by
    simp only [rawArguments?, if_true, Bool.not_true, h, Option.map_some]
  have hinside := rawArguments?_inQuotes hs hclosing
  have hshape : quoted s ++ t = '"' :: (s ++ '"' :: t) := by simp [quoted]
  simp only [hshape, rawArguments?, if_true, Bool.not_false, hinside, Option.map_some]
  simp [quoted]

/-- Behind a comma the next argument begins, with the space in front of it. -/
theorem rawArguments?_comma (h : rawArguments? false 0 t = some (a :: as, after)) :
    rawArguments? false 0 (',' :: ' ' :: t) = some ([] :: (' ' :: a) :: as, after) := by
  simp [rawArguments?, h]

/-- Arguments in quotes are told apart by the commas between them. -/
theorem rawArguments?_join (h : ∀ s ∈ a :: as, '"' ∉ s) :
    rawArguments? false 0 (join [',', ' '] ((a :: as).map quoted) ++ ')' :: after) =
      some (quoted a :: as.map (' ' :: quoted ·), after) := by
  induction as generalizing a with
  | nil =>
    have hend : rawArguments? false 0 (')' :: after) = some ([[]], after) := rfl
    have ha : '"' ∉ a := h a (by simp)
    simpa [join] using rawArguments?_quoted ha hend
  | cons b bs ih =>
    have hcomma := rawArguments?_comma (ih fun s hs => h s (List.mem_cons_of_mem _ hs))
    have ha : '"' ∉ a := h a (by simp)
    simpa [join, List.intercalate_cons_cons] using rawArguments?_quoted ha hcomma

theorem readArguments?_join {args : List Text} (hne : args ≠ []) (h : args.all isQuotable = true) :
    readArguments? (join [',', ' '] (args.map quoted) ++ ')' :: after) = some (args, after) := by
  rcases args with _ | ⟨a, as⟩
  · exact absurd rfl hne
  · have hquotes : ∀ s ∈ a :: as, '"' ∉ s := fun s hs => quote_not_mem (List.all_eq_true.1 h s hs)
    have hspaces : (as.map (' ' :: quoted ·)).filterMap positional? = as := by
      rw [List.filterMap_map]
      have : positional? ∘ (' ' :: quoted ·) = some := by
        funext s
        exact (positional?_space_cons _).trans (positional?_quoted s)
      rw [this, List.filterMap_some]
    rw [readArguments?, rawArguments?_join hquotes, Option.map_some]
    show some ((quoted a :: as.map (' ' :: quoted ·)).filterMap positional?, after) = _
    rw [List.filterMap_cons_some (positional?_quoted a), hspaces]

/-! ## Names -/

theorem not_blank_of_isCallChar {c : Char} (h : isCallChar c = true) : isBlank c = false :=
  not_blank_of_isNameChar (isNameChar_of_isAsciiNameChar h).1

/-- A call name begins with a letter or an underscore. -/
theorem isCallName_cases {s : Text} (h : isCallName s = true) :
    ∃ c u, s = c :: u ∧ (isCallChar c && !c.isDigit) = true ∧ ∀ d ∈ c :: u, isCallChar d = true := by
  rcases s with _ | ⟨c, u⟩
  · cases h
  · rw [isCallName, Bool.and_eq_true] at h
    exact ⟨c, u, rfl, by simpa using h.1, List.all_eq_true.1 h.2⟩

theorem callHead?_name {name : Text} (h : isCallName name = true) (s : Text) :
    callHead? (name ++ '(' :: s) = some (name, s) := by
  obtain ⟨c, u, rfl, hc, hu⟩ := isCallName_cases h
  have hname : (c :: u ++ '(' :: s).takeWhile isCallChar = c :: u := by
    rw [List.takeWhile_append_of_pos hu]
    simp [isCallChar]
  have hrest : trimStart ('(' :: s) = '(' :: s := rfl
  rw [List.cons_append] at hname ⊢
  simp only [callHead?, List.head?_cons, Option.bind_eq_bind, Option.bind_some, hc, guard, if_true, hname]
  simp [hrest, dropPrefix?]

theorem not_comment_of_isCallName {name : Text} (h : isCallName name = true) (s : Text) :
    isComment (trimStart (name ++ s)) = false := by
  obtain ⟨c, u, rfl, -, hu⟩ := isCallName_cases h
  have hc : isCallChar c = true := hu c (List.mem_cons_self ..)
  have hstart : trimStart (c :: u ++ s) = c :: u ++ s :=
    dropWhile_eq_self fun d hd => by
      obtain rfl : c = d := by simpa using hd
      exact not_blank_of_isCallChar hc
  rw [hstart, isComment, List.cons_append]
  have hne : ∀ d, isCallChar d = false → c ≠ d := by
    rintro d hd rfl
    rw [hc] at hd
    cases hd
  simp [startsWithAny, startsWith, List.isPrefixOf_cons_cons, (hne '\'' rfl).symm, (hne '%' rfl).symm,
    (hne '/' rfl).symm]

/-! ## Lines -/

namespace C4Call

variable {c : C4Call}

theorem isLine_line (h : c.isWritable = true) : IsLine c.line := by
  simp only [isWritable, Bool.and_eq_true] at h
  obtain ⟨⟨hname, -⟩, hargs⟩ := h
  rw [isCallName, Bool.and_eq_true] at hname
  have hn : '\n' ∉ c.name := not_mem_of_all hname.2 rfl
  have ha : '\n' ∉ join [',', ' '] (c.arguments.map quoted) := by
    refine not_mem_join (by decide) fun p hp => ?_
    obtain ⟨s, hs, rfl⟩ := List.mem_map.1 hp
    exact lineFeed_not_mem_quoted (List.all_eq_true.1 hargs s hs)
  have hshape : c.line = (c.name ++ '(' :: join [',', ' '] (c.arguments.map quoted)) ++ [')'] := by simp [line]
  rw [hshape]
  exact isLine_append (by simpa [hn] using ha) (by decide)

end C4Call

/-- Characters that are passed over. What is behind the last of them is all that matters later. -/
theorem findCalls_skip {c : Char} (s t : Text) (before : Option Char) :
    findCalls (s ++ [c]).length before (s ++ c :: t) = findCalls 0 (some c) t := by
  induction s generalizing before with
  | nil => rfl
  | cons d s ih => exact ih (some d)

theorem findCalls_line {c : C4Call} (h : c.isWritable = true) {before : Option Char}
    (hbefore : before.any isWordChar = false) (t : Text) :
    findCalls 0 before (c.line ++ t) = c :: findCalls 0 (some ')') t := by
  simp only [C4Call.isWritable, Bool.and_eq_true, Bool.not_eq_true', List.isEmpty_eq_false_iff] at h
  obtain ⟨⟨hname, hne⟩, hargs⟩ := h
  -- the first character of the name, what is between it and the closing parenthesis, and what follows
  obtain ⟨d, u, hdu, -, -⟩ := isCallName_cases hname
  let inner := u ++ '(' :: join [',', ' '] (c.arguments.map quoted)
  have hline : c.line ++ t = d :: (inner ++ ')' :: t) := by simp [C4Call.line, inner, hdu]
  have hhead : callHead? (d :: (inner ++ ')' :: t)) =
      some (c.name, join [',', ' '] (c.arguments.map quoted) ++ ')' :: t) := by
    rw [← hline, ← callHead?_name hname]
    simp [C4Call.line]
  have hskip : (inner ++ ')' :: t).length - t.length = (inner ++ [')']).length := by
    simp only [List.length_append, List.length_cons, List.length_nil]
    omega
  rw [hline, findCalls]
  simp only [hbefore, Bool.false_eq_true, if_false, hhead, readArguments?_join hne hargs, hskip]
  rw [findCalls_skip]

/-- Calls on lines are found, each with its arguments, and no others are. -/
theorem findCalls_lines {cs : List C4Call} (h : ∀ c ∈ cs, c.isWritable = true) {before : Option Char}
    (hbefore : before.any isWordChar = false) : findCalls 0 before (join ['\n'] (cs.map C4Call.line)) = cs := by
  induction cs generalizing before with
  | nil => rfl
  | cons c cs ih =>
    have hc := h c (List.mem_cons_self ..)
    have hrest : ∀ before : Option Char, before.any isWordChar = false →
        findCalls 0 before (join ['\n'] (cs.map C4Call.line)) = cs :=
      fun _ => ih fun d hd => h d (List.mem_cons_of_mem _ hd)
    cases cs with
    | nil =>
      have := findCalls_line hc hbefore []
      simpa [join, findCalls] using this
    | cons d ds =>
      -- a line feed calls nothing, and a word may begin behind it
      have hfeed : ∀ s, findCalls 0 (some ')') ('\n' :: s) = findCalls 0 (some '\n') s := by
        intro s
        have hnone : callHead? ('\n' :: s) = none := rfl
        simp only [findCalls, hnone, ite_self]
      have hword : (some '\n').any isWordChar = false := by decide +kernel
      have hjoin : join ['\n'] ((c :: d :: ds).map C4Call.line) =
          c.line ++ '\n' :: join ['\n'] ((d :: ds).map C4Call.line) := by
        simp [join, List.intercalate_cons_cons]
      rw [hjoin, findCalls_line hc hbefore, hfeed, hrest _ hword]

end DiagramProse
