import DiagramProse.Proofs.ActivityDiagram.CleanTexts
import DiagramProse.Proofs.ActivityDiagram.LineNumbers
import DiagramProse.Proofs.ActivityDiagram.RoundTrip

/-!
An activity may go on over several lines, up to one that ends in a semicolon. Where its text is broken makes no
difference to the diagram (`ActivityDiagram.read_broken`): the lines up to the semicolon are collected, whatever they
would say elsewhere, and joined with spaces. The same lines can stand behind an activity that is still open, and then
they are a part of that, or in a note.

The activity with which a loop begins is an exception: it is only read if it ends on its line. Where it does not, the
line is read like `repeat` alone, and the lines behind it are read as what they say
(`ActivityDiagram.read_repeat_unfinished`).
-/

namespace DiagramProse

open Text

/-! ## Writing -/

/-- What stands in front of the text of an activity: a colon, that on the way back of a loop, or that at the
beginning of a loop. -/
inductive ActivityOpener where
  | colon
  | backward
  | repeatLoop
deriving DecidableEq, Repr

def ActivityOpener.text : ActivityOpener → Text
  | colon => ":"
  | backward => "backward :"
  | repeatLoop => "repeat :"

/-- An activity with its text, which may go over several lines. -/
def ActivityOpener.write (o : ActivityOpener) (text : Text) : Text := o.text ++ text ++ ";"

/-- A source with an activity between its lines. -/
def ActivityOpener.source (o : ActivityOpener) (before : List Text) (text : Text) (after : List Text) : Text :=
  join "\n" (before ++ o.write text :: after)

namespace ActivityOpener

theorem tight_text (o : ActivityOpener) : Tight o.text := by
  cases o <;> decide

theorem text_ne_nil (o : ActivityOpener) : o.text ≠ [] := by
  cases o <;> decide

theorem noLineFeed (o : ActivityOpener) : '\n' ∉ o.text := by
  cases o <;> decide

theorem trim_text_append (o : ActivityOpener) (s : Text) : trim (o.text ++ s) = o.text ++ trimEnd s :=
  trim_append o.tight_text o.text_ne_nil s

/-- The lines of an activity of which the text is broken into two or more parts. -/
theorem write_join (o : ActivityOpener) (sep first last : Text) (middle : List Text) :
    o.write (join sep (first :: (middle ++ [last]))) =
      join sep ((o.text ++ first) :: (middle ++ [last ++ ";"])) := by
  rw [write, append_join, ← List.cons_append, join_append]
  rfl

end ActivityOpener

/-! ## Statements -/

theorem dropTerminator?_trimEnd (s : Text) : dropTerminator? (trimEnd s) = dropTerminator? s := by
  rw [dropTerminator?, dropTerminator?, trimEnd_trimEnd]

/-- What ends in a semicolon is terminated. -/
theorem last_ne_of_dropTerminator? {s : Text} (h : dropTerminator? s = none) : (trimEnd s).getLast? ≠ some ';' := by
  intro hlast
  obtain ⟨t, ht⟩ := List.getLast?_eq_some_iff.1 hlast
  rw [← dropTerminator?_trimEnd, ht, dropTerminator?_semicolon] at h
  cases h

theorem trim_space_colon (body : Text) : trim (" :" ++ body) = [':'] ++ trimEnd body := by
  have hcolon : (" :" ++ body : Text) = ' ' :: ([':'] ++ body) := rfl
  rw [hcolon, trim_space_cons, trim_append (by decide) (by decide)]

theorem read_backward (body : Text) :
    FlowStatement.read ("backward :" ++ body) = .ofActivity (trimEnd body) := by
  have hmem : ("backward" : Text) ∈ [':'] :: "backward" :: blockWords := by decide
  obtain ⟨hskip, hnote⟩ := not_skipped hmem (" :" ++ body)
  have hbody : activityBody? ("backward" ++ (" :" ++ body)) = some (trimEnd body) := by
    have hcolon : dropPrefix? ("backward" ++ (" :" ++ body)) [':'] = none := dropPrefix?_of_apart (by decide) _
    rw [activityBody?, hcolon, dropPrefix?_append, Option.bind_some, trim_space_colon, dropPrefix?_append]
    rfl
  have hline : ("backward :" ++ body : Text) = "backward" ++ (" :" ++ body) := rfl
  rw [hline, FlowStatement.read, Bool.or_assoc, hskip, hnote, hbody]
  rfl

/-- The activity of a loop that begins is the text up to its terminator, if it has one on its line. -/
theorem read_repeat (body : Text) : FlowStatement.read ("repeat :" ++ body) = .openRepeat (dropTerminator? body) := by
  have hword : leadingWord ("repeat :" ++ body) = "repeat" := rfl
  have hdrop : ("repeat :" ++ body : Text).drop ("repeat" : Text).length = " :" ++ body := rfl
  have hstarts : startsWithAny ("repeat :" ++ body) ["repeat while", "repeatwhile"] = false :=
    startsWithAny_of_apart (by decide) body
  rw [read_eq_ofBlock hword (by decide), FlowStatement.ofBlock]
  simp only [hword, hdrop, trim_space_colon, hstarts, dropPrefix?_append, Option.bind_some, dropTerminator?_trimEnd]
  simp [startsWith]

/-- The text of an activity goes to the end of its line. -/
theorem read_activity {o : ActivityOpener} (ho : o ≠ .repeatLoop) (body : Text) :
    FlowStatement.read (trim (o.text ++ body)) = .ofActivity (trimEnd body) := by
  rw [o.trim_text_append]
  cases o with
  | colon => exact read_colon (trimEnd body)
  | backward => exact (read_backward (trimEnd body)).trans (by rw [trimEnd_trimEnd])
  | repeatLoop => exact absurd rfl ho

/-! ## Lines that are collected -/

namespace FlowReader

variable {r : FlowReader}

theorem step_trim (number : Nat) (raw : Text) : r.step number (trim raw) = r.step number raw := by
  rw [step, step, trim_trim]

theorem run_map_trim (number : Nat) (lines : List Text) : r.run number (lines.map trim) = r.run number lines := by
  induction lines generalizing number r with
  | nil => rfl
  | cons line lines ih => rw [List.map_cons, run, run, step_trim, ih]

theorem addActivity_join_congr {ps qs : List Text} (h : ps.flatMap activityWords = qs.flatMap activityWords) :
    r.addActivity (join [' '] ps) = r.addActivity (join [' '] qs) := by
  have hblank : isBlank ' ' = true := rfl
  rw [addActivity, addActivity, cleanActivity_eq_join, cleanActivity_eq_join, piecewise_activityWords.join hblank,
    piecewise_activityWords.join hblank, h]

theorem step_open {a : OpenActivity} (h : r.pending = some a) (number : Nat) (raw : Text) :
    r.step number raw = r.continueActivity a raw.trim := by
  rw [step, h]

/-- Behind an open activity all lines are collected up to one that ends in a semicolon. -/
theorem run_open {a : OpenActivity} {middle : List Text} (h : r.pending = some a)
    (hmiddle : ∀ part ∈ middle, (trim part).getLast? ≠ some ';') (number : Nat) (last : Text) :
    r.run number (middle ++ [last ++ ";"]) =
      { r with pending := none }.addActivity (join [' '] (a.parts ++ (middle ++ [last]))) := by
  induction middle generalizing r a number with
  | nil =>
    have hdrop : dropSuffix? (trimStart last ++ [';']) [';'] = some (trimStart last) := by
      simp [dropSuffix?, dropPrefix?]
    have htrim : trim (last ++ ";") = trimStart last ++ [';'] := trim_concat (by decide) last
    rw [List.nil_append, run_singleton, step_open h, htrim, continueActivity, hdrop]
    refine addActivity_join_congr ?_
    simp only [List.flatMap_append, List.flatMap_cons, List.flatMap_nil, List.nil_append,
      piecewise_activityWords.trimStart]
  | cons part middle ih =>
    obtain ⟨hpart, hmiddle⟩ := List.forall_mem_cons.1 hmiddle
    have hstep : r.step number part = { r with pending := some { a with parts := a.parts ++ [trim part] } } := by
      rw [step_open h, continueActivity, dropSuffix?_of_last hpart]
    rw [List.cons_append, run, hstep, ih rfl hmiddle]
    refine addActivity_join_congr ?_
    simp only [List.flatMap_append, List.flatMap_cons, List.flatMap_nil, List.append_nil, List.append_assoc,
      piecewise_activityWords.trim]

/-- A line that closes a note. -/
def closesNote (line : Text) : Bool := trim line == "end note" || trim line == "endnote"

theorem step_note (hpending : r.pending = none) (hnote : r.inNote = true) {line : Text}
    (h : closesNote line = false) (number : Nat) : r.step number line = r := by
  obtain ⟨elements, blocks, diagnostics, pending, inNote⟩ := r
  obtain rfl : pending = none := hpending
  obtain rfl : inNote = true := hnote
  show { inNote := !closesNote line, .. : FlowReader } = _
  rw [h]
  rfl

theorem run_note (hpending : r.pending = none) (hnote : r.inNote = true) {lines : List Text}
    (h : ∀ line ∈ lines, closesNote line = false) (number : Nat) : r.run number lines = r := by
  induction lines generalizing number with
  | nil => rfl
  | cons line lines ih =>
    obtain ⟨hline, hlines⟩ := List.forall_mem_cons.1 h
    rw [run, step_note hpending hnote hline, ih hlines]

theorem closesNote_opener (o : ActivityOpener) (s : Text) : closesNote (o.text ++ s) = false := by
  rw [closesNote, o.trim_text_append]
  cases o <;> rfl

theorem closesNote_semicolon (s : Text) : closesNote (s ++ ";") = false := by
  have htrim : trim (s ++ ";") = trimStart s ++ [';'] := trim_concat (by decide) s
  have hne : ∀ t : Text, t.getLast? ≠ some ';' → trim (s ++ ";") ≠ t := by
    rintro t ht rfl
    rw [htrim] at ht
    exact ht List.getLast?_concat
  rw [closesNote, beq_false_of_ne (hne _ (by decide)), beq_false_of_ne (hne _ (by decide)), Bool.or_false]

/-! ## Broken texts -/

theorem run_whole (hr : r.Ready) {o : ActivityOpener} (ho : o ≠ .repeatLoop) (number : Nat) (text : Text) :
    r.run number [o.write text] = r.addActivity text := by
  have hend : trimEnd (text ++ ";") = text ++ [';'] := dropEndWhile_eq_self (by simp; decide)
  have hread : FlowStatement.read (trim (o.write text)) = .activity text := by
    rw [ActivityOpener.write, List.append_assoc, read_activity ho, hend, FlowStatement.ofActivity,
      dropTerminator?_semicolon]
  rw [run_singleton, hr.step, hread]
  rfl

theorem step_unfinished (hr : r.Ready) {o : ActivityOpener} (ho : o ≠ .repeatLoop) {first : Text}
    (hfirst : dropTerminator? first = none) (number : Nat) :
    r.step number (o.text ++ first) = { r with pending := some ⟨[trimEnd first], number⟩ } := by
  have hread : FlowStatement.read (trim (o.text ++ first)) = .openActivity (trimEnd first) := by
    rw [read_activity ho, FlowStatement.ofActivity, dropTerminator?_trimEnd, hfirst]
  rw [hr.step, hread]
  rfl

/-- Where an activity is open already, the lines belong to it. -/
theorem run_broken_open {a : OpenActivity} (hpending : r.pending = some a) (o : ActivityOpener) {first : Text}
    {middle : List Text} (hfirst : dropTerminator? first = none)
    (hmiddle : ∀ part ∈ middle, (trim part).getLast? ≠ some ';') (last : Text) (number number' : Nat) :
    r.run number ((o.text ++ first) :: (middle ++ [last ++ ";"])) =
      r.run number' [o.write (join [' '] (first :: (middle ++ [last])))] := by
  have hopener : (trim (o.text ++ first)).getLast? ≠ some ';' := by
    rw [o.trim_text_append, List.getLast?_append]
    have hlast := last_ne_of_dropTerminator? hfirst
    cases hend : (trimEnd first).getLast? with
    | none => cases o <;> decide
    | some c => rwa [hend] at hlast
  have hwords : activityWords (o.text ++ join [' '] (first :: (middle ++ [last]))) =
      ((o.text ++ first) :: (middle ++ [last])).flatMap activityWords := by
    rw [append_join, piecewise_activityWords.join rfl]
  have hbroken := run_open hpending (List.forall_mem_cons.2 ⟨hopener, hmiddle⟩) number last
  have hwhole := @run_open r a [] hpending (by simp) number' (o.text ++ join [' '] (first :: (middle ++ [last])))
  rw [← List.cons_append, hbroken]
  refine Eq.trans ?_ hwhole.symm
  refine addActivity_join_congr ?_
  simp only [List.flatMap_append, List.flatMap_cons, List.flatMap_nil, List.nil_append, List.append_nil,
    List.append_assoc, hwords]

/-- Where a note is open, the lines are text of the note. -/
theorem run_broken_note (hpending : r.pending = none) (hnote : r.inNote = true) (o : ActivityOpener) (first : Text)
    {middle : List Text} (hmiddle : ∀ part ∈ middle, closesNote part = false) (last text : Text)
    (number number' : Nat) :
    r.run number ((o.text ++ first) :: (middle ++ [last ++ ";"])) = r.run number' [o.write text] := by
  have hlines : ∀ line ∈ (o.text ++ first) :: (middle ++ [last ++ ";"]), closesNote line = false := by
    intro line hline
    rcases List.mem_cons.1 hline with rfl | hline
    · exact closesNote_opener o first
    · rcases List.mem_append.1 hline with hline | hline
      · exact hmiddle line hline
      · obtain rfl := List.mem_singleton.1 hline
        exact closesNote_semicolon last
  have hline : ∀ line ∈ [o.write text], closesNote line = false :=
    List.forall_mem_singleton.2 (closesNote_semicolon _)
  rw [run_note hpending hnote hlines, run_note hpending hnote hline]

/-- Elsewhere the first line opens an activity that the last one ends. -/
theorem run_broken_ready (hr : r.Ready) {o : ActivityOpener} (ho : o ≠ .repeatLoop) {first : Text}
    {middle : List Text} (hfirst : dropTerminator? first = none)
    (hmiddle : ∀ part ∈ middle, (trim part).getLast? ≠ some ';') (last : Text) (number number' : Nat) :
    r.run number ((o.text ++ first) :: (middle ++ [last ++ ";"])) =
      r.run number' [o.write (join [' '] (first :: (middle ++ [last])))] := by
  have hself : { r with pending := none } = r := by rw [← hr.pending]
  have hopen : { r with pending := some ⟨[trimEnd first], number⟩ : FlowReader }.pending =
    some ⟨[trimEnd first], number⟩ := rfl
  rw [run_whole hr ho, run, step_unfinished hr ho hfirst, run_open hopen hmiddle, hself]
  refine addActivity_join_congr ?_
  rw [List.singleton_append, List.flatMap_cons, List.flatMap_cons, piecewise_activityWords.trimEnd]

/-- A reader goes the same way over the lines of an activity as over the one line that says it as a whole. -/
theorem run_broken (o : ActivityOpener) {first : Text} {middle : List Text}
    (hfirst : dropTerminator? first = none) (hmiddle : ∀ part ∈ middle, (trim part).getLast? ≠ some ';')
    (hnote : r.inNote = true → ∀ part ∈ middle, closesNote part = false)
    (hrepeat : r.Ready → o ≠ .repeatLoop) (last : Text) (number number' : Nat) :
    r.run number ((o.text ++ first) :: (middle ++ [last ++ ";"])) =
      r.run number' [o.write (join [' '] (first :: (middle ++ [last])))] := by
  cases hpending : r.pending with
  | some a => exact run_broken_open hpending o hfirst hmiddle last number number'
  | none =>
    cases hn : r.inNote with
    | true => exact run_broken_note hpending hn o first (hnote hn) last _ number number'
    | false =>
      have hr : r.Ready := ⟨hpending, hn⟩
      exact run_broken_ready hr (hrepeat hr) hfirst hmiddle last number number'

end FlowReader

/-! ## Sources -/

namespace ActivityDiagram

theorem read_join {ls : List Text} (h : ∀ l ∈ ls, '\n' ∉ l) :
    read (join "\n" ls) = (FlowReader.start.run 1 ((linesOfPieces ls).map trim)).finish := by
  have hlines : (join "\n" ls : Text).lines = linesOfPieces ls := lines_join_eq h
  rw [FlowReader.run_map_trim, read, ofLines, hlines]

/-- Some lines, the last of which is not empty, between those in front of them and those behind. -/
theorem read_between {before middle after : List Text} {last : Text} (hlast : last ≠ [])
    (h : ∀ l ∈ before ++ (middle ++ last :: after), '\n' ∉ l) :
    read (join "\n" (before ++ (middle ++ last :: after))) =
      (((FlowReader.start.run 1 before).run (1 + before.length) (middle ++ [last])).run
        (1 + (before ++ (middle ++ [last])).length) (linesOfPieces after)).finish := by
  have hlines : (linesOfPieces (before ++ (middle ++ last :: after))).map trim =
      ((before ++ (middle ++ [last])) ++ linesOfPieces after).map trim := by
    rw [← List.append_assoc, map_trim_linesOfPieces _ hlast]
    simp
  rw [read_join h, hlines, FlowReader.run_map_trim, FlowReader.run_append, FlowReader.run_append]

/-- A text in two or more parts. -/
theorem read_source_parts (o : ActivityOpener) {before middle after : List Text} {first last : Text}
    (hlines : ∀ l ∈ before ++ (first :: (middle ++ [last]) ++ after), '\n' ∉ l)
    (hfirst : dropTerminator? first = none) (hmiddle : ∀ part ∈ middle, (trim part).getLast? ≠ some ';')
    (hnote : (FlowReader.start.run 1 before).inNote = true → ∀ part ∈ middle, FlowReader.closesNote part = false)
    (hrepeat : (FlowReader.start.run 1 before).Ready → o ≠ .repeatLoop) :
    ∃ r r' : FlowReader, r.unnumbered = r'.unnumbered ∧
      read (o.source before (join "\n" (first :: (middle ++ [last]))) after) = r.finish ∧
      read (o.source before (join " " (first :: (middle ++ [last]))) after) = r'.finish := by
  obtain ⟨hbefore, hparts⟩ := List.forall_mem_append.1 hlines
  obtain ⟨hparts, hafter⟩ := List.forall_mem_append.1 hparts
  obtain ⟨hf, hrest⟩ := List.forall_mem_cons.1 hparts
  obtain ⟨hm, hl⟩ := List.forall_mem_append.1 hrest
  have hopener := o.noLineFeed
  have hbroken : o.source before (join "\n" (first :: (middle ++ [last]))) after =
      join "\n" (before ++ ((o.text ++ first) :: middle ++ (last ++ ";") :: after)) := by
    rw [ActivityOpener.source, o.write_join, join_join _ _ (List.cons_ne_nil _ _)]
    simp
  have hne : o.write (join " " (first :: (middle ++ [last]))) ≠ [] := by
    simp [ActivityOpener.write]
  have hwhole : '\n' ∉ o.write (join " " (first :: (middle ++ [last]))) := by
    have hjoin : '\n' ∉ join " " (first :: (middle ++ [last])) := not_mem_join (by decide) hparts
    have hend : '\n' ∉ (";" : Text) := by decide
    rw [ActivityOpener.write, List.mem_append, List.mem_append]
    exact not_or.2 ⟨not_or.2 ⟨hopener, hjoin⟩, hend⟩
  rw [hbroken, read_between (by simp), ActivityOpener.source, ← List.nil_append (o.write _ :: after), read_between hne]
  · refine ⟨_, _, FlowReader.unnumbered_run ?_ _ _ _, rfl, rfl⟩
    rw [List.nil_append, List.cons_append]
    exact congrArg FlowReader.unnumbered (FlowReader.run_broken o hfirst hmiddle hnote hrepeat last _ _)
  · intro l h
    simp only [List.nil_append, List.mem_append, List.mem_cons] at h
    rcases h with h | rfl | h
    exacts [hbefore l h, hwhole, hafter l h]
  · intro l h
    simp only [List.cons_append, List.mem_append, List.mem_cons] at h
    rcases h with h | rfl | h | rfl | h
    · exact hbefore l h
    · simp [hopener, hf]
    · exact hm l h
    · simpa using hl last
    · exact hafter l h

/-- A text that is broken into parts is read like the text with spaces between them: the elements are the same and so
are the counts and the problems that are remarked on. No part but the last ends the text: the first one has no
terminator at its end, and none behind it a semicolon. Where a note is open, no part closes it. The activity at the
beginning of a loop is only broken where it is no statement but stands in a note or goes on with an activity. -/
theorem read_broken (o : ActivityOpener) {before parts after : List Text}
    (hlines : ∀ l ∈ before ++ (parts ++ after), '\n' ∉ l)
    (hfirst : ∀ first ∈ parts.head?, dropTerminator? first = none)
    (hmiddle : ∀ part ∈ parts.tail.dropLast, (trim part).getLast? ≠ some ';')
    (hnote : (FlowReader.start.run 1 before).inNote = true →
      ∀ part ∈ parts.tail.dropLast, FlowReader.closesNote part = false)
    (hrepeat : o = .repeatLoop → (FlowReader.start.run 1 before).Ready → parts.length ≤ 1) :
    let broken := read (o.source before (join "\n" parts) after)
    let whole := read (o.source before (join " " parts) after)
    broken.elements = whole.elements ∧ broken.activityCount = whole.activityCount ∧
      broken.decisionCount = whole.decisionCount ∧ broken.partitionCount = whole.partitionCount ∧
      broken.diagnostics.map Diagnostic.problem = whole.diagnostics.map Diagnostic.problem := by
  intro broken whole
  obtain ⟨r, r', hr, hbroken, hwhole⟩ : ∃ r r' : FlowReader, r.unnumbered = r'.unnumbered ∧
      broken = r.finish ∧ whole = r'.finish := by
    rcases parts with _ | ⟨first, _ | ⟨part, rest⟩⟩
    · exact ⟨_, _, rfl, rfl, rfl⟩
    · exact ⟨_, _, rfl, rfl, rfl⟩
    · have hrest := List.dropLast_append_getLast (List.cons_ne_nil part rest)
      rw [← hrest] at hlines
      have hparts := read_source_parts o hlines (hfirst first rfl) hmiddle hnote fun hr ho => by
        simpa using hrepeat ho hr
      rwa [hrest] at hparts
  obtain ⟨helements, hproblems⟩ := FlowReader.finish_eq_of_unnumbered hr
  rw [hbroken, hwhole]
  simp only [activityCount, activityTexts, decisionCount, partitionCount, helements, hproblems, and_self]

/-- On the way back of a loop, with markup that goes over two parts, a line that says something else elsewhere, and a
semicolon at the end of the text; and what would begin a loop, in a note. -/
theorem read_broken_backward_note :
    (read (ActivityOpener.backward.source ["repeat", ":x;"] (join "\n" ["try **again", " if (a) then", "b**;"])
      ["repeat while (c)"])).elements =
        [.repeatLoop "c" [.activity "x", .activity "try again if (a) then b;"]] ∧
      (read (ActivityOpener.repeatLoop.source ["note right"] (join "\n" ["a", "end", "b"])
        ["end note", ":c;"])).elements = [.activity "c"] :=
  ⟨(read_broken .backward (by decide) (by decide) (by decide) (by decide) nofun).1.trans rfl,
    (read_broken .repeatLoop (by decide) (by decide) (by decide) (by decide)
      fun _ h => absurd h.inNote (by decide)).1.trans rfl⟩

/-- The activity with which a loop begins does not go on over more lines: what of it stands on the first line is not
read, as if it were not there. -/
theorem read_repeat_unfinished {before after : List Text} {first : Text}
    (hlines : ∀ l ∈ before ++ first :: after, '\n' ∉ l) (hfirst : dropTerminator? first = none)
    (hready : (FlowReader.start.run 1 before).Ready) :
    read (join "\n" (before ++ (ActivityOpener.repeatLoop.text ++ first) :: after)) =
      read (join "\n" (before ++ ("repeat" : Text) :: after)) := by
  obtain ⟨hbefore, hrest⟩ := List.forall_mem_append.1 hlines
  obtain ⟨hf, hafter⟩ := List.forall_mem_cons.1 hrest
  have hread : FlowStatement.read (trim (ActivityOpener.repeatLoop.text ++ first)) = .openRepeat none := by
    rw [ActivityOpener.trim_text_append, ← hfirst, ← dropTerminator?_trimEnd first]
    exact read_repeat (trimEnd first)
  have hrepeat : FlowStatement.read (trim "repeat") = .openRepeat none := by decide
  have hopener := ActivityOpener.repeatLoop.noLineFeed
  have hne : ActivityOpener.repeatLoop.text ++ first ≠ [] := by
    intro he
    exact ActivityOpener.repeatLoop.text_ne_nil (List.append_eq_nil_iff.1 he).1
  have h := @read_between before [] after _ hne
    (List.forall_mem_append.2 ⟨hbefore, List.forall_mem_cons.2 ⟨by simp [hopener, hf], hafter⟩⟩)
  have h' := @read_between before [] after "repeat" (by decide)
    (List.forall_mem_append.2 ⟨hbefore, List.forall_mem_cons.2 ⟨by decide, hafter⟩⟩)
  rw [List.nil_append, List.nil_append] at h h'
  have hlength : (before ++ [ActivityOpener.repeatLoop.text ++ first]).length = (before ++ [("repeat" : Text)]).length := by
    simp only [List.length_append, List.length_singleton]
  rw [h, h', hlength, FlowReader.run_singleton, FlowReader.run_singleton, hready.step, hready.step, hread, hrepeat]

/-- A text in two parts at the beginning of a loop: the first part is lost and the second one says nothing, without a
remark on either; on one line both are the text of an activity. -/
theorem read_broken_repeat :
    dropTerminator? "a" = none ∧
      read (ActivityOpener.repeatLoop.source [] (join "\n" ["a", "b"]) ["repeat while (c)"]) =
        ⟨[.repeatLoop "c" []], []⟩ ∧
      read (ActivityOpener.repeatLoop.source [] (join " " ["a", "b"]) ["repeat while (c)"]) =
        ⟨[.repeatLoop "c" [.activity "a b"]], []⟩ :=
  ⟨by decide, rfl, rfl⟩

end ActivityDiagram

end DiagramProse
