import DiagramProse.Diagram.Json
import DiagramProse.Proofs.Kind.Places
import DiagramProse.Proofs.Text.LineEnds

/-!
The ends of lines make no difference to what is made of a source: with carriage returns in front of its line
feeds it has the same kind (`detect_withReturns`), the same diagram (`readSource_withReturns`), and so the same
description and the same JSON (`describe_crlf`).

Readers of diagrams take a source line by line, and so do the tests of `Kind/Detection` that look at lines. All
others seek texts without line ends or stop at blanks, and both kinds of line end are blank.
-/

namespace DiagramProse

open Text

variable {source : Text}

/-! ## Places -/

theorem afterLineFeeds_withReturns (s : Text) :
    afterLineFeeds (withReturns s) = (afterLineFeeds s).map withReturns := by
  induction s with
  | nil => rfl
  | cons c s ih =>
    by_cases hc : c = '\n'
    · subst hc
      simp [afterLineFeeds, ih]
    · rw [withReturns_cons hc, afterLineFeeds, afterLineFeeds, if_neg hc, if_neg hc, ih]

theorem lineBeginnings_withReturns (s : Text) :
    lineBeginnings (withReturns s) = (lineBeginnings s).map withReturns := by
  simp [lineBeginnings, afterLineFeeds_withReturns, trimStart_withReturns, Function.comp_def]

/-- A test at the beginnings of lines that the line ends behind them do not change. -/
theorem any_lineBeginnings_withReturns {f : Text → Bool} (hf : ∀ t, f (withReturns t) = f t) (s : Text) :
    (lineBeginnings (withReturns s)).any f = (lineBeginnings s).any f := by
  rw [lineBeginnings_withReturns, List.any_map]
  exact any_congr_of_mem fun t _ => hf t

theorem anySuffix_withReturns {f : Text → Bool} (hf : ∀ t, f (withReturns t) = f t)
    (hn : ∀ t, f ('\n' :: t) = false) (s : Text) : anySuffix f (withReturns s) = anySuffix f s := by
  induction s with
  | nil => rfl
  | cons c s ih =>
    have hhead := hf (c :: s)
    by_cases hc : c = '\n'
    · subst hc
      rw [withReturns_lineFeed] at hhead ⊢
      rw [anySuffix, anySuffix, anySuffix, hhead, hn, hn, ih, Bool.false_or]
    · rw [withReturns_cons hc] at hhead ⊢
      rw [anySuffix, anySuffix, hhead, ih]

/-! ## What stands at a place -/

theorem beginsC4Element_withReturns (s : Text) : beginsC4Element (withReturns s) = beginsC4Element s := by
  have hwords : ∀ word ∈ c4ElementWords, HasNoLineEnd word := by decide +kernel
  have hforms : ∀ form ∈ c4ElementForms, HasNoLineEnd form := by decide +kernel
  refine any_congr_of_mem fun word hw => ?_
  rw [dropPrefix?_withReturns (hwords word hw), Option.any_map]
  congr 1
  funext rest
  refine any_congr_of_mem fun form hf => ?_
  rw [dropPrefix?_withReturns (hforms form hf), Option.any_map]
  congr 1
  funext behind
  rw [trimStart_withReturns, startsWith_withReturns (by decide)]

theorem beginsRound_withReturns (s : Text) : beginsRound (withReturns s) = beginsRound s := by
  rw [beginsRound, beginsRound, dropPrefix?_withReturns (by decide)]
  cases dropPrefix? s ['('] with
  | none => rfl
  | some rest =>
    rw [Option.map_some, Option.bind_some, Option.bind_some, cutAt?_withReturns rfl rfl, Option.any_map]
    congr 1
    funext parts
    obtain ⟨inner, behind⟩ := parts
    dsimp only
    rw [isEmpty_withReturns]

theorem beginsSquare_withReturns (s : Text) : beginsSquare (withReturns s) = beginsSquare s := by
  rw [beginsSquare, beginsSquare, dropPrefix?_withReturns (by decide), Option.any_map]
  congr 1
  funext rest
  dsimp only
  rw [drop_takeWhile, drop_takeWhile, takeWhile_withReturns rfl, dropWhile_withReturns rfl,
    startsWith_withReturns (by decide), isEmpty_withReturns]

/-- A word with a blank behind it, which may be the end of the line. -/
theorem word_withReturns {p : Text} (hp : HasNoLineEnd p) (s : Text) :
    ((dropPrefix? (withReturns s) p).bind afterBlanks?).isSome = ((dropPrefix? s p).bind afterBlanks?).isSome := by
  rw [dropPrefix?_withReturns hp]
  cases dropPrefix? s p with
  | none => rfl
  | some rest => rw [Option.map_some, Option.bind_some, Option.bind_some, afterBlanks?_withReturns, Option.isSome_map]

theorem looksLikeUseCase_withReturns (s : Text) : looksLikeUseCase (withReturns s) = looksLikeUseCase s := by
  have harrow (t : Text) : (dropPrefix? (withReturns t) "->").any (fun rest => beginsRound rest.trimStart)
      = (dropPrefix? t "->").any fun rest => beginsRound rest.trimStart := by
    rw [dropPrefix?_withReturns (by decide +kernel), Option.any_map]
    congr 1
    funext rest
    rw [trimStart_withReturns, beginsRound_withReturns]
  rw [looksLikeUseCase, looksLikeUseCase, anySuffix_withReturns harrow fun _ => rfl,
    any_lineBeginnings_withReturns fun t => by rw [word_withReturns (by decide +kernel), beginsRound_withReturns]]

theorem looksLikeComponent_withReturns (s : Text) : looksLikeComponent (withReturns s) = looksLikeComponent s := by
  refine any_lineBeginnings_withReturns (fun t => ?_) s
  rw [beginsSquare_withReturns, word_withReturns (by decide +kernel)]

/-! ## The kind -/

theorem firstLine?_withReturns (h : '\r' ∉ source) : firstLine? (withReturns source) = firstLine? source := by
  rw [firstLine?, lines_withReturns h, firstLine?]

theorem looksLikeC4_withReturns (h : '\r' ∉ source) (lower : Text) :
    looksLikeC4 (withReturns source) (withReturns lower) = looksLikeC4 source lower := by
  have hmarkers : ∀ marker ∈ c4Markers, HasNoLineEnd marker := by decide +kernel
  rw [looksLikeC4, looksLikeC4, firstLine?_withReturns h, any_lineBeginnings_withReturns beginsC4Element_withReturns,
    any_congr_of_mem fun p hp => contains_withReturns (hmarkers p hp) lower]

theorem kindOfMarker?_withReturns (lower : Text) : kindOfMarker? (withReturns lower) = kindOfMarker? lower := by
  rw [kindOfMarker?, kindOfMarker?, cut?_withReturns (by decide +kernel)]
  cases cut? "@start" lower with
  | none => rfl
  | some parts =>
    obtain ⟨before, rest⟩ := parts
    -- A marker ends in front of either line end.
    have hmarker : '\n' ∉ rest.takeWhile Char.isAlphanum := not_mem_of_all List.all_takeWhile rfl
    simp only [Option.map_some, Option.bind_eq_bind, Option.bind_some, takeWhile_withReturns (f := Char.isAlphanum) rfl,
      withReturns_eq_self hmarker]

theorem kindOfLines_withReturns (h : '\r' ∉ source) (lower : Text) :
    kindOfLines (withReturns source) (withReturns lower) = kindOfLines source lower := by
  have hlines : tellingLines (withReturns source) = tellingLines source := by
    rw [tellingLines, lines_withReturns h, tellingLines]
  rw [kindOfLines, kindOfLines, hlines, contains_withReturns (by decide +kernel), looksLikeUseCase_withReturns,
    looksLikeComponent_withReturns]

theorem guess_withReturns (s : Text) : Dialect.guess (withReturns s) = Dialect.guess s := by
  rw [Dialect.guess, contains_withReturns (by decide +kernel), contains_withReturns (by decide +kernel), Dialect.guess]

theorem detect_withReturns (h : '\r' ∉ source) (hint : Option Text) (dialect : Option Dialect) :
    DiagramKind.detect (withReturns source) hint dialect = DiagramKind.detect source hint dialect := by
  have hheader : kindOfHeader? (withReturns source) = kindOfHeader? source := by
    rw [kindOfHeader?, firstLine?_withReturns h, kindOfHeader?]
  have hsource (d : Dialect) : kindOfSource (withReturns source) d = kindOfSource source d := by
    rw [kindOfSource, kindOfSource, lowerAscii_withReturns, looksLikeC4_withReturns h, hheader,
      kindOfMarker?_withReturns, kindOfLines_withReturns h]
  rw [DiagramKind.detect, DiagramKind.detect, guess_withReturns, hsource]

/-! ## The diagram -/

theorem read?_withReturns (h : '\r' ∉ source) (kind : DiagramKind) (dialect : Dialect) :
    Diagram.read? kind dialect (withReturns source) = Diagram.read? kind dialect source := by
  have hl := lines_withReturns h
  cases kind <;>
    simp only [Diagram.read?, ClassDiagram.read, SequenceDiagram.read, ActivityDiagram.read, StateDiagram.read,
      C4Diagram.read, PieChart.read, hl]

theorem readSource_withReturns (h : '\r' ∉ source) (hint : Option Text) (dialect : Option Dialect) :
    readSource (withReturns source) hint dialect = readSource source hint dialect := by
  simp only [readSource, allBlank_withReturns, guess_withReturns, detect_withReturns h, read?_withReturns h]

/-- A source without carriage returns gets the same description and the same JSON if each of its line feeds becomes
a carriage return and a line feed. -/
theorem describe_crlf (h : '\r' ∉ source) (hint : Option Text) (dialect : Option Dialect) (locale : Text) :
    tryDescribe (replace "\n" "\r\n" source) hint dialect locale = tryDescribe source hint dialect locale
      ∧ sourceJson (replace "\n" "\r\n" source) hint dialect = sourceJson source hint dialect := by
  rw [replace_lineFeeds, tryDescribe, sourceJson, readSource_withReturns h, tryDescribe, sourceJson]
  exact ⟨rfl, rfl⟩

theorem describe_crlf_useCase : '\r' ∉ ("(Buy\nbread)\nA -> (Pay)" : Text)
    ∧ tryDescribe (replace "\n" "\r\n" "(Buy\nbread)\nA -> (Pay)") none (some .plantUml) "nl"
      = tryDescribe "(Buy\nbread)\nA -> (Pay)" none (some .plantUml) "nl"
    ∧ sourceJson (replace "\n" "\r\n" "(Buy\nbread)\nA -> (Pay)") none (some .plantUml)
      = sourceJson "(Buy\nbread)\nA -> (Pay)" none (some .plantUml) :=
  ⟨by decide +kernel, describe_crlf (by decide +kernel) none (some .plantUml) "nl"⟩

end DiagramProse
