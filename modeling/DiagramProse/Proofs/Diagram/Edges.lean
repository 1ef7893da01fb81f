import DiagramProse.Proofs.ClassDiagram.Statements
import DiagramProse.Proofs.Diagram.EdgeLines
import DiagramProse.Proofs.SequenceDiagram.Declarations
import DiagramProse.Proofs.SequenceDiagram.Participants
import DiagramProse.Proofs.StateDiagram.Transitions

/-!
An edge `A --> B` says the same in diagrams of classes, states and messages: `read_edge` gives the words that keep a
reader from it, and `read?_labelled` what becomes of its label.
-/

namespace DiagramProse

open Text

variable {a b : Text}

/-! ## Relations between classes -/

/-- The prefixes of directives. -/
def classPrefixes : List Text := [
  "@", "!", "classDiagram", "direction", "hide ", "show ", "skinparam", "style ", "title ", "left to right",
  "top to bottom", "classDef ", "cssClass ", "click ", "link ", "callback ", "set ", "scale ", "caption "]

/-- The words of directives, and that of notes. -/
def classSkipWords : SkipWords where
  words := ["hide", "show", "style", "title", "classDef", "cssClass", "click", "link", "callback", "set", "scale",
    "caption", "note"]
  beginnings := ["@", "!", "classDiagram", "direction", "skinparam"]

theorem classSkipWords_hides (ha : isPlainName a = true) :
    classSkipWords.hides a = (isClassDirective (edgeLine a b) || startsWith (edgeLine a b) "note ") :=
  hides_edge ha (by decide : ∀ p ∈ classPrefixes ++ [("note " : Text)], seeksDash p = false) (by decide)

/-- The word `note` may be there, but no class behind it. -/
theorem readClassNote?_edge (ha : isPlainName a = true) : readClassNote? (edgeLine a b) = none := by
  rw [edgeLine, readClassNote?, dropPrefix?_append_cons (by decide)]
  cases hnote : dropPrefix? a "note" with
  | none => rfl
  | some u =>
    cases u with
    | nil => rfl
    | cons c u =>
      have hc : isBlank c = false := not_blank_of_isPlainName ha c (by simp [dropPrefix?_eq_some_iff.1 hnote])
      simp [afterBlanks?, hc]

/-- No brace opens a group. -/
theorem readGroup?_edge (ha : isPlainName a = true) (hb : isPlainName b = true) :
    readGroup? (edgeLine a b) = none := by
  rw [readGroup?]
  cases hfind : List.findSome? (dropPrefix? (edgeLine a b)) ["package ", "namespace ", "together"] with
  | none => rfl
  | some rest =>
    obtain ⟨p, -, hp⟩ := List.exists_of_findSome?_eq_some hfind
    have hbrace : '\x7b' ∉ p ++ rest :=
      dropPrefix?_eq_some_iff.1 hp ▸ not_mem_edgeLine ha hb (by decide) (by decide)
    have hrest : '\x7b' ∉ trim rest := fun hm => hbrace (List.mem_append_right p (trim_subset rest hm))
    simp [dropSuffix?_of_not_mem hrest]

/-- The keyword of a declaration is the whole name in front of the arrow. -/
theorem classKeyword_rest (ha : ' ' ∉ a) {e : Text × Option Stereotype} {rest : Text} (he : e ∈ classKeywords)
    (h : dropPrefix? (edgeLine a b) e.1 = some rest) : rest = arrowTo b := by
  -- all keywords have a space, and none goes on behind it with a dash
  have hwords : ∀ e ∈ classKeywords,
      (cutAt? (· == ' ') e.1).any (fun split => split.2.head? != some '-') = true := by
    decide
  obtain ⟨⟨w, q⟩, hcut, hq⟩ := (Option.any_eq_true _ _).1 (hwords e he)
  obtain ⟨hkeyword, hw⟩ := cutAt?_char_eq_some hcut
  rw [hkeyword, edgeLine, dropPrefix?_words ha hw] at h
  split at h
  · cases q with
    | nil => exact (Option.some.inj h).symm
    | cons c q =>
      have hc : '-' ≠ c := by
        rintro rfl
        simp at hq
      rw [arrowTo, dropPrefix?, if_neg hc] at h
      cases h
  · cases h

theorem splitBody_arrowTo (hb : isPlainName b = true) : splitBody (arrowTo b) = (arrowTo b, false, []) := by
  have hopen : '\x7b' ∉ arrowTo b := not_mem_arrowTo hb (by decide) (by decide)
  have hclose : '\x7d' ∉ arrowTo b := not_mem_arrowTo hb (by decide) (by decide)
  rw [splitBody, dropSuffix?_of_not_mem hopen, dropSuffix?_of_not_mem hclose]
  rfl

theorem splitName?_arrowTo (hb : isPlainName b = true) : splitName? (arrowTo b) = some (['-', '-', '>'], b) := by
  have hafter : skipGeneric (' ' :: b) = b :=
    (trim_space_cons b).trans (trim_eq_self (tight_of_not_blank (not_blank_of_isPlainName hb)))
  exact congrArg (fun after => some (['-', '-', '>'], after)) hafter

theorem readClauses_word (w : Text) : readClauses none [w] = (none, []) := by
  unfold readClauses
  split_ifs
  all_goals simp [readClauses]

/-- An arrow is no name, so no class is declared. -/
theorem ClassDeclaration.read?_edge (ha : isPlainName a = true) (hb : isPlainName b = true) :
    ClassDeclaration.read? (edgeLine a b) = none := by
  have hspace : ' ' ∉ a := not_mem_of_isPlainName ha (by decide)
  have hangle : '<' ∉ arrowTo b := not_mem_arrowTo hb (by decide) (by decide)
  have hcolons : upTo ":::" (arrowTo b) = arrowTo b :=
    upTo_of_not_contains (not_contains (d := ':') (by decide) (not_mem_arrowTo hb (by decide) (by decide)))
  have hbracket : upTo ['['] (arrowTo b) = arrowTo b :=
    upTo_of_not_contains (not_contains (d := '[') (by decide) (not_mem_arrowTo hb (by decide) (by decide)))
  have hwords : words b = [b] := words_of_forall (ne_nil_of_isPlainName hb) (not_blank_of_isPlainName hb)
  rw [ClassDeclaration.read?]
  cases hfind : classKeywords.findSome? _ with
  | none => rfl
  | some found =>
    -- the word is a keyword, and the arrow would be the name of the class
    obtain ⟨e, he, hmap⟩ := List.exists_of_findSome?_eq_some hfind
    obtain ⟨rest, hrest, rfl⟩ := Option.map_eq_some_iff.1 hmap
    obtain rfl := classKeyword_rest hspace he hrest
    simp only [Option.bind_eq_bind, Option.bind_some, trim_eq_self (tight_arrowTo hb), splitBody_arrowTo hb,
      splitStereotype_of_not_mem hangle, hcolons, hbracket, splitName?_arrowTo hb, hwords, readClauses_word]
    rfl

/-- The relation of an edge. -/
def Relation.edge (a b : Text) : Relation := ⟨a, b, .association, none, none, none, false⟩

theorem Relation.read?_edge (ha : isPlainName a = true) (hb : isPlainName b = true) :
    Relation.read? (edgeLine a b) = some (.edge a b) := by
  have harrow : (['-', '-', '>'], ⟨.association, false⟩) ∈ classArrows := by decide
  have hline : edgeLine a b = relationText a none ['-', '-', '>'] none b none := by
    simp [relationText, leftEnd, rightEnd, withColon, edgeLine, arrowTo]
  rw [hline]
  exact Relation.read?_text harrow ⟨ha, rfl⟩ ⟨hb, rfl⟩ (by simp)

theorem ClassStatement.read_edgeLine (ha : isPlainName a = true) (hb : isPlainName b = true) :
    ClassStatement.read (edgeLine a b) =
      if startsWith (edgeLine a b) "note " then .other else .relation (.edge a b) := by
  have h := edgeText ha hb
  have hmarking : readMarking? (edgeLine a b) = none := by
    rw [readMarking?]
    simp [h.dropPrefix?_sign (d := '<') (by decide)]
  rw [ClassStatement.read, readClassNote?_edge ha, readGroup?_edge ha hb, ClassDeclaration.read?_edge ha hb, hmarking,
    Relation.read?_edge ha hb]
  cases startsWith (edgeLine a b) "note " <;> rfl

/-- An edge is read as a relation if its first name is not taken for something else. -/
theorem ClassDiagram.relations_edge (dialect : Dialect) (ha : isPlainName a = true) (hb : isPlainName b = true) :
    (ClassDiagram.read dialect (edgeLine a b)).relations = if classSkipWords.hides a then [] else [.edge a b] := by
  have h := edgeText ha hb
  have hstep : ClassReader.start.step dialect 1 (edgeLine a b) =
      if isClassDirective (edgeLine a b) then .start
      else ClassReader.start.apply dialect 1 (.read (edgeLine a b)) := by
    have hbrace : startsWith (edgeLine a b) ['\x7d'] = false := h.startsWith_sign (by decide) []
    rw [ClassReader.step, h.trim, h.isEmpty_eq_false, h.not_comment, hbrace]
    cases isClassDirective (edgeLine a b) <;> rfl
  have hrun : ClassDiagram.read dialect (edgeLine a b) =
      (ClassReader.start.step dialect 1 (edgeLine a b)).finish 1 := by
    rw [ClassDiagram.read, h.lines]
    rfl
  rw [hrun, hstep, ClassStatement.read_edgeLine ha hb, classSkipWords_hides (b := b) ha]
  cases isClassDirective (edgeLine a b) <;> cases startsWith (edgeLine a b) "note " <;> rfl

/-! ## Transitions between states -/

/-- The prefixes of directives. -/
def statePrefixes : List Text := [
  "@", "!", "hide ", "skinparam", "title ", "stateDiagram", "direction ", "scale ", "header", "footer", "caption ",
  "classDef ", "class ", "style "]

/-- The words of directives, and that of notes. -/
def stateSkipWords : SkipWords where
  words := ["hide", "title", "direction", "scale", "caption", "classDef", "class", "style", "note"]
  beginnings := ["@", "!", "skinparam", "stateDiagram", "header", "footer"]

theorem stateSkipWords_hides (ha : isPlainName a = true) (h : EdgeText a b) :
    stateSkipWords.hides a = (isStateDirective (edgeLine a b) || startsWith (edgeLine a b) "note ") := by
  have hdashes : edgeLine a b ≠ "--" := h.ne_sign (by decide) ['-']
  have hbars : edgeLine a b ≠ "||" := h.ne_sign (by decide) ['|']
  have hdirective : isStateDirective (edgeLine a b) = startsWithAny (edgeLine a b) statePrefixes := by
    rw [isStateDirective, decide_eq_false hdashes, decide_eq_false hbars]
    rfl
  rw [hdirective]
  exact hides_edge ha (by decide) (by decide)

theorem Transition.read?_edge (ha : isPlainName a = true) (hb : isPlainName b = true) :
    Transition.read? (edgeLine a b) = some ⟨a, b, none⟩ := by
  have harrow : (['-', '-', '>'], ()) ∈ stateArrows := by decide
  have hline : edgeLine a b = withColon (a ++ " " ++ ['-', '-', '>'] ++ " " ++ b) none := by
    simp [withColon, edgeLine, arrowTo]
  rw [hline]
  exact Transition.read?_text harrow ha hb (by simp)

/-- An edge is read as a transition if its first name is not taken for something else. -/
theorem StateDiagram.transitions_edge (ha : isPlainName a = true) (hb : isPlainName b = true) :
    (StateDiagram.read (edgeLine a b)).transitions = if stateSkipWords.hides a then [] else [⟨a, b, none⟩] := by
  have h := edgeText ha hb
  have hbrace : edgeLine a b ≠ ['\x7d'] := h.ne_sign (by decide) []
  have hpseudo : ∀ n, isPlainName n = true → n ≠ pseudoState := by
    rintro n hn rfl
    exact absurd hn (by decide)
  have hread : StateDiagram.read (edgeLine a b) = (StateReader.start.apply (.read (edgeLine a b))).diagram := by
    rw [StateDiagram.read, h.lines, StateDiagram.ofLines, List.foldl_cons, List.foldl_nil, StateReader.step, h.trim]
    rfl
  rw [hread, StateStatement.read, h.isEmpty_eq_false, h.not_comment, if_neg hbrace, Transition.read?_edge ha hb,
    stateSkipWords_hides ha h]
  have hadd : (StateDiagram.empty.addTransition true ⟨a, b, none⟩).transitions = [⟨a, b, none⟩] := by
    rw [StateDiagram.addTransition, if_neg (hpseudo a ha), if_neg (hpseudo b hb)]
    rfl
  cases isStateDirective (edgeLine a b) <;> cases startsWith (edgeLine a b) "note "
  exacts [hadd, rfl, rfl, rfl]

/-! ## Messages between participants -/

/-- The words of declarations, and the beginning of the words that number the messages. -/
def sequenceSkipWords : SkipWords where
  words := participantKeywords
  beginnings := ["autonumber"]

/-- The words of notes, in lower case. -/
def noteSkipWords : SkipWords where
  words := ["note", "hnote", "rnote"]
  beginnings := []

theorem dropDecorations_arrowTo (hb : isPlainName b = true) : dropDecorations (arrowTo b) = arrowTo b := by
  have hmarks : ∀ m ∈ decorations, m ≠ [] ∧ '>' ∉ m ∧ cut? m ['-', '-'] = none := by decide
  refine dropDecorations_eq_self (tight_arrowTo hb) fun m hm => ?_
  obtain ⟨hne, hangle, hdashes⟩ := hmarks m hm
  have hsplit := cut?_append_cons hne hangle ['-', '-'] (' ' :: b)
  rwa [hdashes, cut?_space_name hm hb] at hsplit

/-- A keyword in front of the arrow declares a participant, with the arrow as its name. -/
theorem Participant.isSome_read?_edge (dialect : Dialect) (ha : isPlainName a = true) (hb : isPlainName b = true) :
    (Participant.read? dialect (edgeLine a b)).isSome = participantKeywords.contains a := by
  have hdeclared : ∀ isActor, (Participant.ofDeclaration? dialect (arrowTo b) isActor).isSome = true := by
    intro isActor
    rw [arrowTo, Participant.ofDeclaration?]
    · cases cut? " as " ('-' :: '-' :: '>' :: ' ' :: b) <;> rfl
    all_goals simp
  rw [edgeLine, Participant.read?, cutAt?_append (not_blank_of_isPlainName ha) rfl]
  simp only [Option.bind_eq_bind, Option.bind_some, trim_eq_self (tight_arrowTo hb), dropDecorations_arrowTo hb]
  cases participantKeywords.contains a with
  | false => rfl
  | true => exact hdeclared _

theorem Message.read?_edge (ha : isPlainName a = true) (hb : isPlainName b = true) :
    Message.read? (edgeLine a b) = some ⟨a, b, [], .response, false, false⟩ := by
  let ends : MessageEnds := {
    left := a, spacesBefore := 1, token := ['-', '-', '>'], sense := ⟨.response, false⟩, spacesAfter := 1, sign := [],
    right := b, token_mem := by decide, sign_mem := by decide, left_isEndName := isHyphenatedName_of_isPlainName ha,
    right_isEndName := isHyphenatedName_of_isPlainName hb }
  have hline : edgeLine a b = ends.front := by simp [edgeLine, arrowTo, ends, MessageEnds.front]
  rw [hline, ends.read?_front_nil]
  rfl

/-- Words in lower case have no other spaces. -/
theorem noteSkipWords_hides (ha : isPlainName a = true) :
    startsWithAny (edgeLine a b).lowerAscii ["note ", "hnote ", "rnote "] = noteSkipWords.hides a.lowerAscii := by
  have hdash : ∀ p ∈ [("note " : Text), "hnote ", "rnote "], seeksDash p = false := by decide
  have hwords : SkipWords.ofTable ["note ", "hnote ", "rnote "] = noteSkipWords := by decide
  have hspace : ' ' ∉ a.lowerAscii := by
    intro hm
    obtain ⟨c, hc, hlower⟩ := List.mem_map.1 hm
    exact not_mem_of_isPlainName ha (by decide) ((toLower_eq_iff (by decide)).1 hlower ▸ hc)
  rw [edgeLine, lowerAscii, List.map_append, ← hwords]
  exact startsWithAny_edge hspace hdash

/-- An edge is read as a message if its first name is not taken for something else. -/
theorem SequenceDiagram.messages_edge (dialect : Dialect) (ha : isPlainName a = true) (hb : isPlainName b = true) :
    (SequenceDiagram.read dialect (edgeLine a b)).messages =
      if sequenceSkipWords.hides a || noteSkipWords.hides a.lowerAscii then []
      else [⟨a, b, [], .response, false, false⟩] := by
  have h := edgeText ha hb
  have hauto : startsWith (edgeLine a b) "autonumber" = startsWith a "autonumber" :=
    startsWith_append_cons (by decide) _ _
  have hwords : sequenceSkipWords.hides a = ((Participant.read? dialect (edgeLine a b)).isSome ||
      startsWith (edgeLine a b) "autonumber") := by
    rw [Participant.isSome_read?_edge dialect ha hb, hauto, SkipWords.hides, sequenceSkipWords, List.any_cons,
      List.any_nil, Bool.or_false]
  have hread : SequenceDiagram.read dialect (edgeLine a b) =
      (SequenceReader.start.apply (.read dialect (edgeLine a b))).diagram := by
    rw [SequenceDiagram.read, h.lines, SequenceDiagram.ofLines, List.foldl_cons, List.foldl_nil, SequenceReader.step,
      h.trim]
    rfl
  rw [hread, SequenceStatement.read, h.isEmpty_eq_false, h.not_comment, noteSkipWords_hides ha,
    Message.read?_edge ha hb, hwords]
  cases startsWith (edgeLine a b) "autonumber" with
  | true => rw [Bool.or_true]; rfl
  | false =>
    cases noteSkipWords.hides a.lowerAscii with
    | true => rw [Bool.or_true]; rfl
    | false =>
      cases Participant.read? dialect (edgeLine a b) with
      | some p => rfl
      | none => exact SequenceDiagram.messages_hear_message .empty _

/-! ## Edges in all three notations -/

/-- An edge between two names that is a whole source is one relation between classes, one transition between states
and one message between participants, unless its first name is a word of another line. For some of these words it
suffices that the name begins with them. -/
theorem read_edge (dialect : Dialect) (ha : isPlainName a = true) (hb : isPlainName b = true) :
    (ClassDiagram.read dialect (a ++ " --> " ++ b)).relations =
        (if classSkipWords.hides a then [] else [⟨a, b, .association, none, none, none, false⟩]) ∧
      (StateDiagram.read (a ++ " --> " ++ b)).transitions =
        (if stateSkipWords.hides a then [] else [⟨a, b, none⟩]) ∧
      (SequenceDiagram.read dialect (a ++ " --> " ++ b)).messages =
        if sequenceSkipWords.hides a || noteSkipWords.hides a.lowerAscii then []
        else [⟨a, b, [], .response, false, false⟩] := by
  rw [edgeLine_eq]
  exact ⟨ClassDiagram.relations_edge dialect ha hb, StateDiagram.transitions_edge ha hb,
    SequenceDiagram.messages_edge dialect ha hb⟩

/-- A name that begins with a whole word hides nothing. -/
theorem read_edge_titled :
    (ClassDiagram.read .mermaid "titled --> B").relations = [⟨"titled", "B", .association, none, none, none, false⟩] ∧
      (StateDiagram.read "titled --> B").transitions = [⟨"titled", "B", none⟩] ∧
      (SequenceDiagram.read .mermaid "titled --> B").messages =
        [⟨"titled", "B", [], .response, false, false⟩] :=
  read_edge .mermaid (by decide +kernel : isPlainName "titled" = true) (by decide +kernel : isPlainName "B" = true)

/-- Not all words are sought with a space behind them. -/
theorem read_edge_hidden :
    (ClassDiagram.read .plantUml "directions --> B").relations = [] ∧
      (StateDiagram.read "headers --> B").transitions = [] ∧
      (SequenceDiagram.read .plantUml "autonumbers --> B").messages = [] := by
  decide +kernel

/-! ## Labels -/

/-- A label is read less the hints between two of its dashes and dots. One that holds no such hint is read as it is. -/
theorem read?_labelled {label : Text} (ha : isPlainName a = true) (hb : isPlainName b = true) (hl : FreeLabel label) :
    Relation.read? (a ++ " --> " ++ b ++ " : " ++ label) =
        some ⟨a, b, .association, some (Arrow.withoutHints label), none, none, false⟩ ∧
      Transition.read? (a ++ " --> " ++ b ++ " : " ++ label) = some ⟨a, b, some (Arrow.withoutHints label)⟩ ∧
      Arrow.LosesHints label (Arrow.withoutHints label) ∧
      (¬ Arrow.HoldsHint label → Arrow.withoutHints label = label) := by
  have hlabel : ∀ t ∈ some label, FreeLabel t := by
    intro t ht
    cases ht
    exact hl
  have hloses := Arrow.withoutHints_loses label
  refine ⟨?_, ?_, hloses, hloses.eq_self⟩
  · have harrow : (['-', '-', '>'], ⟨.association, false⟩) ∈ classArrows := by decide
    have hread := Relation.read?_text harrow (⟨ha, rfl⟩ : EndTexts a none) (⟨hb, rfl⟩ : EndTexts b none) hlabel
    have hline : relationText a none ['-', '-', '>'] none b (some label) = a ++ " --> " ++ b ++ " : " ++ label := by
      simp [relationText, leftEnd, rightEnd, withColon]
    rwa [hline] at hread
  · have harrow : (['-', '-', '>'], ()) ∈ stateArrows := by decide
    have hread := Transition.read?_text harrow ha hb hlabel
    have hline : withColon (a ++ " " ++ ['-', '-', '>'] ++ " " ++ b) (some label) =
        a ++ " --> " ++ b ++ " : " ++ label := by
      simp [withColon]
    rwa [hline] at hread

theorem read?_labelled_closeUp :
    Relation.read? "A --> B : a close-up: 1..n" =
        some ⟨"A", "B", .association, some "a close-up: 1..n", none, none, false⟩ ∧
      Transition.read? "A --> B : a close-up: 1..n" = some ⟨"A", "B", some "a close-up: 1..n"⟩ :=
  have h := read?_labelled (by decide +kernel : isPlainName "A" = true) (by decide +kernel : isPlainName "B" = true)
    (⟨by decide, by decide, by decide, by decide, by decide⟩ : FreeLabel "a close-up: 1..n")
  ⟨h.1, h.2.1⟩

/-- The word between the hyphens is taken for the direction of an arrow. -/
theorem read?_hinted :
    Relation.read? "A --> B : sign-up-form" =
        some ⟨"A", "B", .association, some "sign--form", none, none, false⟩ ∧
      Transition.read? "A --> B : sign-up-form" = some ⟨"A", "B", some "sign--form"⟩ := by
  decide +kernel

end DiagramProse
