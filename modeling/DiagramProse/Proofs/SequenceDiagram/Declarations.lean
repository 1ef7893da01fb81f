import DiagramProse.Proofs.SequenceDiagram.Messages
import DiagramProse.SequenceDiagram.Reading

/-!
Participants that are declared with a quoted name and an id behind it (`SequenceReader.step_quoted`). What may
stand at the end of a declaration is cut off without a look at the quotes: a name in which it occurs is cut in two,
and the declaration is lost.
-/

namespace DiagramProse

open Text

/-! ## Declarations without colour, stereotype and order -/

/-- What the colour, the stereotype and the order of a participant begin with. -/
def decorations : List Text := [" #", " <<", " order "]

theorem le_foldl_min {k n : Nat} {ms : List Nat} : k ≤ ms.foldl min n ↔ k ≤ n ∧ ∀ m ∈ ms, k ≤ m := by
  induction ms generalizing n with
  | nil => simp
  | cons m ms ih => rw [List.foldl_cons, ih, Nat.le_min, List.forall_mem_cons, and_assoc]

/-- A quoted name with an id behind it. -/
def quotedDeclaration (display id : Text) : Text := '"' :: (display ++ '"' :: (" as " ++ id))

variable {display id keyword marker : Text}

theorem tight_quotedDeclaration (hid : isPlainName id = true) : Tight (quotedDeclaration display id) := by
  have htight := tight_append (m := display ++ "\" as ") (by decide : Tight ['"'])
    (tight_of_not_blank (not_blank_of_isPlainName hid)) (by decide) (ne_nil_of_isPlainName hid)
  simpa [quotedDeclaration] using htight

theorem cut?_space_name (hm : marker ∈ decorations) (hid : isPlainName id = true) :
    cut? marker (' ' :: id) = none := by
  have hmarks : ∀ m ∈ decorations, ' ' ∈ m ∧ m.tail.any (fun c => !isNameChar c) = true := by decide
  obtain ⟨hspace, hsign⟩ := hmarks _ hm
  obtain ⟨d, hd, hchar⟩ := List.any_eq_true.1 hsign
  have hbehind : cut? marker id = none := cut?_eq_none hspace (not_mem_of_isPlainName hid (by decide))
  have hhere : dropPrefix? (' ' :: id) marker = none := by
    by_contra hsome
    obtain ⟨rest, hrest⟩ := Option.ne_none_iff_exists'.1 hsome
    have htail := congrArg List.tail (dropPrefix?_eq_some_iff.1 hrest)
    rw [List.tail_cons, List.tail_append_of_ne_nil (List.ne_nil_of_mem hspace)] at htail
    have hname := isNameChar_of_isPlainName hid d (by rw [htail]; exact List.mem_append_left _ hd)
    rw [hname] at hchar
    cases hchar
  rw [cut?, hhere, hbehind]
  rfl

/-- A decoration is found in the name and nowhere else. -/
theorem cut?_decoration (hm : marker ∈ decorations) (hid : isPlainName id = true) :
    cut? marker (quotedDeclaration display id) =
      (cut? marker display).map fun (a, b) => ('"' :: a, b ++ '"' :: (" as " ++ id)) := by
  have hmarks : ∀ m ∈ decorations, m ≠ [] ∧ '"' ∉ m ∧ 's' ∉ m ∧ cut? m [] = none ∧ cut? m " a" = none := by decide
  obtain ⟨hne, hquote, hs, hempty, hword⟩ := hmarks _ hm
  -- no decoration holds a quote or an `s`, so none goes over the quotes or over the `s` of `as`
  have hid' : cut? marker (" as " ++ id) = none := by
    have hsplit := cut?_append_cons hne hs " a" (' ' :: id)
    rwa [hword, cut?_space_name hm hid] at hsplit
  have hfront := cut?_append_cons hne hquote [] (display ++ '"' :: (" as " ++ id))
  rw [hempty, List.nil_append, cut?_append_cons hne hquote display, hid'] at hfront
  rw [quotedDeclaration, hfront]
  cases cut? marker display <;> rfl

/-- The places at which decorations begin. -/
def decorationPlaces (s : Text) : List Nat :=
  decorations.filterMap fun marker => (cut? marker s).map fun (before, _) => before.length

theorem dropDecorations_eq (s : Text) : dropDecorations s = trim (s.take ((decorationPlaces s).foldl min s.length)) :=
  rfl

/-- A text without decorations stays as it is. -/
theorem dropDecorations_eq_self {s : Text} (ht : Tight s) (h : ∀ m ∈ decorations, cut? m s = none) :
    dropDecorations s = s := by
  have hnone : decorationPlaces s = [] := List.filterMap_eq_nil_iff.2 fun m hm => by rw [h m hm]; rfl
  rw [dropDecorations_eq, hnone, List.foldl_nil, List.take_length, trim_eq_self ht]

theorem dropDecorations_quoted (hid : isPlainName id = true) (h : decorations.any display.contains = false) :
    dropDecorations (quotedDeclaration display id) = quotedDeclaration display id := by
  refine dropDecorations_eq_self (tight_quotedDeclaration hid) fun m hm => ?_
  have hm' := List.any_eq_false.1 h m hm
  rw [contains, Bool.not_eq_true, Option.isSome_eq_false_iff, Option.isNone_iff_eq_none] at hm'
  rw [cut?_decoration hm hid, hm', Option.map_none]

theorem decorationPlaces_quoted (hid : isPlainName id = true) :
    decorationPlaces (quotedDeclaration display id) = (decorationPlaces display).map (· + 1) := by
  rw [decorationPlaces, decorationPlaces, List.map_filterMap]
  refine List.filterMap_congr fun m hm => ?_
  rw [cut?_decoration hm hid]
  cases cut? m display <;> rfl

/-- A name with a decoration in it is not closed behind what is left of it. -/
theorem dropDecorations_decorated (hid : isPlainName id = true) (hquote : '"' ∉ display)
    (h : decorations.any display.contains = true) :
    ∃ rest, dropDecorations (quotedDeclaration display id) = '"' :: rest ∧ '"' ∉ rest := by
  obtain ⟨place, hplace, hle⟩ : ∃ place ∈ decorationPlaces display, place ≤ display.length := by
    obtain ⟨m, hm, hcontains⟩ := List.any_eq_true.1 h
    obtain ⟨⟨a, b⟩, hcut⟩ := Option.isSome_iff_exists.1 hcontains
    refine ⟨a.length, List.mem_filterMap.2 ⟨m, hm, by rw [hcut]; rfl⟩, ?_⟩
    rw [cut?_eq_some hcut, List.append_assoc, List.length_append]
    omega
  -- the cut is behind the quote in front, and not behind the name
  obtain ⟨n, hn, hn'⟩ : ∃ n ≤ display.length,
      dropDecorations (quotedDeclaration display id) = trim ((quotedDeclaration display id).take (n + 1)) := by
    rw [dropDecorations_eq, decorationPlaces_quoted hid]
    generalize hcut : ((decorationPlaces display).map (· + 1)).foldl min _ = cut
    have hpos : 1 ≤ cut := by
      refine hcut ▸ le_foldl_min.2 ⟨Nat.succ_pos _, fun m hm => ?_⟩
      obtain ⟨k, -, rfl⟩ := List.mem_map.1 hm
      exact Nat.succ_pos k
    have hupper : cut ≤ place + 1 := (le_foldl_min.1 hcut.ge).2 _ (List.mem_map_of_mem hplace)
    refine ⟨cut - 1, by omega, ?_⟩
    rw [Nat.sub_add_cancel hpos]
  have htake : (quotedDeclaration display id).take (n + 1) = ['"'] ++ display.take n := by
    rw [quotedDeclaration, List.take_succ_cons, List.take_append_of_le_length hn]
    rfl
  rw [hn', htake, trim_append (by decide) (by decide)]
  have hend : trimEnd (display.take n) <+: display.take n := dropEndWhile_prefix isBlank _
  exact ⟨_, rfl, fun hm => hquote (List.mem_of_mem_take (hend.subset hm))⟩

/-! ## Declarations that are read -/

theorem splitOn_of_not_mem {c : Char} {p s : Text} (h : c ∉ s) : splitOn (c :: p) s = [s] := by
  unfold splitOn
  induction s with
  | nil => rfl
  | cons d s ih =>
    rw [List.mem_cons, not_or] at h
    have hprefix : (c :: p).isPrefixOf (d :: s) = false := by simp [List.isPrefixOf_cons_cons, h.1]
    rw [splitOn.go, hprefix, ih h.2]
    rfl

/-- A name that can stand in quotes: trimmed, not empty, and without quotes and backslashes. -/
structure DisplayText (s : Text) : Prop where
  ne_nil : s ≠ []
  tight : Tight s
  noQuote : '"' ∉ s
  noBackslash : '\\' ∉ s

theorem splitDisplay_eq (h : DisplayText display) (id : Text) : splitDisplay display id = (display, none) := by
  have hsplit : splitOn "\\n" display = [display] := splitOn_of_not_mem h.noBackslash
  rw [splitDisplay, hsplit]
  simp [trim_eq_self h.tight, h.ne_nil, join]

/-- A quoted name with an id behind it is read if there is no decoration in the name. -/
theorem ofDeclaration?_quoted (dialect : Dialect) (hid : isPlainName id = true) (h : DisplayText display)
    (isActor : Bool) :
    Participant.ofDeclaration? dialect (dropDecorations (quotedDeclaration display id)) isActor =
      if decorations.any display.contains then none else some ⟨id, display, none, isActor⟩ := by
  cases hany : decorations.any display.contains with
  | true =>
    obtain ⟨rest, hdrop, hrest⟩ := dropDecorations_decorated hid h.noQuote hany
    rw [hdrop, if_pos rfl, Participant.ofDeclaration?, Participant.ofQuoted?, cutAt?_char_eq_none hrest]
    rfl
  | false =>
    have hcut : cutAt? (· == '"') (display ++ '"' :: (" as " ++ id)) = some (display, " as " ++ id) :=
      cutAt?_char_append h.noQuote _
    have htight : Tight ("as " ++ id) := by
      have := tight_append (m := [' ']) (by decide : Tight "as") (tight_of_not_blank (not_blank_of_isPlainName hid))
        (by decide) (ne_nil_of_isPlainName hid)
      simpa using this
    have hafter : trim (" as " ++ id) = "as " ++ id := (trim_space_cons _).trans (trim_eq_self htight)
    have hunquote : unquote (' ' :: id) = id :=
      unquote_of_not_mem (tight_of_not_blank (not_blank_of_isPlainName hid)) (not_mem_of_isPlainName hid (by decide))
    have hempty : id.isEmpty = false := by simpa using ne_nil_of_isPlainName hid
    have hdrop : dropPrefix? ("as " ++ id) "as" = some (' ' :: id) := dropPrefix?_append "as" (' ' :: id)
    rw [dropDecorations_quoted hid hany, quotedDeclaration, Participant.ofDeclaration?, Participant.ofQuoted?, hcut]
    simp only [Option.map_some, hafter, hdrop, Option.bind_some, hunquote, nonempty?, hempty, Bool.false_eq_true,
      if_false, Option.getD_some, Participant.ofDisplay, splitDisplay_eq h]

theorem Participant.read?_quoted (dialect : Dialect) (hk : keyword ∈ participantKeywords)
    (hid : isPlainName id = true) (h : DisplayText display) :
    Participant.read? dialect (keyword ++ ' ' :: quotedDeclaration display id) =
      if decorations.any display.contains then none
      else some ⟨id, display, none, keyword == ("actor" : Text)⟩ := by
  have hblank : ∀ k ∈ participantKeywords, ∀ c ∈ k, isBlank c = false := by decide
  rw [Participant.read?, cutAt?_append (hblank _ hk) rfl, ← ofDeclaration?_quoted dialect hid h]
  simp [hk, trim_eq_self (tight_quotedDeclaration hid)]

theorem Message.read?_quoted (hk : keyword ∈ participantKeywords) (hid : isPlainName id = true)
    (hquote : '"' ∉ display) : Message.read? (keyword ++ ' ' :: quotedDeclaration display id) = none := by
  have hkeywords : ∀ k ∈ participantKeywords, '-' ∉ k ∧ '<' ∉ k ∧ '"' ∉ k ∧ apart k ['['] = true := by decide
  obtain ⟨hdash, hangle, hquote', hbracket⟩ := hkeywords _ hk
  have hpass : Arrow.Passes messageArrows isArrowHead (keyword ++ ' ' :: quotedDeclaration display id) [] := by
    have hid' : Arrow.Passes messageArrows isArrowHead (" as " ++ id) [] :=
      (passes_messageArrows (by decide) (by decide) (by decide)).append (passes_plainName hid)
    have hspace : ∀ rest, Arrow.Passes messageArrows isArrowHead (keyword ++ [' ']) rest := fun rest =>
      (passes_messageArrows hdash hangle hquote').append (passes_spaces 1)
    have hline := (hspace _).append ((Arrow.passes_quoted hquote).append hid')
    simpa [quotedDeclaration] using hline
  rw [Message.read?, dropPrefix?_of_apart hbracket]
  simp only [Arrow.findWhere?_eq_none hpass]
  rfl

/-- What a line says that declares a participant with a quoted name: nothing if there is a decoration in the name. -/
theorem SequenceStatement.read_quoted (dialect : Dialect) (hk : keyword ∈ participantKeywords)
    (hid : isPlainName id = true) (h : DisplayText display) :
    SequenceStatement.read dialect (keyword ++ ' ' :: quotedDeclaration display id) =
      if decorations.any display.contains then .other
      else .declaration ⟨id, display, none, keyword == ("actor" : Text)⟩ := by
  have hapart : ∀ k ∈ participantKeywords, k ≠ [] ∧ apart k "autonumber" = true ∧
      [("'" : Text), "%%", "//"].all (apart k) = true ∧
      [("note " : Text), "hnote ", "rnote "].all (apart k.lowerAscii) = true := by decide
  obtain ⟨hne, hauto, hcomment, hnote⟩ := hapart _ hk
  have hempty : (keyword ++ ' ' :: quotedDeclaration display id).isEmpty = false := by simp
  have hcomment' : isComment (keyword ++ ' ' :: quotedDeclaration display id) = false :=
    startsWithAny_of_apart hcomment _
  have hnote' : startsWithAny (lowerAscii (keyword ++ ' ' :: quotedDeclaration display id))
      ["note ", "hnote ", "rnote "] = false := by
    rw [lowerAscii, List.map_append]
    exact startsWithAny_of_apart hnote _
  rw [SequenceStatement.read, hempty, hcomment', startsWith_of_apart hauto, hnote',
    Message.read?_quoted hk hid h.noQuote, Participant.read?_quoted dialect hk hid h]
  cases decorations.any display.contains <;> rfl

/-- A declaration with a quoted name gives the participant that name. If there is a decoration in the name, the
line says nothing. -/
theorem SequenceReader.step_quoted {r : SequenceReader} (dialect : Dialect) (hr : r.inNote = false)
    (hk : keyword ∈ participantKeywords) (hid : isPlainName id = true) (h : DisplayText display) :
    r.step dialect (keyword ++ " \"" ++ display ++ "\" as " ++ id) =
      if decorations.any display.contains then r
      else { r with diagram := r.diagram.declare ⟨id, display, none, keyword == ("actor" : Text)⟩ } := by
  have hline : keyword ++ " \"" ++ display ++ "\" as " ++ id = keyword ++ ' ' :: quotedDeclaration display id := by
    simp [quotedDeclaration]
  have htight : Tight (keyword ++ ' ' :: quotedDeclaration display id) := by
    have hkeywords : ∀ k ∈ participantKeywords, k ≠ [] ∧ Tight k := by decide
    obtain ⟨hne, ht⟩ := hkeywords _ hk
    have hquoted : Tight (quotedDeclaration display id) := tight_quotedDeclaration hid
    have := tight_append (m := [' ']) ht hquoted hne (List.cons_ne_nil _ _)
    simpa using this
  rw [hline, SequenceReader.step, trim_eq_self htight, SequenceStatement.read_quoted dialect hk hid h,
    if_neg (by simp [hr])]
  cases decorations.any display.contains <;> rfl

theorem SequenceReader.step_quoted_actor :
    SequenceReader.start.step .mermaid "actor \"Jane Doe\" as jane" =
      ⟨SequenceDiagram.empty.declare ⟨"jane", "Jane Doe", none, true⟩, false⟩ :=
  (SequenceReader.step_quoted .mermaid rfl (by decide : "actor".toList ∈ participantKeywords)
    (by decide +kernel : isPlainName "jane" = true)
    (⟨by decide, by decide, by decide, by decide⟩ : DisplayText "Jane Doe")).trans (if_neg (by decide))

/-- A hash behind a space is taken for a colour, in quotes as well. -/
theorem SequenceDiagram.read_decorated :
    SequenceDiagram.read .plantUml "participant \"Order #1\" as o" = .empty := by
  decide +kernel

end DiagramProse
