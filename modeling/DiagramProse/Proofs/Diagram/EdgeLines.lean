import DiagramProse.Dialect
import DiagramProse.Proofs.Text.Names

/-!
The line of an edge between two names (`edgeLine`), and the prefixes by which readers know lines of other kinds. A
prefix that ends in a space is found if the first name is that word, one without a space if the name begins with it
(`startsWithAny_edge`).
-/

namespace DiagramProse

open Text

/-! ## Words that hide a line -/

/-- What is taken for a line of another kind: whole words in front of a space, and beginnings of words. -/
structure SkipWords where
  words : List Text
  beginnings : List Text
deriving DecidableEq

namespace SkipWords

/-- Whether a line that begins with the name is taken for one of another kind. -/
def hides (w : SkipWords) (name : Text) : Bool := w.words.contains name || w.beginnings.any name.startsWith

/-- The word that a prefix consists of, if it is one with a space behind it. -/
def word? (p : Text) : Option Text := (cutAt? (· == ' ') p).bind fun (w, after) => if after = [] then some w else none

/-- The words of a table of prefixes, but for those that go on behind a space. -/
def ofTable (table : List Text) : SkipWords where
  words := table.filterMap word?
  beginnings := table.filter fun p => ' ' ∉ p

end SkipWords

/-- Whether a dash is sought behind the first word. -/
def seeksDash (p : Text) : Bool := (cutAt? (· == ' ') p).any fun (_, after) => after.head? == some '-'

variable {a b t p : Text}

/-- A prefix that ends in a space is the name, and one without a space is at the beginning of the name. -/
theorem startsWith_edge (ha : ' ' ∉ a) (hp : seeksDash p = false) :
    startsWith (a ++ ' ' :: '-' :: t) p = true ↔ SkipWords.word? p = some a ∨ ' ' ∉ p ∧ a.startsWith p = true := by
  rw [SkipWords.word?]
  rw [seeksDash] at hp
  -- a prefix with a space in it can only be found if its first word is the name
  cases hcut : cutAt? (· == ' ') p with
  | none =>
    have hspace : ' ' ∉ p := by
      have hany := isSome_cutAt? (· == ' ') p
      rw [hcut, Option.isSome_none] at hany
      exact fun hm => by simpa using (List.any_eq_false.1 hany.symm) ' ' hm
    simp [startsWith_append_cons hspace, hspace]
  | some wq =>
    obtain ⟨w, q⟩ := wq
    obtain ⟨rfl, hw⟩ := cutAt?_char_eq_some hcut
    cases q with
    | nil =>
      rw [startsWith_words ha hw]
      simpa using eq_comm
    | cons c q =>
      have hc : '-' ≠ c := by
        rintro rfl
        simp [hcut] at hp
      rw [startsWith_eq_isSome, dropPrefix?_words ha hw]
      simp [dropPrefix?, hc]

theorem startsWithAny_edge (ha : ' ' ∉ a) {table : List Text} (h : ∀ p ∈ table, seeksDash p = false) :
    startsWithAny (a ++ ' ' :: '-' :: t) table = (SkipWords.ofTable table).hides a := by
  rw [Bool.eq_iff_iff, startsWithAny, SkipWords.hides, Bool.or_eq_true, List.any_eq_true, List.any_eq_true,
    List.contains_iff_mem, SkipWords.ofTable, List.mem_filterMap]
  constructor
  · rintro ⟨p, hp, hs⟩
    rcases (startsWith_edge ha (h p hp)).1 hs with hword | ⟨hspace, hs⟩
    · exact .inl ⟨p, hp, hword⟩
    · exact .inr ⟨p, List.mem_filter.2 ⟨hp, by simpa using hspace⟩, hs⟩
  · rintro (⟨p, hp, hword⟩ | ⟨p, hp, hs⟩)
    · exact ⟨p, hp, (startsWith_edge ha (h p hp)).2 (.inl hword)⟩
    · obtain ⟨hp, hspace⟩ := List.mem_filter.1 hp
      exact ⟨p, hp, (startsWith_edge ha (h p hp)).2 (.inr ⟨by simpa using hspace, hs⟩)⟩

/-! ## Edges -/

/-- The arrow of an edge, and the name to which it leads. -/
def arrowTo (b : Text) : Text := '-' :: '-' :: '>' :: ' ' :: b

theorem tight_arrowTo (hb : isPlainName b = true) : Tight (arrowTo b) := by
  have := tight_append (m := [' ']) (by decide : Tight "-->") (tight_of_not_blank (not_blank_of_isPlainName hb))
    (by decide) (ne_nil_of_isPlainName hb)
  simpa [arrowTo] using this

theorem not_mem_arrowTo (hb : isPlainName b = true) {d : Char} (hd : isNameChar d = false)
    (hsigns : d ∉ [' ', '-', '>']) : d ∉ arrowTo b := by
  have hname : d ∉ b := not_mem_of_isPlainName hb hd
  simp_all [arrowTo]

/-- An edge from one name to another. -/
def edgeLine (a b : Text) : Text := a ++ ' ' :: arrowTo b

theorem edgeLine_eq (a b : Text) : a ++ " --> " ++ b = edgeLine a b := by simp [edgeLine, arrowTo]

theorem not_mem_edgeLine (ha : isPlainName a = true) (hb : isPlainName b = true) {d : Char}
    (hd : isNameChar d = false) (hsigns : d ∉ [' ', '-', '>']) : d ∉ edgeLine a b := by
  have hname : d ∉ a := not_mem_of_isPlainName ha hd
  have harrow : d ∉ arrowTo b := not_mem_arrowTo hb hd hsigns
  have hspace : d ≠ ' ' := fun h => hsigns (by simp [h])
  simp [edgeLine, hname, hspace, harrow]

/-- A table of prefixes and the word of notes, sought at the beginning of an edge. -/
theorem hides_edge {w : SkipWords} {table : List Text} (ha : isPlainName a = true)
    (hdash : ∀ p ∈ table ++ [("note " : Text)], seeksDash p = false)
    (hw : SkipWords.ofTable (table ++ [("note " : Text)]) = w) :
    w.hides a = (startsWithAny (edgeLine a b) table || startsWith (edgeLine a b) "note ") := by
  have hspace : ' ' ∉ a := not_mem_of_isPlainName ha (by decide)
  have hany : startsWithAny (edgeLine a b) (table ++ [("note " : Text)]) = w.hides a :=
    hw ▸ startsWithAny_edge hspace hdash
  rw [← hany, startsWithAny, List.any_append, List.any_cons, List.any_nil, Bool.or_false]
  rfl

/-- What is known of the line of an edge between plain names. -/
structure EdgeText (a b : Text) : Prop where
  lines : lines (edgeLine a b) = [edgeLine a b]
  trim : trim (edgeLine a b) = edgeLine a b
  head : ∃ c s, edgeLine a b = c :: s ∧ isNameChar c = true

theorem edgeText (ha : isPlainName a = true) (hb : isPlainName b = true) : EdgeText a b := by
  have hn : '\n' ∉ edgeLine a b := not_mem_edgeLine ha hb (by decide) (by decide)
  have htight : Tight (edgeLine a b) := by
    have := tight_append (m := [' ']) (tight_of_not_blank (not_blank_of_isPlainName ha)) (tight_arrowTo hb)
      (ne_nil_of_isPlainName ha) (List.cons_ne_nil _ _)
    simpa [edgeLine] using this
  obtain ⟨c, s, rfl⟩ := List.exists_cons_of_ne_nil (ne_nil_of_isPlainName ha)
  have hlines : ∀ l ∈ [edgeLine (c :: s) b], IsLine l := by
    intro l hl
    rw [List.mem_singleton.1 hl]
    exact isLine_of_tight (List.cons_ne_nil _ _) htight hn
  refine ⟨?_, trim_eq_self htight, c, _, rfl, isNameChar_of_isPlainName ha c List.mem_cons_self⟩
  simpa [join] using lines_join hlines

namespace EdgeText

variable (h : EdgeText a b)

include h

/-- What begins with a sign is not at the beginning of the line. -/
theorem dropPrefix?_sign {d : Char} (hd : isNameChar d = false) (p : Text) :
    dropPrefix? (edgeLine a b) (d :: p) = none := by
  obtain ⟨c, s, hs, hc⟩ := h.head
  have hne : c ≠ d := by
    rintro rfl
    rw [hd] at hc
    cases hc
  rw [hs, dropPrefix?, if_neg hne]

theorem ne_sign {d : Char} (hd : isNameChar d = false) (p : Text) : edgeLine a b ≠ d :: p := by
  intro heq
  have hdrop := h.dropPrefix?_sign hd p
  rw [heq, dropPrefix?_eq_some_iff.2 (List.append_nil _).symm] at hdrop
  cases hdrop

theorem startsWith_sign {d : Char} (hd : isNameChar d = false) (p : Text) :
    startsWith (edgeLine a b) (d :: p) = false := by
  rw [startsWith_eq_isSome, h.dropPrefix?_sign hd, Option.isSome_none]

theorem isEmpty_eq_false : (edgeLine a b).isEmpty = false := by
  obtain ⟨c, s, hs, -⟩ := h.head
  rw [hs]
  rfl

theorem not_comment : isComment (edgeLine a b) = false := by
  have hsigns : ∀ p ∈ ["'".toList, "%%".toList, "//".toList], startsWith (edgeLine a b) p = false := by
    intro p hp
    simp only [List.mem_cons, List.not_mem_nil, or_false] at hp
    rcases hp with rfl | rfl | rfl
    all_goals exact h.startsWith_sign (by decide) _
  exact List.any_eq_false.2 fun p hp => by rw [hsigns p hp]; exact Bool.false_ne_true

end EdgeText

end DiagramProse
