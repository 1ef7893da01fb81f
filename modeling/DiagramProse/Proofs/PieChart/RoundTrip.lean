import DiagramProse.PieChart.Reading
import DiagramProse.Proofs.Decimal.Finite
import DiagramProse.Proofs.Text.AcrossLines
import DiagramProse.Proofs.Text.Beginnings
import DiagramProse.Proofs.Text.Quotes

/-!
A pie chart that is written and read again comes back as it was (`PieChart.read_pieLines`): a header, perhaps a title,
and one line for each segment with its label in quotes. Comments and blank lines may stand anywhere.

A label may hold whatever a line can hold but quotes, so also a colon, or the beginning of a title or of a comment.
It stands behind its quote, so none of the rules for those takes its line (`PieEntry.read_line`).
-/

namespace DiagramProse

open Text

/-! ## Lines that count -/

/-- Whether a trimmed line is neither blank nor a comment. -/
def isTelling (line : Text) : Bool := !line.isEmpty && !isComment line

namespace PieChart

theorem step_trim (chart : Option PieChart) (raw : Text) : step chart raw.trim = step chart raw := by
  unfold step
  rw [trim_trim]

theorem step_of_not_telling {raw : Text} (h : isTelling raw.trim = false) (chart : Option PieChart) :
    step chart raw = chart := by
  unfold step
  refine if_pos ?_
  simpa [isTelling, Bool.and_eq_false_imp, or_iff_not_imp_left] using h

theorem step_of_telling {line : Text} (htrim : trim line = line) (htells : isTelling line = true) (c : PieChart) :
    step (some c) line = some (c.apply (.read line)) := by
  have hcounts : ¬ (line.isEmpty || isComment line) = true := by
    rw [isTelling, ← Bool.not_or, Bool.not_eq_true'] at htells
    rw [htells]
    exact Bool.false_ne_true
  unfold step
  rw [htrim]
  exact if_neg hcounts

/-- Only trimmed lines that are neither blank nor comments count. -/
theorem foldl_step_telling (ls : List Text) (chart : Option PieChart) :
    ((ls.map trim).filter isTelling).foldl step chart = ls.foldl step chart := by
  induction ls generalizing chart with
  | nil => rfl
  | cons l ls ih =>
    rw [List.map_cons, List.filter_cons, List.foldl_cons]
    split
    · rw [List.foldl_cons, step_trim, ih]
    · next hskip => rw [ih, step_of_not_telling (by simpa using hskip)]

/-- A source is read from its lines that count. -/
theorem read_join {ls : List Text} (h : ∀ l ∈ ls, '\n' ∉ l) :
    read (join "\n" ls) = (((ls.map trim).filter isTelling).foldl step none).getD .empty := by
  have hlines : (join "\n" ls : Text).lines = linesOfPieces ls := lines_join_eq h
  rw [read, ofLines, hlines, foldl_linesOfPieces step_trim (step_of_not_telling rfl), foldl_step_telling]

end PieChart

/-! ## Segments -/

/-- A segment as it is written: its label, and the digits of its value in front of the point and behind it, if
there is a point. -/
structure PieEntry where
  label : Text
  whole : Text
  fraction : Option Text

namespace PieEntry

variable {e : PieEntry}

def numeral (e : PieEntry) : Text := e.whole ++ e.fraction.elim [] ('.' :: ·)

def line (e : PieEntry) : Text := quoted e.label ++ ": " ++ e.numeral

/-- The numeral as a number. -/
def number (e : PieEntry) : Numeral := ⟨false, e.whole ++ e.fraction.getD [], (e.fraction.getD []).length⟩

def segment (e : PieEntry) : PieSegment := ⟨e.label, e.number.value⟩

/-- The label can stand between quotes and is left alone by trimming. The value has digits, of which at most fifteen
stand in front of the point. -/
structure IsWritable (e : PieEntry) : Prop where
  label_tight : Tight e.label
  label_ne_nil : e.label ≠ []
  noQuote : '"' ∉ e.label
  digits : e.number.digits.all Char.isDigit = true
  digits_ne_nil : e.number.digits ≠ []
  short : e.whole.length ≤ 15

instance (e : PieEntry) : Decidable e.IsWritable :=
  decidable_of_iff (Tight e.label ∧ e.label ≠ [] ∧ '"' ∉ e.label ∧ e.number.digits.all Char.isDigit = true ∧
      e.number.digits ≠ [] ∧ e.whole.length ≤ 15)
    ⟨fun ⟨htight, hne, hquote, hdigits, hdigits', hshort⟩ => ⟨htight, hne, hquote, hdigits, hdigits', hshort⟩,
      fun h => ⟨h.label_tight, h.label_ne_nil, h.noQuote, h.digits, h.digits_ne_nil, h.short⟩⟩

namespace IsWritable

variable (h : e.IsWritable)
include h

theorem isDigit_whole : ∀ c ∈ e.whole, c.isDigit = true := fun c hc =>
  List.all_eq_true.1 h.digits c (List.mem_append_left _ hc)

theorem isDigit_fraction {f : Text} (hf : e.fraction = some f) : ∀ c ∈ f, c.isDigit = true := fun c hc =>
  List.all_eq_true.1 h.digits c (List.mem_append_right _ (by rwa [hf]))

/-- The characters of a numeral. -/
theorem mem_numeral {c : Char} (hc : c ∈ e.numeral) : c.isDigit = true ∨ c = '.' := by
  rw [numeral, List.mem_append] at hc
  rcases hc with hc | hc
  · exact .inl (h.isDigit_whole c hc)
  · cases hf : e.fraction with
    | none => simp [hf] at hc
    | some f =>
      rw [hf, Option.elim_some, List.mem_cons] at hc
      exact hc.symm.imp (h.isDigit_fraction hf c) id

theorem tight_numeral : Tight e.numeral := by
  refine tight_of_not_blank fun c hc => ?_
  rcases h.mem_numeral hc with hdigit | rfl
  · obtain ⟨hlow, hhigh⟩ := Char.isDigit_iff_toNat.1 hdigit
    have hlow : 48 ≤ c.toNat := hlow
    have hhigh : c.toNat ≤ 57 := hhigh
    simp [isBlank]
    omega
  · rfl

theorem numeral_ne_nil : e.numeral ≠ [] := by
  have hdigits := h.digits_ne_nil
  cases hf : e.fraction <;> simp_all [numeral, number]

theorem read_numeral : Numeral.read? e.numeral = some e.number := by
  have hsign : dropPrefix? e.numeral ['-'] = none := by
    refine dropPrefix?_of_head fun hhead => ?_
    rcases h.mem_numeral (List.mem_of_mem_head? hhead) with hminus | hminus <;> simp at hminus
  have hpoint : (cutAt? (· == '.') e.numeral).getD (e.numeral, []) = (e.whole, e.fraction.getD []) := by
    have hwhole : '.' ∉ e.whole := fun hm => by simpa using h.isDigit_whole _ hm
    cases hf : e.fraction with
    | none =>
      have hnumeral : e.numeral = e.whole := by rw [numeral, hf, Option.elim_none, List.append_nil]
      rw [hnumeral, cutAt?_char_eq_none hwhole]
      rfl
    | some f =>
      have hnumeral : e.numeral = e.whole ++ '.' :: f := by rw [numeral, hf, Option.elim_some]
      rw [hnumeral, cutAt?_char_append hwhole]
      rfl
  have hdigits : (!(e.whole ++ e.fraction.getD []).isEmpty &&
      (e.whole ++ e.fraction.getD []).all Char.isDigit) = true :=
    Bool.and_eq_true_iff.2 ⟨by simpa [number] using h.digits_ne_nil, h.digits⟩
  rw [Numeral.read?, hsign]
  dsimp only
  rw [hpoint]
  dsimp only
  rw [guard, if_pos hdigits]
  rfl

theorem readSegment?_line : readSegment? e.line = some (e.label, e.number) := by
  have hparts : segmentParts? e.line = some (e.label, ' ' :: e.numeral) := by
    have hcut : cutAt? (· == '"') (e.label ++ '"' :: (": " ++ e.numeral)) = some (e.label, ": " ++ e.numeral) :=
      cutAt?_char_append h.noQuote _
    have hline : e.line = '"' :: (e.label ++ '"' :: (": " ++ e.numeral)) := by simp [line, quoted]
    rw [hline, segmentParts?, hcut]
    rfl
  have hlabel : (!e.label.isEmpty) = true := by simpa using h.label_ne_nil
  rw [readSegment?, hparts]
  dsimp only [Option.bind_eq_bind, Option.bind_some]
  rw [guard, if_pos hlabel, trim_eq_self h.label_tight, trim_space_cons, trim_eq_self h.tight_numeral, h.read_numeral]
  rfl

theorem read_line : PieStatement.read e.line = .segment e.label e.number := by
  have htitle : dropPrefix? e.line "title " = none := rfl
  have haccess : e.line.startsWithAny ["accTitle", "accDescr"] = false := rfl
  rw [PieStatement.read, htitle]
  dsimp only
  rw [haccess, h.readSegment?_line]
  rfl

theorem step_line (c : PieChart) :
    PieChart.step (some c) e.line = some { c with segments := c.segments ++ [e.segment] } := by
  have htrim : trim e.line = e.line :=
    trim_eq_self (tight_append (tight_quoted e.label) h.tight_numeral (List.cons_ne_nil _ _) h.numeral_ne_nil)
  have hvalue : (decide (0 ≤ e.number.value) && e.number.value.isFinite) = true := by
    obtain ⟨hsign, hfinite⟩ := Decimal.toFloat_ofDigitChars h.digits h.short
    rw [Bool.and_eq_true, decide_eq_true_eq]
    exact ⟨hsign, hfinite⟩
  rw [PieChart.step_of_telling htrim rfl, h.read_line]
  exact congrArg some (if_pos hvalue)

end IsWritable

end PieEntry

/-! ## Charts -/

/-- A title that trimming leaves alone and that is not taken out of quotes. -/
structure IsPieTitle (t : Text) : Prop where
  tight : Tight t
  ne_nil : t ≠ []
  unquoted : ¬ ∃ u, t = quoted u

def titleLine (t : Text) : Text := "title " ++ t

/-- The lines of a chart. -/
def pieLines (title : Option Text) (showData : Bool) (entries : List PieEntry) : List Text :=
  (if showData then "pie showData" else "pie") :: (title.toList.map titleLine ++ entries.map PieEntry.line)

namespace PieChart

theorem step_header (showData : Bool) :
    step none (if showData then "pie showData" else "pie") = some ⟨none, showData, []⟩ := by
  cases showData <;> rfl

theorem step_title {t : Text} (h : IsPieTitle t) (c : PieChart) :
    step (some c) (titleLine t) = some { c with title := some t } := by
  have htrim : trim (titleLine t) = titleLine t :=
    trim_eq_self (tight_append (s := "title") (m := [' ']) (by decide) h.tight (by decide) h.ne_nil)
  have hread : PieStatement.read (titleLine t) = .title t := by
    have hdrop : dropPrefix? (titleLine t) "title " = some t := dropPrefix?_append _ _
    rw [PieStatement.read, hdrop]
    exact congrArg PieStatement.title (unquote_eq_self h.tight h.unquoted)
  rw [step_of_telling htrim rfl, hread]
  rfl

theorem foldl_step_entries {entries : List PieEntry} (h : ∀ e ∈ entries, e.IsWritable) (c : PieChart) :
    (entries.map PieEntry.line).foldl step (some c) =
      some { c with segments := c.segments ++ entries.map PieEntry.segment } := by
  induction entries generalizing c with
  | nil => simp
  | cons e es ih =>
    rw [List.map_cons, List.foldl_cons, (h e List.mem_cons_self).step_line,
      ih fun e' he' => h e' (List.mem_cons_of_mem e he')]
    simp

/-- A written chart comes back: its title, whether data are shown, and its segments in order, each with its label and
the number that its numeral is read as. Between the lines that are written, and in front of them and behind them,
there may be comments and blank lines. -/
theorem read_pieLines {title : Option Text} {showData : Bool} {entries : List PieEntry}
    (htitle : ∀ t ∈ title, IsPieTitle t) (hentries : ∀ e ∈ entries, e.IsWritable)
    {ls : List Text} (hls : ∀ l ∈ ls, '\n' ∉ l)
    (hwritten : (ls.map trim).filter isTelling = pieLines title showData entries) :
    read (join "\n" ls) = ⟨title, showData, entries.map PieEntry.segment⟩ ∧
      ∀ e ∈ entries, Numeral.read? e.numeral = some e.number := by
  refine ⟨?_, fun e he => (hentries e he).read_numeral⟩
  have hfront : (title.toList.map titleLine).foldl step (some ⟨none, showData, []⟩) =
      some ⟨title, showData, []⟩ := by
    cases title with
    | none => rfl
    | some t => exact step_title (htitle t rfl) _
  rw [read_join hls, hwritten, pieLines, List.foldl_cons, step_header, List.foldl_append, hfront,
    foldl_step_entries hentries]
  rfl

/-- Quotes within a title stay, and a label may look like a title or a comment. -/
theorem read_pieLines_shares :
    let title : Text := "\"Shares\" of \"all\" parts"
    let entries : List PieEntry :=
      [⟨"title A: 12", "42", some "50"⟩, ⟨"// pie: accTitle", [], some "5"⟩, ⟨"%%", "999999999999999", none⟩]
    let ls : List Text :=
      ["  %% pie title A", "pie showData", "", "title \"Shares\" of \"all\" parts", "\t", "\"title A: 12\": 42.50",
        "' \"B\": 2\r", "  \"// pie: accTitle\": .5", "\"%%\": 999999999999999", ""]
    IsPieTitle title ∧ (∀ e ∈ entries, e.IsWritable) ∧ (∀ l ∈ ls, '\n' ∉ l) ∧
      (ls.map trim).filter isTelling = pieLines (some title) true entries ∧
      read (join "\n" ls) =
        ⟨some title, true, [⟨"title A: 12", 42.5⟩, ⟨"// pie: accTitle", 0.5⟩, ⟨"%%", 999999999999999⟩]⟩ ∧
      ∀ e ∈ entries, Numeral.read? e.numeral = some e.number := by
  intro title entries ls
  have htitle : IsPieTitle title := by
    refine ⟨by decide, by decide, fun ⟨u, hu⟩ => ?_⟩
    have hlast : title.getLast? = some '"' := by rw [hu, quoted, ← List.cons_append, List.getLast?_concat]
    exact absurd hlast (by decide)
  have hentries : ∀ e ∈ entries, e.IsWritable := by decide +kernel
  have hls : ∀ l ∈ ls, '\n' ∉ l := by decide +kernel
  have hwritten : (ls.map trim).filter isTelling = pieLines (some title) true entries := by decide +kernel
  have h := read_pieLines (fun t ht => Option.mem_some_iff.1 ht ▸ htitle) hentries hls hwritten
  exact ⟨htitle, hentries, hls, hwritten, h⟩

end PieChart

end DiagramProse
