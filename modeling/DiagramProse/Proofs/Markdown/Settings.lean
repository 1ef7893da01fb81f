import DiagramProse.Markdown.DiagramBlock
import DiagramProse.Proofs.Text.Fields

/-!
The settings of a block, written behind the language of its fence and read back (`BlockSettings.read_spaced`). The
parts may stand in any order, with spaces between them.

Reading finds a flag wherever it stands as a word, and a value behind the first place where its name and an opening
quote stand, in both cases without a look at which quotes belong together. So what is in quotes may be taken for a flag,
and the closing quote of one value for the opening quote of another. `Unmistakable` says when neither happens; without
it the settings may be other ones (`read_mistaken`).
-/

namespace DiagramProse.BlockSettings

open Text

/-! ## Written settings -/

/-- One part of the text behind the language of a fence. -/
inductive Part where
  | valued (name value : Text)
  | flag (word : Text)
deriving DecidableEq, Repr

def Part.write : Part → Text
  | valued name value => name ++ '=' :: '"' :: (value ++ ['"'])
  | flag word => word

/-- The words that hide something. -/
def flagWords : List Text := ["hideSource", "hideA11y"]

/-- What has to be written of the settings. -/
def parts (b : BlockSettings) : List Part :=
  (b.imageType.map (.valued "imgType")).toList ++ (b.title.map (.valued "imgTitle")).toList
    ++ ((if b.hidesSource then [.flag "hideSource"] else [])
    ++ (if b.hidesDescription then [.flag "hideA11y"] else []))

/-- The parts stand in this order with spaces behind them, at least one if another part follows. -/
inductive Spaced : List Part → Text → Prop
  | nil : Spaced [] []
  | cons (p : Part) (n : Nat) {ps : List Part} {s : Text} (hn : ps ≠ [] → 0 < n) (h : Spaced ps s) :
      Spaced (p :: ps) (p.write ++ (List.replicate n ' ' ++ s))

/-! ## What is in quotes -/

/-- The word stands in the value, between two blanks of it. -/
def HoldsWord (word value : Text) : Prop :=
  ∃ before c inner d after, value = before ++ c :: (inner ++ d :: after) ∧ isBlank c = true ∧ isBlank d = true ∧
    word ∈ words inner

/-- The value ends as if another one, of the setting called `name`, would begin behind it. -/
def Announces (name value : Text) : Prop :=
  ∃ before, value = before ++ (name ++ ['=']) ∧ isBoundary (some (before.getLastD '"')) name.head? = true

/-- Nothing that is in quotes can be mistaken: a flag that a value holds is set anyway, and no value announces another
one that comes behind it. -/
structure Unmistakable (ps : List Part) : Prop where
  flags : ∀ name value, .valued name value ∈ ps → ∀ word ∈ flagWords, HoldsWord word value → .flag word ∈ ps
  names : ∀ name value next other, [.valued name value, .valued next other].Sublist ps → ¬ Announces next value

theorem HoldsWord.mem_words {word value : Text} (h : HoldsWord word value) : word ∈ words value := by
  obtain ⟨before, c, inner, d, after, rfl, hc, hd, hword⟩ := h
  rw [words_eq_fields, fields_append_cons hc, fields_append_cons hd]
  exact List.mem_append_right _ (List.mem_append_left _ hword)

theorem Announces.suffix {name value : Text} (h : Announces name value) : name ++ ['='] <:+ value := by
  obtain ⟨before, rfl, -⟩ := h
  exact List.suffix_append _ _

/-! ## Flags -/

theorem words_spaced {ps : List Part} {s : Text} (h : Spaced ps s) : words s = ps.flatMap fun p => words p.write := by
  induction h with
  | nil => rfl
  | @cons p n ps s hn h ih =>
    have hspaces : ∀ c ∈ List.replicate n ' ', isBlank c = true := by
      intro c hc
      rw [List.eq_of_mem_replicate hc]
      rfl
    -- the word goes no further than to the first space, and without a space nothing follows
    have hnext : ∀ c ∈ (List.replicate n ' ' ++ s).head?, isBlank c = true := by
      intro c hc
      cases n with
      | zero =>
        cases h with
        | nil => cases hc
        | cons => exact absurd (hn (List.cons_ne_nil _ _)) (Nat.lt_irrefl 0)
      | succ n => exact hspaces c (by rw [List.replicate_succ] at hc; cases hc; simp)
    rw [words_append hnext, words_eq_fields (List.replicate n ' ' ++ s), fields_separators_append hspaces,
      ← words_eq_fields, ih, List.flatMap_cons]

/-- A text without blanks is no word without quotes if it has a quote. -/
theorem not_mem_words_of_quote {word s : Text} (hquote : '"' ∉ word) (hs : '"' ∈ s) (h : ∀ c ∈ s, isBlank c = false) :
    word ∉ words s := by
  intro hw
  rw [words_of_forall (List.ne_nil_of_mem hs) h, List.mem_singleton] at hw
  exact hquote (hw ▸ hs)

/-- A word without quotes that a written value seems to have stands within the value: the first and the last word of
what is written have a quote. -/
theorem holdsWord_of_mem_words {name value word : Text} (hname : ∀ c ∈ name, isBlank c = false)
    (hquote : '"' ∉ word) (h : word ∈ words (Part.valued name value).write) : HoldsWord word value := by
  have hopen : ∀ c ∈ name ++ ['=', '"'], isBlank c = false := List.forall_mem_append.2 ⟨hname, by decide⟩
  have hclose : ∀ c ∈ ['"'], isBlank c = false := by decide
  have hwrite : (Part.valued name value).write = (name ++ ['=', '"']) ++ (value ++ ['"']) := by simp [Part.write]
  rw [hwrite] at h
  rcases exists_first isBlank value with hnone | ⟨before, c, rest, rfl, hc, hbefore⟩
  · have hall := List.forall_mem_append.2 ⟨hopen, List.forall_mem_append.2 ⟨hnone, hclose⟩⟩
    exact absurd h (not_mem_words_of_quote hquote (by simp) hall)
  · rw [List.append_assoc before, ← List.append_assoc, List.cons_append, words_eq_fields, fields_append_cons hc,
      ← words_eq_fields, ← words_eq_fields, List.mem_append] at h
    have hfirst := not_mem_words_of_quote hquote (by simp) (List.forall_mem_append.2 ⟨hopen, hbefore⟩)
    have hrest := h.resolve_left hfirst
    rcases exists_last isBlank rest with hnone | ⟨inner, d, after, rfl, hd, hafter⟩
    · have hall := List.forall_mem_append.2 ⟨hnone, hclose⟩
      exact absurd hrest (not_mem_words_of_quote hquote (by simp) hall)
    · rw [List.append_assoc, List.cons_append, words_eq_fields, fields_append_cons hd, ← words_eq_fields,
        ← words_eq_fields, List.mem_append] at hrest
      have hlast := not_mem_words_of_quote hquote (by simp) (List.forall_mem_append.2 ⟨hafter, hclose⟩)
      exact ⟨before, c, inner, d, after, rfl, hc, hd, hrest.resolve_right hlast⟩

/-- The parts are those that are set. -/
theorem mem_parts {b : BlockSettings} {part : Part} : part ∈ b.parts ↔
    (∃ v, b.imageType = some v ∧ part = .valued "imgType" v) ∨ (∃ v, b.title = some v ∧ part = .valued "imgTitle" v) ∨
      (b.hidesSource = true ∧ part = .flag "hideSource") ∨ (b.hidesDescription = true ∧ part = .flag "hideA11y") := by
  unfold parts
  simp only [List.mem_append, Option.mem_toList, Option.map_eq_some_iff, or_assoc, eq_comm (a := part)]
  refine or_congr Iff.rfl (or_congr Iff.rfl (or_congr ?_ ?_))
  · cases b.hidesSource <;> simp [eq_comm]
  · cases b.hidesDescription <;> simp [eq_comm]

/-- Reading finds the flags that are set, and no others. -/
theorem mem_words_spaced {b : BlockSettings} {ps : List Part} {s word : Text} (hps : ps.Perm b.parts)
    (hs : Spaced ps s) (hplain : Unmistakable ps) (hword : word ∈ flagWords) :
    word ∈ words s ↔ .flag word ∈ ps := by
  have hflags : ∀ w ∈ flagWords, words w = [w] ∧ '"' ∉ w := by decide
  have hnames : ∀ n ∈ (["imgType", "imgTitle"] : List Text), ∀ c ∈ n, isBlank c = false := by decide
  rw [words_spaced hs, List.mem_flatMap]
  constructor
  · rintro ⟨part, hpart, hw⟩
    rcases mem_parts.1 (hps.subset hpart) with ⟨v, -, rfl⟩ | ⟨v, -, rfl⟩ | ⟨-, rfl⟩ | ⟨-, rfl⟩
    · exact hplain.flags _ _ hpart _ hword (holdsWord_of_mem_words (hnames _ (by simp)) (hflags _ hword).2 hw)
    · exact hplain.flags _ _ hpart _ hword (holdsWord_of_mem_words (hnames _ (by simp)) (hflags _ hword).2 hw)
    · rw [Part.write, (hflags _ (by decide)).1, List.mem_singleton] at hw
      exact hw ▸ hpart
    · rw [Part.write, (hflags _ (by decide)).1, List.mem_singleton] at hw
      exact hw ▸ hpart
  · intro hflag
    exact ⟨_, hflag, by rw [Part.write, (hflags _ hword).1]; simp⟩

/-! ## Values -/

variable {name s t u value : Text} {before : Option Char}

theorem quotedValue?_append (hquote : '"' ∉ value) (hne : value ≠ []) (t : Text) :
    quotedValue? (value ++ '"' :: t) = some value := by
  rw [quotedValue?, cutAt?_char_append hquote]
  simpa [nonempty?] using hne

/-- Without a closing quote there is no value. -/
theorem quotedValue?_of_not_mem (h : '"' ∉ s) : quotedValue? s = none := by
  rw [quotedValue?, cutAt?_char_eq_none h]
  rfl

/-- The opening quote of a value is the first one behind its name. -/
theorem dropPrefix?_opening (hname : '"' ∉ name) (hu : '"' ∉ u) (t : Text) :
    dropPrefix? (u ++ '"' :: t) (name ++ ['=', '"']) = if u = name ++ ['='] then some t else none := by
  have hopen : '"' ∉ name ++ ['='] := by simpa using hname
  split
  · next h => exact dropPrefix?_eq_some_iff.2 (by simp [h])
  · next h =>
    refine Option.eq_none_iff_forall_ne_some.2 fun r hr => h ?_
    have hcut := congrArg (cutAt? (· == '"')) (dropPrefix?_eq_some_iff.1 hr)
    have hsplit : name ++ ['=', '"'] ++ r = (name ++ ['=']) ++ '"' :: r := by simp
    rw [hsplit, cutAt?_char_append hu, cutAt?_char_append hopen, Option.some.injEq, Prod.mk.injEq] at hcut
    exact hcut.1

/-- Without a quote nothing is found. -/
theorem valueBehind?_of_not_mem (h : '"' ∉ s) (before : Option Char) :
    valueBehind? (name ++ ['=', '"']) before s = none := by
  induction s generalizing before with
  | nil => rfl
  | cons c s ih =>
    have hhere : dropPrefix? (c :: s) (name ++ ['=', '"']) = none :=
      Option.eq_none_iff_forall_ne_some.2 fun r hr => h (by rw [dropPrefix?_eq_some_iff.1 hr]; simp)
    unfold valueBehind?
    rw [hhere, ih fun hs => h (List.mem_cons_of_mem c hs)]
    simp

theorem getLast?_cons_or (c : Char) (s : Text) (before : Option Char) :
    (c :: s).getLast?.or before = s.getLast?.or (some c) := by
  cases s with
  | nil => rfl
  | cons d s => rw [List.getLast?_cons_cons, List.getLast?_cons, Option.some_or, Option.some_or]

theorem getLast?_or (s : Text) (d : Char) : s.getLast?.or (some d) = some (s.getLastD d) := by
  rw [List.getLastD_eq_getLast?]
  cases s.getLast? <;> rfl

/-- The search goes on behind the first quote, unless the name stands in front of it where a word begins. -/
theorem valueBehind?_skip (before : Option Char) (hname : '"' ∉ name) (hne : name ≠ []) (hu : '"' ∉ u) (t : Text)
    (h : ∀ v, u = v ++ (name ++ ['=']) → isBoundary (v.getLast?.or before) name.head? = false) :
    valueBehind? (name ++ ['=', '"']) before (u ++ '"' :: t) = valueBehind? (name ++ ['=', '"']) (some '"') t := by
  induction u generalizing before with
  | nil =>
    have hhere := dropPrefix?_opening hname List.not_mem_nil t
    rw [if_neg (by simp), List.nil_append] at hhere
    rw [List.nil_append, valueBehind?, hhere]
    simp
  | cons c u ih =>
    have hu' : '"' ∉ u := fun hm => hu (List.mem_cons_of_mem c hm)
    have hrest := ih (some c) hu' fun v hv => by
      rw [← getLast?_cons_or c v before]
      exact h (c :: v) (by rw [hv, List.cons_append])
    have hhere := dropPrefix?_opening hname hu t
    rw [List.cons_append] at hhere ⊢
    rw [valueBehind?, hhere, hrest]
    by_cases hopen : c :: u = name ++ ['=']
    · have hhead : name.head? = some c := by
        rw [← List.head?_append_of_ne_nil name hne, ← hopen]
        rfl
      have hbound := h [] hopen
      rw [hhead] at hbound
      have hno : isBoundary before (some c) = false := hbound
      simp [hno]
    · simp [hopen]

/-- A value is found at the first quote if its name stands in front of it, where a word begins. -/
theorem valueBehind?_here (before : Option Char) (hname : '"' ∉ name) (hne : name ≠ []) (hu : '"' ∉ u) (t : Text)
    (hword : isBoundary (u.getLast?.or before) name.head? = true) :
    valueBehind? (name ++ ['=', '"']) before (u ++ (name ++ '=' :: '"' :: t)) =
      (quotedValue? t).or (valueBehind? (name ++ ['=', '"']) (some '"') t) := by
  induction u generalizing before with
  | nil =>
    obtain ⟨d, name, rfl⟩ := List.exists_cons_of_ne_nil hne
    have hhere := dropPrefix?_opening hname (u := d :: name ++ ['=']) (by simpa using hname) t
    rw [if_pos rfl] at hhere
    have hrest := valueBehind?_skip (some d) hname hne (u := name ++ ['='])
      (by simpa using fun hm => hname (List.mem_cons_of_mem d hm)) t fun v hv => by
        have := congrArg List.length hv
        simp at this
        omega
    simp only [List.nil_append, List.cons_append, List.append_assoc] at hhere hrest ⊢
    have hbound : isBoundary before (some d) = true := hword
    rw [valueBehind?, hhere, hrest, if_pos hbound]
    simp
  | cons c u ih =>
    have hu' : '"' ∉ u := fun hm => hu (List.mem_cons_of_mem c hm)
    have hrest := ih (some c) hu' (by rwa [← getLast?_cons_or c u before])
    have hhere := dropPrefix?_opening hname (u := c :: u ++ (name ++ ['='])) (by simp_all) t
    have hlong : ¬ c :: u ++ (name ++ ['=']) = name ++ ['='] := fun e => by
      have := congrArg List.length e
      simp at this
      omega
    rw [if_neg hlong] at hhere
    simp only [List.cons_append, List.append_assoc, List.nil_append] at hhere ⊢
    rw [valueBehind?, hhere, hrest]
    simp

/-! ## Values of written settings -/

/-- The value that a part gives to the setting called `name`. -/
def Part.valueOf? (name : Text) : Part → Option Text
  | valued n v => if n = name then some v else none
  | flag _ => none

/-- A name that another one ends with begins in the middle of a word. -/
theorem isBoundary_of_other {n name u w : Text} {before : Option Char} (hn : ∀ c ∈ n, isWordChar c = true)
    (hname : ∀ c ∈ name, isWordChar c = true) (hne : name ≠ []) (hother : n ≠ name)
    (hu : (u.getLast?.or before).any isWordChar = false) (h : u ++ n = w ++ name) :
    isBoundary (w.getLast?.or before) name.head? = false := by
  obtain ⟨d, rest, rfl⟩ := List.exists_cons_of_ne_nil hne
  have hd : isWordChar d = true := hname d List.mem_cons_self
  rcases List.append_eq_append_iff.1 h with ⟨a, rfl, ha⟩ | ⟨a, rfl, ha⟩
  · -- `name` is the end of `n`
    have ha' : a ≠ [] := by
      rintro rfl
      exact hother ha
    have hlast : (u ++ a).getLast? = some (a.getLast ha') := by
      rw [List.getLast?_append_of_ne_nil _ ha', List.getLast?_eq_some_getLast ha']
    have hword : isWordChar (a.getLast ha') = true := hn _ (by rw [ha]; simp)
    rw [hlast, isBoundary]
    simp [hword, hd]
  · -- `name` goes over the place at which `n` begins
    have ha' : a ≠ [] := by
      rintro rfl
      exact hother ha.symm
    have hlast : (w ++ a).getLast? = some (a.getLast ha') := by
      rw [List.getLast?_append_of_ne_nil _ ha', List.getLast?_eq_some_getLast ha']
    have hword : isWordChar (a.getLast ha') = true := hname _ (by rw [ha]; simp)
    rw [hlast] at hu
    simp [hword] at hu

theorem quote_not_mem {n : Text} (hn : ∀ c ∈ n, isWordChar c = true) : '"' ∉ n := by
  have hquote : isWordChar '"' = false := by decide +kernel
  intro hm
  rw [hn _ hm] at hquote
  cases hquote

section

variable {name n v u s : Text} {before : Option Char} (hname : ∀ c ∈ name, isWordChar c = true) (hne : name ≠ [])
  (hvq : '"' ∉ v) (hu : '"' ∉ u) (hend : (u.getLast?.or before).any isWordChar = false)

include hname hne hvq hu hend

/-- The value of the setting that is sought. -/
theorem valueBehind?_own (hv : v ≠ []) :
    valueBehind? (name ++ ['=', '"']) before (u ++ ((Part.valued name v).write ++ s)) = some v := by
  obtain ⟨d, rest, rfl⟩ := List.exists_cons_of_ne_nil hne
  have hword : isBoundary (u.getLast?.or before) (d :: rest).head? = true := by
    have hd := hname d List.mem_cons_self
    rw [isBoundary, hend]
    simp [hd]
  have hfound := valueBehind?_here before (quote_not_mem hname) hne hu (v ++ '"' :: s) hword
  rw [quotedValue?_append hvq hv] at hfound
  simpa [Part.write] using hfound

/-- Another setting is passed by, if its value does not announce the sought one or no value comes behind it. -/
theorem valueBehind?_other (hn : ∀ c ∈ n, isWordChar c = true) (hother : n ≠ name)
    (h : Announces name v → '"' ∉ s) :
    valueBehind? (name ++ ['=', '"']) before (u ++ ((Part.valued n v).write ++ s)) =
      valueBehind? (name ++ ['=', '"']) (some '"') s := by
  have hopen : ∀ w, u ++ (n ++ ['=']) = w ++ (name ++ ['=']) →
      isBoundary (w.getLast?.or before) name.head? = false := by
    intro w hw
    rw [← List.append_assoc, ← List.append_assoc] at hw
    exact isBoundary_of_other hn hname hne hother hend (List.append_cancel_right hw)
  have hskip := valueBehind?_skip before (quote_not_mem hname) hne (u := u ++ (n ++ ['=']))
    (by simp [hu, quote_not_mem hn]) (v ++ '"' :: s) hopen
  have hsplit : u ++ ((Part.valued n v).write ++ s) = u ++ (n ++ ['=']) ++ '"' :: (v ++ '"' :: s) := by
    simp [Part.write]
  rw [hsplit, hskip]
  -- now the closing quote
  by_cases hann : Announces name v
  · have hs := h hann
    obtain ⟨w, rfl, hw⟩ := hann
    have hfound := valueBehind?_here (some '"') (quote_not_mem hname) hne (u := w)
      (fun hm => hvq (List.mem_append_left _ hm)) s (by rwa [getLast?_or])
    rw [quotedValue?_of_not_mem hs, Option.none_or] at hfound
    simpa using hfound
  · refine valueBehind?_skip (some '"') (quote_not_mem hname) hne hvq s fun w hw => ?_
    rw [getLast?_or, ← Bool.not_eq_true]
    exact fun hbound => hann ⟨w, hw, hbound⟩

end

theorem not_mem_spaced {ps : List Part} {s : Text} (hs : Spaced ps s) (hflags : ∀ w, .flag w ∈ ps → '"' ∉ w)
    (h : ∀ n v, .valued n v ∉ ps) : '"' ∉ s := by
  induction hs with
  | nil => exact List.not_mem_nil
  | cons p n _ _ ih =>
    have hrest := ih (fun w hw => hflags w (List.mem_cons_of_mem _ hw)) fun n v hm => h n v (List.mem_cons_of_mem _ hm)
    have hp : '"' ∉ p.write := by
      cases p with
      | valued n v => exact absurd List.mem_cons_self (h n v)
      | flag w => exact hflags w List.mem_cons_self
    simp [hp, hrest]

/-- Of written settings the first one with the sought name is found, if no value in front of it that is followed by
another one announces the name. -/
theorem valueBehind?_spaced {ps : List Part} {s u name : Text} {before : Option Char} (hs : Spaced ps s)
    (hvalues : ∀ n v, .valued n v ∈ ps → (∀ c ∈ n, isWordChar c = true) ∧ v ≠ [] ∧ '"' ∉ v)
    (hflags : ∀ w, .flag w ∈ ps → '"' ∉ w) (hname : ∀ c ∈ name, isWordChar c = true) (hne : name ≠ [])
    (hplain : ∀ n v rest, (.valued n v :: rest) <:+ ps → n ≠ name → Announces name v → ∀ n' v', .valued n' v' ∉ rest)
    (hu : '"' ∉ u) (hend : ps ≠ [] → (u.getLast?.or before).any isWordChar = false) :
    valueBehind? (name ++ ['=', '"']) before (u ++ s) = ps.findSome? (Part.valueOf? name) := by
  induction hs generalizing u before with
  | nil => exact valueBehind?_of_not_mem (by simpa using hu) before
  | @cons p k ps s hk hs ih =>
    have hflags' : ∀ w, .flag w ∈ ps → '"' ∉ w := fun w hm => hflags w (List.mem_cons_of_mem _ hm)
    have hrest := fun u before => @ih u before (fun n v hm => hvalues n v (List.mem_cons_of_mem _ hm)) hflags'
      fun n v rest hr => hplain n v rest (hr.trans (List.suffix_cons p ps))
    have hgap : '"' ∉ List.replicate k ' ' := fun hm => absurd (List.eq_of_mem_replicate hm) (by decide)
    have hspace : ∀ (x : Text) (b : Option Char), ps ≠ [] →
        ((x ++ List.replicate k ' ').getLast?.or b).any isWordChar = false := by
      intro x b hps
      obtain ⟨m, rfl⟩ := Nat.exists_eq_succ_of_ne_zero (Nat.pos_iff_ne_zero.1 (hk hps))
      have hlast : (x ++ List.replicate (m + 1) ' ').getLast? = some ' ' := by simp [List.replicate_succ']
      have hword : isWordChar ' ' = false := by decide +kernel
      rw [hlast]
      simpa using hword
    cases p with
    | flag w =>
      have hfront : '"' ∉ u ++ w ++ List.replicate k ' ' := by simp [hu, hflags w List.mem_cons_self, hgap]
      have hsearch := hrest _ before hfront (hspace _ before)
      simpa [Part.write, Part.valueOf?, List.findSome?_cons] using hsearch
    | valued n v =>
      obtain ⟨hn, hv, hvq⟩ := hvalues n v List.mem_cons_self
      have hend' := hend (List.cons_ne_nil _ _)
      rw [List.findSome?_cons, Part.valueOf?]
      by_cases hother : n = name
      · subst hother
        rw [valueBehind?_own hn hne hvq hu hend' hv, if_pos rfl]
      · have hlast : Announces name v → '"' ∉ List.replicate k ' ' ++ s := by
          intro hann
          have hs' := not_mem_spaced hs hflags' (hplain n v ps (List.suffix_refl _) hother hann)
          simp [hgap, hs']
        rw [valueBehind?_other hname hne hvq hu hend' hn hother hlast, if_neg hother]
        exact hrest _ _ hgap (by simpa using hspace [] (some '"'))

/-! ## Settings read back -/

theorem nodup_parts (b : BlockSettings) : b.parts.Nodup := by
  unfold parts
  cases b.imageType <;> cases b.title <;> cases b.hidesSource <;> cases b.hidesDescription <;> simp

/-- A setting that is written at most once is the first one of its name. -/
theorem findSome?_valueOf {ps : List Part} {name : Text} {o : Option Text} (h : ∀ v, .valued name v ∈ ps ↔ o = some v) :
    ps.findSome? (Part.valueOf? name) = o := by
  have hvalue : ∀ (p : Part) (v : Text), p.valueOf? name = some v ↔ p = .valued name v := by
    intro p v
    cases p with
    | valued n w => by_cases hn : n = name <;> simp [Part.valueOf?, hn]
    | flag w => simp [Part.valueOf?]
  cases hfind : ps.findSome? (Part.valueOf? name) with
  | none =>
    refine (Option.eq_none_iff_forall_ne_some.2 fun v hv => ?_).symm
    have hno := List.findSome?_eq_none_iff.1 hfind _ ((h v).2 hv)
    simp [Part.valueOf?] at hno
  | some v =>
    obtain ⟨p, hp, hpv⟩ := List.exists_of_findSome?_eq_some hfind
    exact ((h v).1 ((hvalue p v).1 hpv ▸ hp)).symm

theorem mem_parts_valued {b : BlockSettings} {name value : Text} (h : .valued name value ∈ b.parts) :
    (name = "imgType".toList ∧ b.imageType = some value) ∨ (name = "imgTitle".toList ∧ b.title = some value) := by
  rcases mem_parts.1 h with ⟨v, hv, he⟩ | ⟨v, hv, he⟩ | ⟨-, he⟩ | ⟨-, he⟩
  · cases he
    exact .inl ⟨rfl, hv⟩
  · cases he
    exact .inr ⟨rfl, hv⟩
  · cases he
  · cases he

/-- Two values that are written are the two that there can be. -/
theorem names_of_sublist {b : BlockSettings} {ps : List Part} {name value next other : Text} (horder : ps.Perm b.parts)
    (h : [.valued name value, .valued next other].Sublist ps) :
    (name = "imgType".toList ∧ next = "imgTitle".toList ∨ name = "imgTitle".toList ∧ next = "imgType".toList) ∧
      b.title ≠ none := by
  have hnodup := h.nodup (horder.nodup_iff.2 (nodup_parts b))
  have hfirst := mem_parts_valued (horder.subset (h.subset (by simp)) : .valued name value ∈ b.parts)
  have hsecond := mem_parts_valued (horder.subset (h.subset (by simp)) : .valued next other ∈ b.parts)
  rcases hfirst with ⟨rfl, hv⟩ | ⟨rfl, hv⟩ <;> rcases hsecond with ⟨rfl, hw⟩ | ⟨rfl, hw⟩
  · simp [Option.some.inj (hv.symm.trans hw)] at hnodup
  · exact ⟨.inl ⟨rfl, rfl⟩, by simp [hw]⟩
  · exact ⟨.inr ⟨rfl, rfl⟩, by simp [hv]⟩
  · simp [Option.some.inj (hv.symm.trans hw)] at hnodup

section

variable {b : BlockSettings} {ps : List Part} {s : Text} (htype : ∀ v ∈ b.imageType, v ≠ [] ∧ '"' ∉ v)
  (htitle : ∀ v ∈ b.title, v ≠ [] ∧ '"' ∉ v) (horder : ps.Perm b.parts) (hs : Spaced ps s)
  (hplain : Unmistakable ps)

include htype htitle horder hs hplain

/-- A value is sought by a name that it has, or by the other name of a title that is not set. -/
theorem value?_spaced {name : Text}
    (hname : name = "imgType".toList ∨ name = "imgTitle".toList ∨ name = "title".toList ∧ b.title = none) :
    value? name s = ps.findSome? (Part.valueOf? name) := by
  have hletters : ∀ n ∈ (["imgType", "imgTitle", "title"] : List Text), n ≠ [] ∧ ∀ c ∈ n, isWordChar c = true := by
    decide +kernel
  have hknown : name ∈ (["imgType", "imgTitle", "title"] : List Text) := by
    rcases hname with rfl | rfl | ⟨rfl, -⟩ <;> simp
  obtain ⟨hne, hword⟩ := hletters name hknown
  refine valueBehind?_spaced (u := []) hs ?_ ?_ hword hne ?_ List.not_mem_nil fun _ => rfl
  · intro n v hm
    rcases mem_parts_valued (horder.subset hm) with ⟨rfl, hv⟩ | ⟨rfl, hv⟩
    · exact ⟨(hletters _ (by simp)).2, htype v hv⟩
    · exact ⟨(hletters _ (by simp)).2, htitle v hv⟩
  · intro w hm
    rcases mem_parts.1 (horder.subset hm) with ⟨_, _, he⟩ | ⟨_, _, he⟩ | ⟨_, he⟩ | ⟨_, he⟩
    · cases he
    · cases he
    · cases he; decide
    · cases he; decide
  · -- of two values the second one has the name that is sought
    intro n v rest hsuffix hother hann n' v' hm
    have hsub : [Part.valued n v, .valued n' v'].Sublist ps :=
      ((List.singleton_sublist.2 hm).cons_cons _).trans hsuffix.sublist
    have hnot := hplain.names _ _ _ _ hsub
    obtain ⟨hnames, hset⟩ := names_of_sublist horder hsub
    rcases hname with rfl | rfl | ⟨-, hnone⟩
    · rcases hnames with ⟨rfl, rfl⟩ | ⟨rfl, rfl⟩
      exacts [hother rfl, hnot hann]
    · rcases hnames with ⟨rfl, rfl⟩ | ⟨rfl, rfl⟩
      exacts [hnot hann, hother rfl]
    · exact hset hnone

theorem value?_eq {name : Text} {o : Option Text}
    (hname : name = "imgType".toList ∨ name = "imgTitle".toList ∨ name = "title".toList ∧ b.title = none)
    (ho : ∀ v, .valued name v ∈ b.parts ↔ o = some v) : value? name s = o := by
  rw [value?_spaced htype htitle horder hs hplain hname]
  exact findSome?_valueOf fun v => horder.mem_iff.trans (ho v)

end

/-- Settings that are written down, in any order and with nothing in quotes that could be mistaken, are read back. -/
theorem read_spaced {b : BlockSettings} {ps : List Part} {s : Text} (htype : ∀ v ∈ b.imageType, v ≠ [] ∧ '"' ∉ v)
    (htitle : ∀ v ∈ b.title, v ≠ [] ∧ '"' ∉ v) (horder : ps.Perm b.parts) (hs : Spaced ps s)
    (hplain : Unmistakable ps) : read s = b := by
  have himage : value? "imgType" s = b.imageType :=
    value?_eq htype htitle horder hs hplain (.inl rfl) fun v => by simp [mem_parts]
  have htitles : value? "imgTitle" s = b.title :=
    value?_eq htype htitle horder hs hplain (.inr (.inl rfl)) fun v => by simp [mem_parts]
  -- the other name of a title is only sought where there is none
  have hother : b.title = none → value? "title" s = none := fun hnone =>
    value?_eq htype htitle horder hs hplain (.inr (.inr ⟨rfl, hnone⟩)) fun v => by simp [mem_parts]
  have hsource : s.words.contains "hideSource".toList = b.hidesSource := by
    rw [Bool.eq_iff_iff, List.contains_iff_mem, mem_words_spaced horder hs hplain (by decide), horder.mem_iff, mem_parts]
    simp
  have hdescription : s.words.contains "hideA11y".toList = b.hidesDescription := by
    rw [Bool.eq_iff_iff, List.contains_iff_mem, mem_words_spaced horder hs hplain (by decide), horder.mem_iff, mem_parts]
    simp
  have hwhole : (value? "imgTitle" s).or (value? "title" s) = b.title := by
    rw [htitles]
    cases ht : b.title with
    | none => rw [hother ht, Option.none_or]
    | some v => rfl
  rw [read, himage, hsource, hdescription, Option.orElse_eq_orElse, Option.orElse_eq_or, hwhole]

/-- A title that holds a flag may stand behind that flag. -/
theorem read_spaced_flagged :
    Unmistakable [.flag "hideSource", .valued "imgTitle" "on hideSource or title=", .valued "imgType" "mermaid"] ∧
      read "hideSource  imgTitle=\"on hideSource or title=\" imgType=\"mermaid\"" =
        ⟨some "mermaid", some "on hideSource or title=", true, false⟩ := by
  have hplain : Unmistakable
      [.flag "hideSource", .valued "imgTitle" "on hideSource or title=", .valued "imgType" "mermaid"] := by
    have hvalues : ∀ v ∈ (["on hideSource or title=", "mermaid"] : List Text),
        (∀ w ∈ flagWords, w ∈ words v → w = "hideSource".toList) ∧
          ∀ n ∈ (["imgTitle", "imgType"] : List Text), ¬ n ++ ['='] <:+ v := by decide +kernel
    constructor
    · intro name value hm word hword hholds
      have hv : value ∈ (["on hideSource or title=", "mermaid"] : List Text) := by
        rcases (by simpa using hm : _ ∨ _) with ⟨-, rfl⟩ | ⟨-, rfl⟩ <;> simp
      rw [(hvalues value hv).1 word hword hholds.mem_words]
      exact List.mem_cons_self
    · intro name value next other hsub hann
      have hfirst := hsub.subset List.mem_cons_self
      have hsecond := hsub.subset (List.mem_cons_of_mem _ List.mem_cons_self)
      have hv : value ∈ (["on hideSource or title=", "mermaid"] : List Text) := by
        rcases (by simpa using hfirst : _ ∨ _) with ⟨-, rfl⟩ | ⟨-, rfl⟩ <;> simp
      have hn : next ∈ (["imgTitle", "imgType"] : List Text) := by
        rcases (by simpa using hsecond : _ ∨ _) with ⟨rfl, -⟩ | ⟨rfl, -⟩ <;> simp
      exact (hvalues value hv).2 next hn hann.suffix
  have hs : Spaced [.flag "hideSource", .valued "imgTitle" "on hideSource or title=", .valued "imgType" "mermaid"]
      "hideSource  imgTitle=\"on hideSource or title=\" imgType=\"mermaid\"" :=
    .cons _ 2 (fun _ => by decide) (.cons _ 1 (fun _ => by decide) (.cons _ 0 (by simp) .nil))
  refine ⟨hplain, read_spaced ?_ ?_ ?_ hs hplain⟩
  · decide
  · decide
  · decide

/-- A word of a title hides the source, and the end of a title takes the place of an image type. -/
theorem read_mistaken :
    read "imgTitle=\"how to hideSource here\"" = ⟨none, some "how to hideSource here", true, false⟩ ∧
      read "imgTitle=\"about imgType=\" imgType=\"mermaid\"" =
        ⟨some " imgType=", some "about imgType=", false, false⟩ := by
  decide +kernel

end DiagramProse.BlockSettings
