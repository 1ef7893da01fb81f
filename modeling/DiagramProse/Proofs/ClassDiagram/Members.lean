import DiagramProse.Proofs.ClassDiagram.Notation

/-!
Members are read back from their lines (`Attribute.read_line`, `Method.read_line`), in both dialects. The
parameters of a method are told apart by the commas outside brackets; a text that reading leaves in one
piece, whatever follows it, is a `Piece`.
-/

namespace DiagramProse

open Text

/-! ## Names -/

theorem ne_nil_of_isClassName {s : Text} (h : isClassName s = true) : s ≠ [] := by
  rintro rfl
  simp [isClassName] at h

/-- What is no letter, no digit and none of four marks is not in the name of a class. -/
theorem not_mem_of_isClassName {s : Text} {d : Char} (h : isClassName s = true)
    (hd : (isAlphanumeric d || d == '_' || d == '.' || d == '$' || d == ':') = false) : d ∉ s := by
  rw [isClassName, Bool.and_eq_true] at h
  exact not_mem_of_all h.2 hd

theorem not_blank_of_isClassName {s : Text} (h : isClassName s = true) : ∀ c ∈ s, isBlank c = false := by
  intro c hc
  rw [isClassName, Bool.and_eq_true, List.all_eq_true] at h
  have hc := h.2 c hc
  simp only [Bool.or_eq_true, beq_iff_eq] at hc
  rcases hc with (((hc | rfl) | rfl) | rfl) | rfl
  exacts [not_blank_of_isAlphanumeric hc, rfl, rfl, rfl, rfl]

/-! ## Types -/

/-- The characters of types. -/
def isTypeChar (c : Char) : Bool := isNameChar c || "<>[], ".toList.contains c

theorem isTypeChar_of_isBracketed {s : Text} {depth : Nat} (h : isBracketed depth s = true) :
    s.all isTypeChar = true := by
  induction s generalizing depth with
  | nil => rfl
  | cons c s ih =>
    rw [List.all_cons, Bool.and_eq_true]
    unfold isBracketed at h
    split at h
    · next hc => exact ⟨by rcases hc with rfl | rfl <;> decide, ih h⟩
    · split at h
      · next hc =>
        cases depth with
        | zero => cases h
        | succ depth => exact ⟨by rcases hc with rfl | rfl <;> decide, ih h⟩
      · split at h
        · next hc =>
          rw [Bool.and_eq_true] at h
          exact ⟨by subst hc; decide, ih h.2⟩
        · rw [Bool.and_eq_true, Bool.or_eq_true, beq_iff_eq] at h
          refine ⟨?_, ih h.2⟩
          rcases h.1 with hc | rfl
          · simp [isTypeChar, hc]
          · decide

/-- What a type is made of, and how it begins and ends. -/
structure TypeText (s : Text) : Prop where
  ne_nil : s ≠ []
  tight : Tight s
  chars : s.all isTypeChar = true
  bracketed : isBracketed 0 s = true

theorem typeText {s : Text} (h : isTypeExpression s = true) : TypeText s := by
  simp only [isTypeExpression, Bool.and_eq_true, beq_iff_eq] at h
  obtain ⟨⟨hne, ht⟩, hb⟩ := h
  exact ⟨by simpa using hne, trim_eq_self_iff.1 ht, isTypeChar_of_isBracketed hb, hb⟩

theorem withColon_tight {s : Text} {after : Option Text} (hs : Tight s) (hne : s ≠ [])
    (ha : ∀ t ∈ after, Tight t ∧ t ≠ []) : Tight (withColon s after) := by
  cases after with
  | none => exact hs
  | some t =>
    obtain ⟨ht, hne'⟩ := ha t rfl
    exact tight_append hs ht hne hne'

theorem not_mem_withColon {s : Text} {after : Option Text} {d : Char} (hs : d ∉ s) (hd : d ∉ " : ".toList)
    (ha : ∀ t ∈ after, d ∉ t) : d ∉ withColon s after := by
  cases after with
  | none => exact hs
  | some t =>
    have ht := ha t rfl
    simp_all [withColon]

theorem withType_tight {s : Text} {typeName : Option Text} (hs : Tight s) (hne : s ≠ [])
    (ht : typeName.all isTypeExpression = true) : Tight (withColon s typeName) := by
  refine withColon_tight hs hne fun t hm => ?_
  have htype := typeText ((Option.all_eq_true ..).1 ht t hm)
  exact ⟨htype.tight, htype.ne_nil⟩

/-- What stands neither in a name or signature nor in types does not stand in both together. -/
theorem not_mem_withType {s : Text} {typeName : Option Text} {d : Char} (hs : d ∉ s)
    (ht : typeName.all isTypeExpression = true) (hd : isTypeChar d = false) (hc : d ≠ ':') :
    d ∉ withColon s typeName := by
  have hd' : d ≠ ' ' := by rintro rfl; simp [isTypeChar] at hd
  refine not_mem_withColon hs (by simp [hd', hc]) fun t hm => ?_
  exact not_mem_of_all (typeText ((Option.all_eq_true ..).1 ht t hm)).chars hd

/-! ## Parameters -/

/-- Puts a text in front of the first piece. -/
def putBefore (s : Text) : List Text → List Text
  | [] => [s]
  | w :: ws => (s ++ w) :: ws

theorem putBefore_append (s t : Text) (ws : List Text) :
    putBefore (s ++ t) ws = putBefore s (putBefore t ws) := by
  cases ws <;> simp [putBefore]

/-- A text that is not split, whatever follows it. -/
def Piece (s : Text) : Prop := ∀ rest, splitParameters 0 (s ++ rest) = putBefore s (splitParameters 0 rest)

theorem Piece.append {s t : Text} (hs : Piece s) (ht : Piece t) : Piece (s ++ t) := by
  intro rest
  rw [List.append_assoc, hs, ht, putBefore_append]

theorem splitParameters_cons {c : Char} {depth : Int} (h : ¬((c = ',' ∨ c = ';') ∧ depth ≤ 0)) (s : Text) :
    splitParameters depth (c :: s) = putBefore [c] (splitParameters (depth + bracketStep c) s) := by
  rw [splitParameters, if_neg h]
  split <;> simp_all [putBefore]

theorem splitParameters_ne_nil (depth : Int) (s : Text) : splitParameters depth s ≠ [] := by
  cases s with
  | nil => simp [splitParameters]
  | cons c s =>
    unfold splitParameters
    split
    · simp
    · split <;> simp

/-- A text without brackets, commas and semicolons. -/
theorem piece_of_forall {s : Text} (h : ∀ c ∈ s, c ∉ ",;<>[]\x7b\x7d".toList) : Piece s := by
  intro rest
  induction s with
  | nil =>
    obtain ⟨w, ws, hw⟩ := List.exists_cons_of_ne_nil (splitParameters_ne_nil 0 rest)
    simp [hw, putBefore]
  | cons c s ih =>
    have hc := h c (by simp)
    have hstep : bracketStep c = 0 := by simp_all [bracketStep]
    rw [List.cons_append, splitParameters_cons (by simp_all), hstep, Int.add_zero,
      ih fun d hd => h d (by simp [hd]), ← putBefore_append]
    rfl

/-- Brackets that are closed again keep a text together. -/
theorem splitParameters_of_isBracketed {s : Text} {depth : Nat} (h : isBracketed depth s = true) (rest : Text) :
    splitParameters depth (s ++ rest) = putBefore s (splitParameters 0 rest) := by
  induction s generalizing depth with
  | nil =>
    obtain rfl : depth = 0 := by simpa [isBracketed] using h
    obtain ⟨w, ws, hw⟩ := List.exists_cons_of_ne_nil (splitParameters_ne_nil 0 rest)
    simp [hw, putBefore]
  | cons c s ih =>
    -- it is enough to know how deep in brackets the text behind `c` is
    suffices hstep : ∃ depth' : Nat, isBracketed depth' s = true ∧ (depth : Int) + bracketStep c = depth' ∧
        ¬((c = ',' ∨ c = ';') ∧ (depth : Int) ≤ 0) by
      obtain ⟨depth', hs, hd, hc⟩ := hstep
      rw [List.cons_append, splitParameters_cons hc, hd, ih hs, ← putBefore_append]
      rfl
    unfold isBracketed at h
    split at h
    · next hc =>
      have hstep : bracketStep c = 1 := by rcases hc with rfl | rfl <;> rfl
      exact ⟨depth + 1, h, by rw [hstep]; rfl, by rcases hc with rfl | rfl <;> simp⟩
    · next ho =>
      split at h
      · next hc =>
        cases depth with
        | zero => cases h
        | succ depth =>
          have hstep : bracketStep c = -1 := by rcases hc with rfl | rfl <;> rfl
          exact ⟨depth, h, by rw [hstep]; omega, by rcases hc with rfl | rfl <;> simp⟩
      · next hc =>
        split at h
        · next hcomma =>
          subst hcomma
          rw [Bool.and_eq_true] at h
          have hd : depth ≠ 0 := by simpa using h.1
          exact ⟨depth, h.2, by simp [bracketStep], by omega⟩
        · next hcomma =>
          rw [Bool.and_eq_true] at h
          have hplain : ∀ d, (isNameChar d || d == ' ') = false → c ≠ d := by
            rintro d hd rfl
            rw [h.1] at hd
            cases hd
          have hs : c ≠ ';' := hplain _ (by decide)
          have hl : c ≠ '\x7b' := hplain _ (by decide)
          have hr : c ≠ '\x7d' := hplain _ (by decide)
          exact ⟨depth, h.2, by simp_all [bracketStep], by simp [hcomma, hs]⟩

theorem Parameter.piece {p : Parameter} (h : p.isWritable = true) : Piece p.text := by
  simp only [isWritable, Bool.and_eq_true] at h
  obtain ⟨hname, htype⟩ := h
  have hp : Piece p.name := by
    have hdelimiters : ∀ d ∈ ",;<>[]\x7b\x7d".toList, isNameChar d = false := by decide
    exact piece_of_forall fun c hc hd => not_mem_of_isPlainName hname (hdelimiters c hd) hc
  rcases p with ⟨name, _ | t⟩
  · exact hp
  · have htype := typeText (s := t) (by simpa using htype)
    have hcolon : Piece " : " := piece_of_forall (by decide)
    exact (hp.append hcolon).append (splitParameters_of_isBracketed htype.bracketed)

/-! ## Names and types -/

theorem cutAt?_withColon {s : Text} (hs : ':' ∉ s) (t : Text) :
    cutAt? (· == ':') (withColon s (some t)) = some (s ++ [' '], ' ' :: t) := by
  have hl : withColon s (some t) = (s ++ [' ']) ++ ':' :: (' ' :: t) := by simp [withColon]
  rw [hl]
  exact cutAt?_char_append (by simp [hs]) _

/-- A parameter is read back. -/
theorem Parameter.read?_text {p : Parameter} (h : p.isWritable = true) :
    Parameter.read? p.text = some p := by
  rcases p with ⟨name, typeName⟩
  simp only [isWritable, Bool.and_eq_true] at h
  obtain ⟨hname, htype⟩ := h
  have hne := ne_nil_of_isPlainName hname
  have hblank := not_blank_of_isPlainName hname
  have htight := tight_of_not_blank hblank
  have hcolon : ':' ∉ name := not_mem_of_isPlainName hname (by decide)
  have ht : Tight (withColon name typeName) := withType_tight htight hne htype
  change Parameter.read? (withColon name typeName) = _
  rw [read?, trim_eq_self ht]
  cases typeName with
  | none => simp [withColon, hne, cutAt?_char_eq_none hcolon, cutAtLast?_eq_none hblank]
  | some t =>
    have htype := typeText (s := t) (by simpa using htype)
    have hw : (withColon name (some t)).isEmpty = false := by simp [withColon]
    simp [hw, cutAt?_withColon hcolon, trim_append_space htight, trim_space_cons, trim_eq_self htype.tight,
      nonempty?, htype.ne_nil]

theorem splitParameters_comma (s : Text) :
    splitParameters 0 (", " ++ s) = [] :: putBefore " " (splitParameters 0 s) := by
  have hspace : Piece " " := piece_of_forall (by decide)
  rw [← hspace s]
  rfl

theorem filterMap_putBefore (ws : List Text) :
    (putBefore " " ws).filterMap Parameter.read? = ws.filterMap Parameter.read? := by
  cases ws with
  | nil => rfl
  | cons w ws =>
    have hw : Parameter.read? (' ' :: w) = Parameter.read? w := by
      rw [Parameter.read?, Parameter.read?, trim_space_cons]
    simp [putBefore, List.filterMap_cons, hw]

/-- Parameters with commas between them are read one by one. -/
theorem readParameters_join {ps : List Parameter} (h : ps.all Parameter.isWritable = true) :
    readParameters (join ", " (ps.map Parameter.text)) = ps := by
  unfold readParameters join
  induction ps with
  | nil => rfl
  | cons p ps ih =>
    rw [List.all_cons, Bool.and_eq_true] at h
    have hp := Parameter.piece h.1
    have hread := Parameter.read?_text h.1
    cases ps with
    | nil =>
      have hs := hp []
      rw [List.append_nil] at hs
      simp [hs, splitParameters, putBefore, hread]
    | cons q ps =>
      -- the comma is cut at; the space behind it stays with the next piece, and is trimmed
      have hs := hp (", " ++ (", " : Text).intercalate ((q :: ps).map Parameter.text))
      rw [List.map_cons, List.map_cons, List.intercalate_cons_cons, List.append_assoc, ← List.map_cons, hs,
        splitParameters_comma, putBefore, List.append_nil, List.filterMap_cons, hread, filterMap_putBefore,
        ih h.2]

/-! ## Members -/

theorem Visibility.split_sign {v : Visibility} (hv : v ≠ .unspecified) {s : Text}
    (hs : ∀ c ∈ s.head?, isBlank c = false) : Visibility.split (v.sign ++ s) = (v, s) := by
  cases v with
  | unspecified => exact absurd rfl hv
  | _ => simp [split, sign, trimStart, isBlank, ofSign?, dropWhile_eq_self hs]

theorem dropModifiers_eq_self {s : Text} (h : '\x7b' ∉ s) : dropModifiers s = (false, s) := by
  have hm : ∀ m ∈ memberModifiers, contains s m = false := by
    have hbrace : ∀ m ∈ memberModifiers, '\x7b' ∈ m := by decide
    exact fun m hm => not_contains (hbrace m hm) h
  unfold dropModifiers
  generalize memberModifiers = ms at hm
  induction ms with
  | nil => rfl
  | cons m ms ih =>
    have hi := ih fun x hx => hm x (by simp [hx])
    rw [List.foldl_cons]
    simpa [hm m] using hi

/-- What follows the sign of a member and is left alone by its reader. -/
structure MemberBody (s : Text) : Prop where
  head : s.head?.any isNameChar = true
  tight : Tight s
  chars : ∀ d ∈ "\x7b$*\n".toList, d ∉ s

theorem MemberBody.trim_dropSigns {s : Text} (h : MemberBody s) :
    trim ((trim s).dropEndWhile isClassifierSign) = s := by
  have hlast : ∀ c ∈ s.getLast?, isClassifierSign c = false := by
    intro c hc
    have hm : c ∈ s := List.mem_of_getLast? hc
    have hd : c ≠ '$' := fun e => h.chars '$' (by decide) (e ▸ hm)
    have hs : c ≠ '*' := fun e => h.chars '*' (by decide) (e ▸ hm)
    simp [isClassifierSign, hd, hs]
  rw [trim_eq_self h.tight, dropEndWhile_eq_self hlast, trim_eq_self h.tight]

theorem tight_sign_append {v : Visibility} (hv : v ≠ .unspecified) {s : Text} (h : MemberBody s) :
    Tight (v.sign ++ s) := by
  have hne : s ≠ [] := by rintro rfl; simpa using h.head
  have hs : Tight (v.sign ++ [] ++ s) :=
    tight_append (by cases v <;> decide) h.tight (by cases v <;> simp_all [Visibility.sign]) hne
  rwa [List.append_nil] at hs

theorem Member.read?_sign {v : Visibility} (hv : v ≠ .unspecified) {s : Text} (h : MemberBody s)
    (dialect : Dialect) :
    Member.read? (v.sign ++ s) dialect = some (match parenthesised? s with
      | some (before, inner, after) => .method (Method.ofParts v before inner after)
      | none => .field (Attribute.ofBody v s dialect)) := by
  have hbrace : '\x7b' ∉ v.sign ++ s := by
    have := h.chars '\x7b' (by decide)
    cases v <;> simpa [Visibility.sign] using this
  have ht := tight_sign_append hv h
  obtain ⟨c, u, rfl⟩ : ∃ c u, s = c :: u := by
    cases s with
    | nil => simpa using h.head
    | cons c u => exact ⟨c, u, rfl⟩
  have hc : isNameChar c = true := by simpa using h.head
  -- only a minus sign could begin a separator, and a name follows it
  have hsep : startsWithAny (v.sign ++ c :: u) memberSeparators = false := by
    have hdash : c ≠ '-' := by rintro rfl; exact absurd hc (by decide)
    cases v <;>
      simp_all [startsWithAny, startsWith, memberSeparators, Visibility.sign, List.isPrefixOf_cons_cons,
        Ne.symm hdash]
  have hsplit := Visibility.split_sign (s := c :: u) hv h.tight.head
  have hbody := h.trim_dropSigns
  rw [Member.read?, trim_eq_self ht, dropModifiers_eq_self hbrace]
  simp only [trim_eq_self ht, hsep, hsplit, hbody]
  cases parenthesised? (c :: u) <;> simp

theorem head_isNameChar {s : Text} (h : isPlainName s = true) (t : Text) :
    (s ++ t).head?.any isNameChar = true := by
  cases s with
  | nil => exact absurd rfl (ne_nil_of_isPlainName h)
  | cons c s => simpa using isNameChar_of_isPlainName h c (by simp)

theorem withColon_eq (s : Text) (typeName : Option Text) :
    withColon s typeName = s ++ withColon [] typeName := by
  cases typeName <;> simp [withColon]

/-! ## Attributes -/

theorem Attribute.visibility_ne {a : Attribute} (h : a.isWritable = true) :
    a.visibility ≠ .unspecified := by
  simp only [isWritable, Bool.and_eq_true, bne_iff_ne] at h
  exact h.1.1

theorem Attribute.memberBody {a : Attribute} (h : a.isWritable = true) : MemberBody a.signature := by
  simp only [isWritable, Bool.and_eq_true] at h
  obtain ⟨⟨-, hname⟩, htype⟩ := h
  have htight := tight_of_not_blank (not_blank_of_isPlainName hname)
  refine ⟨?_, withType_tight htight (ne_nil_of_isPlainName hname) htype, fun d hd => ?_⟩
  · rw [signature, withColon_eq]
    exact head_isNameChar hname _
  · have hd' : isNameChar d = false ∧ isTypeChar d = false ∧ d ≠ ':' := by
      revert d
      decide
    exact not_mem_withType (not_mem_of_isPlainName hname hd'.1) htype hd'.2.1 hd'.2.2

/-- An attribute is read back from its line. -/
theorem Attribute.read?_line {a : Attribute} (h : a.isWritable = true) (dialect : Dialect) :
    Member.read? a.line dialect = some (.field a) := by
  have hbody := a.memberBody h
  rcases a with ⟨visibility, name, typeName⟩
  simp only [isWritable, Bool.and_eq_true, bne_iff_ne] at h
  obtain ⟨⟨hv, hname⟩, htype⟩ := h
  have hblank := not_blank_of_isPlainName hname
  have htight := tight_of_not_blank hblank
  have hne := ne_nil_of_isPlainName hname
  have hcolon : ':' ∉ name := not_mem_of_isPlainName hname (by decide)
  have hparen : parenthesised? (withColon name typeName) = none := by
    have hmem : '(' ∉ withColon name typeName :=
      not_mem_withType (not_mem_of_isPlainName hname (by decide)) htype (by decide) (by decide)
    simp [parenthesised?, cutAt?_char_eq_none hmem]
  rw [line, Member.read?_sign hv hbody, signature, hparen]
  cases typeName with
  | none => cases dialect <;> simp [ofBody, withColon, cutAt?_char_eq_none hcolon, words_of_forall hne hblank]
  | some t =>
    have htype := typeText (s := t) (by simpa using htype)
    simp [ofBody, cutAt?_withColon hcolon, trim_append_space htight, trim_space_cons,
      trim_eq_self htype.tight, nonempty?, htype.ne_nil]

/-! ## Methods -/

theorem not_mem_parameters {ps : List Parameter} (h : ps.all Parameter.isWritable = true) {d : Char}
    (hd : isNameChar d = false) (ht : isTypeChar d = false) (hc : d ≠ ':') :
    d ∉ join ", " (ps.map Parameter.text) := by
  have hsep : d ∉ (", " : Text) := by
    intro hm
    have hall : ∀ x ∈ (", " : Text), isTypeChar x = true := by decide
    rw [hall d hm] at ht
    cases ht
  refine not_mem_join hsep fun t hm => ?_
  obtain ⟨p, hp, rfl⟩ := List.mem_map.1 hm
  have hw := List.all_eq_true.1 h p hp
  simp only [Parameter.isWritable, Bool.and_eq_true] at hw
  exact not_mem_withType (not_mem_of_isPlainName hw.1 hd) hw.2 ht hc

theorem Method.visibility_ne {m : Method} (h : m.isWritable = true) : m.visibility ≠ .unspecified := by
  simp only [isWritable, Bool.and_eq_true, bne_iff_ne] at h
  exact h.1.1.1

theorem Method.memberBody {m : Method} (h : m.isWritable = true) : MemberBody m.signature := by
  simp only [isWritable, Bool.and_eq_true] at h
  obtain ⟨⟨⟨-, hname⟩, hps⟩, htype⟩ := h
  have htight := tight_of_not_blank (not_blank_of_isPlainName hname)
  refine ⟨?_, ?_, fun d hd => ?_⟩
  · rw [signature, withColon_eq, List.append_assoc, List.append_assoc, List.append_assoc]
    exact head_isNameChar hname _
  · refine withType_tight ?_ (by simp) htype
    rw [List.append_assoc m.name]
    exact tight_append htight (by decide) (ne_nil_of_isPlainName hname) (by decide)
  · have hd' : isNameChar d = false ∧ isTypeChar d = false ∧ d ≠ ':' ∧ d ∉ "()".toList := by
      revert d
      decide
    obtain ⟨hn, ht, hc, hparen⟩ := hd'
    refine not_mem_withType ?_ htype ht hc
    have hname := not_mem_of_isPlainName hname hn
    have hps := not_mem_parameters hps hn ht hc
    simp_all

/-- The return type is found behind the parameters. -/
theorem Method.ofParts_eq {m : Method} (h : m.isWritable = true) :
    Method.ofParts m.visibility m.name (join ", " (m.parameters.map Parameter.text)) (withColon [] m.returnType) =
      m := by
  rcases m with ⟨visibility, name, parameters, returnType⟩
  simp only [isWritable, Bool.and_eq_true, bne_iff_ne] at h
  obtain ⟨⟨⟨-, hname⟩, hps⟩, htype⟩ := h
  have hblank := not_blank_of_isPlainName hname
  have hn : trim name = name := trim_eq_self (tight_of_not_blank hblank)
  rw [ofParts, hn, cutAtLast?_eq_none hblank, readParameters_join hps]
  cases returnType with
  | none => rfl
  | some t =>
    have htype := typeText (s := t) (by simpa using htype)
    have hcolon : Tight (':' :: ' ' :: t) := by
      have : Tight ([':'] ++ [' '] ++ t) := tight_append (by decide) htype.tight (by decide) htype.ne_nil
      simpa using this
    have htail : trim (withColon [] (some t)) = ':' :: ' ' :: t := trim_eq_self hcolon
    have hdrop : (':' :: ' ' :: t).dropWhile isClassifierSign = ':' :: ' ' :: t := rfl
    have htrim : trim (' ' :: t) = t := by rw [trim_space_cons, trim_eq_self htype.tight]
    simp [htail, hdrop, trim_eq_self hcolon, dropPrefix?, htrim, htype.ne_nil]

/-- A method is read back from its line. -/
theorem Method.read?_line {m : Method} (h : m.isWritable = true) (dialect : Dialect) :
    Member.read? m.line dialect = some (.method m) := by
  have hbody := m.memberBody h
  have hparts := m.ofParts_eq h
  simp only [isWritable, Bool.and_eq_true, bne_iff_ne] at h
  obtain ⟨⟨⟨hv, hname⟩, -⟩, htype⟩ := h
  have hparen : parenthesised? m.signature =
      some (m.name, join ", " (m.parameters.map Parameter.text), withColon [] m.returnType) := by
    have hl : '(' ∉ m.name := not_mem_of_isPlainName hname (by decide)
    have hr : ')' ∉ withColon [] m.returnType := not_mem_withType (by simp) htype (by decide) (by decide)
    have hsplit : m.signature =
        m.name ++ '(' :: (join ", " (m.parameters.map Parameter.text) ++ ')' :: withColon [] m.returnType) := by
      rw [signature, withColon_eq]
      simp
    rw [hsplit, parenthesised?, cutAt?_char_append hl]
    simp [cutAtLast?_char_append hr]
  rw [line, Member.read?_sign hv hbody, hparen]
  exact congrArg (fun m => some (Member.method m)) hparts

theorem Member.read?_line {m : Member} (h : m.isWritable = true) (dialect : Dialect) :
    Member.read? m.line dialect = some m := by
  cases m with
  | field a => exact a.read?_line h dialect
  | method m => exact m.read?_line h dialect

end DiagramProse
