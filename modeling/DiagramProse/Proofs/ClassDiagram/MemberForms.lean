import DiagramProse.Proofs.ClassDiagram.RoundTrip

/-!
The members of a class can be written in a body with one of them on each line, in a body on one line, or on lines
behind the class and a colon. All three give the same diagram (`ClassDiagram.read_memberForms`), with two exceptions
for the third form: a colon in the name of the class ends it too early, and two dots within the name, perhaps with
a word between them that is taken for a hint, are an arrow.
-/

namespace DiagramProse

open Text

/-! ## Members as they are printed -/

/-- A text with its type, without a space in front of the colon. -/
def typed (s : Text) (typeName : Option Text) : Text :=
  match typeName with
  | some t => s ++ ": " ++ t
  | none => s

def Attribute.print (a : Attribute) : Text := a.visibility.sign ++ typed a.name a.typeName

def Parameter.print (p : Parameter) : Text := typed p.name p.typeName

def Method.print (m : Method) : Text :=
  m.visibility.sign ++ typed (m.name ++ "(" ++ join ", " (m.parameters.map Parameter.print) ++ ")") m.returnType

def Member.print : Member → Text
  | .field a => a.print
  | .method m => m.print

/-- Types of letters, digits, underscores, brackets, commas and spaces, in any order. -/
def Attribute.isPrintable (a : Attribute) : Bool :=
  a.visibility != .unspecified && isPlainName a.name && a.typeName.all (·.all isTypeChar)

def Parameter.isPrintable (p : Parameter) : Bool := isPlainName p.name && p.typeName.all (·.all isTypeChar)

def Method.isPrintable (m : Method) : Bool :=
  m.visibility != .unspecified && isPlainName m.name && m.parameters.all Parameter.isPrintable &&
    m.returnType.all (·.all isTypeChar)

def Member.isPrintable : Member → Bool
  | .field a => a.isPrintable
  | .method m => m.isPrintable

/-- The characters behind the sign of a member. -/
def isSignatureChar (c : Char) : Bool := isTypeChar c || c == '(' || c == ')' || c == ':'

theorem isSignatureChar_of_isTypeChar {s : Text} (h : s.all isTypeChar = true) : s.all isSignatureChar = true := by
  rw [List.all_eq_true] at h ⊢
  exact fun c hc => by simp [isSignatureChar, h c hc]

theorem isSignatureChar_of_isPlainName {s : Text} (h : isPlainName s = true) : s.all isSignatureChar = true := by
  rw [List.all_eq_true]
  exact fun c hc => by simp [isSignatureChar, isTypeChar, isNameChar_of_isPlainName h c hc]

theorem typed_eq (s : Text) (typeName : Option Text) : typed s typeName = s ++ typed [] typeName := by
  cases typeName <;> simp [typed]

theorem typed_chars {s : Text} {typeName : Option Text} (hs : s.all isSignatureChar = true)
    (ht : typeName.all (·.all isTypeChar) = true) : (typed s typeName).all isSignatureChar = true := by
  cases typeName with
  | none => exact hs
  | some t =>
    have hcolon : (": " : Text).all isSignatureChar = true := by decide
    rw [typed, List.all_append, List.all_append, hs, hcolon, isSignatureChar_of_isTypeChar ht]
    rfl

theorem all_join {f : Char → Bool} {sep : Text} {ws : List Text} (hsep : sep.all f = true)
    (h : ∀ w ∈ ws, w.all f = true) : (join sep ws).all f = true := by
  rw [List.all_eq_true]
  intro c hc
  by_contra hf
  have hf : f c = false := by simpa using hf
  exact not_mem_join (not_mem_of_all hsep hf) (fun w hw => not_mem_of_all (h w hw) hf) hc

/-- A member as it is printed: its sign is `c`, and `s` begins with its name. -/
structure Signed (c : Char) (s : Text) : Prop where
  sign : c ∈ "+-#~".toList
  head : s.head?.any isNameChar = true
  chars : s.all isSignatureChar = true

theorem signed_of_name {v : Visibility} {name rest : Text} (hv : v ≠ .unspecified) (hname : isPlainName name = true)
    (h : (name ++ rest).all isSignatureChar = true) :
    ∃ c s, v.sign ++ (name ++ rest) = c :: s ∧ Signed c s := by
  obtain ⟨c, hsign, hc⟩ : ∃ c, v.sign = [c] ∧ c ∈ "+-#~".toList := by
    cases v with
    | unspecified => exact absurd rfl hv
    | «public» => exact ⟨'+', rfl, by decide⟩
    | «private» => exact ⟨'-', rfl, by decide⟩
    | «protected» => exact ⟨'#', rfl, by decide⟩
    | package => exact ⟨'~', rfl, by decide⟩
  exact ⟨c, name ++ rest, by rw [hsign]; rfl, hc, head_isNameChar hname rest, h⟩

theorem Member.print_signed {m : Member} (h : m.isPrintable = true) : ∃ c s, m.print = c :: s ∧ Signed c s := by
  cases m with
  | field a =>
    simp only [isPrintable, Attribute.isPrintable, Bool.and_eq_true, bne_iff_ne] at h
    obtain ⟨⟨hv, hname⟩, htype⟩ := h
    have hchars := typed_chars (isSignatureChar_of_isPlainName hname) htype
    rw [typed_eq] at hchars
    rw [print, Attribute.print, typed_eq]
    exact signed_of_name hv hname hchars
  | method m =>
    simp only [isPrintable, Method.isPrintable, Bool.and_eq_true, bne_iff_ne] at h
    obtain ⟨⟨⟨hv, hname⟩, hps⟩, htype⟩ := h
    have hparameters : (join ", " (m.parameters.map Parameter.print)).all isSignatureChar = true := by
      refine all_join (by decide) fun t ht => ?_
      obtain ⟨p, hp, rfl⟩ := List.mem_map.1 ht
      have hp := List.all_eq_true.1 hps p hp
      rw [Parameter.isPrintable, Bool.and_eq_true] at hp
      exact typed_chars (isSignatureChar_of_isPlainName hp.1) hp.2
    have hparen : ("(" : Text).all isSignatureChar = true ∧ (")" : Text).all isSignatureChar = true := by decide
    have hhead : (m.name ++ "(" ++ join ", " (m.parameters.map Parameter.print) ++ ")").all isSignatureChar =
        true := by
      simp only [List.all_append, isSignatureChar_of_isPlainName hname, hparameters, hparen, Bool.and_self]
    have hchars := typed_chars hhead htype
    rw [typed_eq, List.append_assoc, List.append_assoc, List.append_assoc] at hchars
    rw [print, Method.print, typed_eq, List.append_assoc, List.append_assoc, List.append_assoc]
    exact signed_of_name hv hname hchars

namespace Signed

variable {c : Char} {s : Text}

theorem not_mem (h : Signed c s) {d : Char} (hd : isSignatureChar d = false) (hd' : d ∉ "+-#~".toList) :
    d ∉ c :: s := by
  intro hm
  rcases List.mem_cons.1 hm with rfl | hm
  exacts [hd' h.sign, not_mem_of_all h.chars hd hm]

theorem sign_tight (h : Signed c s) : Tight [c] := by
  have hsigns : ∀ d ∈ "+-#~".toList, Tight [d] := by decide
  exact hsigns c h.sign

theorem trim_eq (h : Signed c s) : trim (c :: s) = c :: trimEnd s :=
  trim_append h.sign_tight (List.cons_ne_nil c []) s

/-- Blanks at the end of a member go. -/
theorem trimEnd (h : Signed c s) : Signed c (Text.trimEnd s) := by
  refine ⟨h.sign, ?_, List.all_eq_true.2 fun d hd => List.all_eq_true.1 h.chars d (dropEndWhile_subset isBlank s hd)⟩
  cases s with
  | nil => exact h.head
  | cons d s =>
    have hd : isNameChar d = true := by simpa using h.head
    have htrim : Text.trimEnd ([d] ++ s) = [d] ++ Text.trimEnd s :=
      trimEnd_append (by simpa using not_blank_of_isNameChar hd) s
    rw [List.singleton_append] at htrim
    rw [htrim]
    exact h.head

theorem isLine (h : Signed c s) : IsLine (c :: s) :=
  ⟨h.not_mem (by decide) (by decide), List.cons_ne_nil c s, fun hlast =>
    h.not_mem (d := '\r') (by decide) (by decide) (List.mem_of_getLast? hlast)⟩

theorem readable (h : Signed c s) : Readable (c :: s) (c :: Text.trimEnd s) := by
  have hsigns : ∀ d ∈ "+-#~".toList, d ∉ skippedHeads := by decide
  exact readable_of_head (hsigns c h.sign) h.isLine h.trim_eq

theorem readStereotypeLine?_eq_none (h : Signed c s) : readStereotypeLine? (c :: s) = none := by
  have hc : c ≠ '<' := by
    rintro rfl
    exact absurd h.sign (by decide)
  simp [readStereotypeLine?, dropPrefix?, hc]

end Signed

/-! ## The class that is read -/

/-- A member is trimmed before all else. -/
theorem Member.read?_trim (s : Text) (dialect : Dialect) :
    Member.read? (trim s) dialect = Member.read? s dialect := by
  rw [Member.read?, Member.read?, trim_eq_self (tight_trim s)]

/-- A class with the members that are read from some texts. -/
def Classifier.ofTexts (dialect : Dialect) (name : Text) (texts : List Text) : Classifier :=
  texts.foldl (fun c t => c.addMember? (Member.read? t dialect)) (.ofName name)

theorem Classifier.ofTexts_trim (dialect : Dialect) (name : Text) (texts : List Text) :
    ofTexts dialect name (texts.map trim) = ofTexts dialect name texts := by
  rw [ofTexts, List.foldl_map]
  simp only [Member.read?_trim]
  rfl

namespace ClassDiagram

/-- The diagram of one class. -/
def single (c : Classifier) : ClassDiagram := ⟨[c], [], [], []⟩

variable {dialect : Dialect} {c : Classifier} {name : Text}

theorem addMember_single (hname : c.name = name) (text : Text) :
    (single c).addMember name text dialect = single (c.addMember? (Member.read? text dialect)) := by
  rw [addMember, alterClass, single, Classifier.alter, if_pos hname]
  rfl

theorem foldl_addMember_single (hname : c.name = name) (texts : List Text) :
    texts.foldl (fun d t => d.addMember name t dialect) (single c) =
      single (texts.foldl (fun c t => c.addMember? (Member.read? t dialect)) c) := by
  induction texts generalizing c with
  | nil => rfl
  | cons t texts ih =>
    rw [List.foldl_cons, addMember_single hname, ih ((Classifier.name_addMember? _ c).trans hname), List.foldl_cons]

theorem declare_empty (opens : Bool) (texts : List Text) :
    empty.declare ⟨name, none, [], opens, texts⟩ dialect = single (.ofTexts dialect name texts) :=
  foldl_addMember_single (c := .ofName name) rfl texts

end ClassDiagram

/-! ## Names and declarations -/

/-- A letter other than a to z. -/
def beginsName (c : Char) : Bool := !c.isLower && isAlphabetic c

/-- The name of a class that begins with a capital letter, or with one of another alphabet. -/
structure ClassName (name : Text) : Prop where
  isClassName : isClassName name = true
  first : name.head?.any beginsName = true

namespace ClassName

variable {name : Text}

theorem exists_cons (h : ClassName name) :
    ∃ c s, name = c :: s ∧ c ∉ skippedHeads ∧ c ∉ wordHeads ∧ c ≠ ':' := by
  have hheads : (∀ d ∈ skippedHeads, beginsName d = false) ∧ (∀ d ∈ wordHeads, beginsName d = false) ∧
      beginsName ':' = false := by decide +kernel
  obtain ⟨hskipped, hword, hcolon⟩ := hheads
  have hfirst := h.first
  cases name with
  | nil => cases hfirst
  | cons c s =>
    have hc : beginsName c = true := by simpa using hfirst
    have hne : ∀ {d : Char}, beginsName d = false → c ≠ d := by
      rintro d hd rfl
      rw [hc] at hd
      cases hd
    exact ⟨c, s, rfl, fun hm => hne (hskipped c hm) rfl, fun hm => hne (hword c hm) rfl, hne hcolon⟩

theorem not_mem (h : ClassName name) {d : Char}
    (hd : (isAlphanumeric d || d == '_' || d == '.' || d == '$' || d == ':') = false) : d ∉ name :=
  not_mem_of_isClassName h.isClassName hd

theorem tight (h : ClassName name) : Tight name := tight_of_not_blank (not_blank_of_isClassName h.isClassName)

/-- What stands in front of three colons is a name still. -/
theorem isClassName_upTo (h : ClassName name) : DiagramProse.isClassName (upTo ":::" name) = true := by
  obtain ⟨c, s, rfl, -, -, hc⟩ := h.exists_cons
  have hname := h.isClassName
  simp only [DiagramProse.isClassName, Bool.and_eq_true] at hname ⊢
  have hcut : upTo ":::" (c :: s) = c :: upTo ":::" s := by
    have hdrop : dropPrefix? (c :: s) ":::" = none := by simp [dropPrefix?, hc]
    rw [upTo, upTo, cut?, hdrop]
    cases cut? ":::" s <;> rfl
  have hstart : upTo ":::" (c :: s) ⊆ c :: s := by
    rw [upTo]
    cases hc : cut? ":::" (c :: s) with
    | none => exact fun _ hm => hm
    | some ab =>
      obtain ⟨a, b⟩ := ab
      rw [cut?_eq_some hc, List.append_assoc]
      exact List.subset_append_left _ _
  refine ⟨by rw [hcut]; rfl, List.all_eq_true.2 fun d hd => List.all_eq_true.1 hname.2 d (hstart hd)⟩

/-- A declaration, with what its reader makes of the body. -/
theorem read_class (h : ClassName name) {rest : Text} {opens : Bool} {texts : List Text} (hrest : Tight rest)
    (hbody : splitBody rest = (name, opens, texts)) :
    ClassStatement.read ("class " ++ rest) = .declaration ⟨upTo ":::" name, none, [], opens, texts⟩ :=
  ClassStatement.read_class
    (ClassDeclaration.read?_class hrest hbody (h.not_mem (by decide)) rfl h.isClassName_upTo)

end ClassName

/-! ## Lines with a class and a member -/

/-- No arrow stands in a member: only its sign could begin one, and a name follows it. -/
theorem Signed.not_contains_arrow {c : Char} {s : Text} (h : Signed c s) :
    ∀ e ∈ classArrows, contains (c :: s) e.1 = false := by
  have hshaft : ∀ e ∈ classArrows, '-' ∈ e.1 ∨ '.' ∈ e.1 := by decide
  have hsecond : ∀ e ∈ classArrows, e.1.tail.head?.any (fun d => !isNameChar d) = true := by decide +kernel
  have hdash : '-' ∉ s := not_mem_of_all h.chars (by decide)
  have hdot : '.' ∉ s := not_mem_of_all h.chars (by decide)
  -- behind the sign there is no shaft, and an arrow that begins at the sign would go on with a mark
  intro e he
  rw [Bool.eq_false_iff, Ne, contains_iff, List.infix_cons_iff]
  rintro (hstart | hin)
  · obtain ⟨d, s, rfl⟩ : ∃ d s', s = d :: s' := by
      cases s with
      | nil => cases h.head
      | cons d s => exact ⟨d, s, rfl⟩
    have hname : isNameChar d = true := by simpa using h.head
    have hsecond := hsecond e he
    rcases he' : e.1 with _ | ⟨c', _ | ⟨d', p⟩⟩ <;> rw [he'] at hsecond hstart
    · cases hsecond
    · cases hsecond
    · obtain ⟨-, hstart⟩ := List.cons_prefix_cons.1 hstart
      obtain ⟨rfl, -⟩ := List.cons_prefix_cons.1 hstart
      have hmark : isNameChar d' = false := by simpa using hsecond
      rw [hname] at hmark
      cases hmark
  · exact (hshaft e he).elim (fun hm => hdash (hin.subset hm)) fun hm => hdot (hin.subset hm)

/-- An arrow with a colon behind it has nothing on its right. -/
theorem Relation.read?_of_colon {line rest : Text}
    {found : Arrow.Split ArrowSense} (hfound : Arrow.find? (Arrow.withoutHints line) classArrows = some found)
    (hright : found.right = ':' :: rest) : Relation.read? line = none := by
  have hsplit : splitLabel found.right = ([], nonempty? (cleanLabel rest)) := by
    rw [hright]
    rfl
  have hend : RelationEnd.read? [] false = none := rfl
  rw [Relation.read?, hfound, Option.bind_eq_bind, Option.bind_some, hsplit]
  simp [hend]

namespace ClassName

variable {name : Text}

/-- No arrow but two dots stands in a name. -/
theorem arrow_eq_dots (h : ClassName name) {e : Text × ArrowSense} (he : e ∈ classArrows)
    (hin : e.1 <:+: Arrow.withoutHints name) : e.1 = ".." := by
  have hmarks : ∀ e ∈ classArrows, e.1 = ".." ∨ e.1.any ("<>|-".toList.contains ·) = true := by decide
  have hnames : ∀ d ∈ "<>|-".toList,
      (isAlphanumeric d || d == '_' || d == '.' || d == '$' || d == ':') = false := by decide
  rcases hmarks e he with hdots | hmark
  · exact hdots
  · obtain ⟨d, hd, hm⟩ := List.any_eq_true.1 hmark
    have hname : d ∉ name := h.not_mem (hnames d (List.contains_iff_mem.1 hm))
    exact absurd ((Arrow.withoutHints_loses name).sublist.subset (hin.subset hd)) hname

/-- What a class and a member behind a colon are without hints. -/
theorem withoutHints_member (h : ClassName name) {c : Char} {s : Text} (hs : Signed c s) :
    Arrow.withoutHints (name ++ ' ' :: ':' :: ' ' :: c :: s) =
      Arrow.withoutHints name ++ ' ' :: ':' :: ' ' :: c :: s := by
  have hplain : Arrow.withoutHints (':' :: ' ' :: c :: s) = ':' :: ' ' :: c :: s := by
    have hsigns : ∀ d ∈ "+-#~".toList, d.isLower = false ∧ d ≠ '[' := by decide
    have hfront : ∀ d ∈ [':', ' ', c], d.isLower = false ∧ d ≠ '[' := by
      simp only [List.forall_mem_cons]
      exact ⟨by decide, by decide, hsigns c hs.sign, by simp⟩
    refine (Arrow.withoutHints_loses _).eq_self ?_
    refine Arrow.not_holdsHint_append (s := [':', ' ', c]) hfront fun d hd => ?_
    have hdash : d ≠ '-' := fun he => not_mem_of_all hs.chars (by decide : isSignatureChar '-' = false) (he ▸ hd)
    have hdot : d ≠ '.' := fun he => not_mem_of_all hs.chars (by decide : isSignatureChar '.' = false) (he ▸ hd)
    simp [Arrow.isShaft, hdash, hdot]
  have hsplits : Arrow.SplitsHints ' ' name (':' :: ' ' :: c :: s) :=
    ⟨by decide, by decide, by decide, .inl (h.not_mem (by decide))⟩
  rw [Arrow.withoutHints_append hsplits, hplain]

/-- A class and a member behind a colon are no relation: the only arrow there may be is two dots at the end of the
name, with the colon as the next thing behind it. -/
theorem read?_member (h : ClassName name) {c : Char} {s : Text} (hs : Signed c s)
    (hdots : contains (Arrow.withoutHints name).dropLast ".." = false) :
    Relation.read? (name ++ ' ' :: ':' :: ' ' :: c :: s) = none := by
  cases hfound : Arrow.find? (Arrow.withoutHints (name ++ ' ' :: ':' :: ' ' :: c :: s)) classArrows with
  | none =>
    rw [Relation.read?, hfound]
    rfl
  | some found =>
    obtain ⟨u, v, hline, -, hright, hm⟩ := Arrow.find?_eq_some hfound
    rw [h.withoutHints_member hs] at hline
    have harrows : ∀ e ∈ classArrows, e.1 ≠ [] ∧ ' ' ∉ e.1 ∧ contains [':'] e.1 = false := by decide
    obtain ⟨hne, hspace, hcolon⟩ := harrows _ hm
    have hmember : ¬ found.token <:+: ':' :: ' ' :: c :: s := by
      have hcut := contains_append_cons hne hspace [':'] (c :: s)
      rw [hcolon, hs.not_contains_arrow _ hm] at hcut
      rw [← contains_iff]
      simpa using hcut
    -- no arrow has a space, so it stands in the name or in the member
    rcases append_eq_append_cons hspace hline.symm with ⟨b, hname, rfl⟩ | hin
    · have htoken : found.token = ".." := h.arrow_eq_dots hm ⟨u, b, by rw [hname, List.append_assoc]⟩
      have hb : b = [] := by
        by_contra hb
        rw [hname, htoken, List.dropLast_append_of_ne_nil (by simp), List.dropLast_append_of_ne_nil hb,
          Bool.eq_false_iff, Ne, contains_iff] at hdots
        exact hdots ⟨u, b.dropLast, by rw [List.append_assoc]⟩
      rw [hb, List.nil_append, trim_space_cons] at hright
      have htrim : trim ([':'] ++ ' ' :: c :: s) = [':'] ++ Text.trimEnd (' ' :: c :: s) :=
        trim_append (by decide) (by decide) _
      exact Relation.read?_of_colon hfound (hright.trans htrim)
    · exact absurd hin hmember

theorem readOneLineMember?_member (h : ClassName name) {c : Char} {s : Text} (hs : Signed c s) (hcolon : ':' ∉ name) :
    readOneLineMember? (name ++ ' ' :: ':' :: ' ' :: c :: s) = some (name, c :: Text.trimEnd s) := by
  have hcut : cutAt? (· == ':') (name ++ ' ' :: ':' :: ' ' :: c :: s) = some (name ++ [' '], ' ' :: c :: s) := by
    have hcut := cutAt?_char_append (s := name ++ [' ']) (d := ':') (by simpa using hcolon) (' ' :: c :: s)
    simpa using hcut
  have hmember : trim (' ' :: c :: s) = c :: Text.trimEnd s := (trim_space_cons _).trans hs.trim_eq
  rw [readOneLineMember?, hcut]
  simp only [Option.bind_eq_bind, Option.bind_some, trim_append_space h.tight, hmember, h.isClassName]
  rfl

/-- A member behind a class and a colon. -/
theorem read_member (h : ClassName name) {c : Char} {s : Text} (hs : Signed c s) (hcolon : ':' ∉ name)
    (hdots : contains (Arrow.withoutHints name).dropLast ".." = false) :
    ClassStatement.read (name ++ ' ' :: ':' :: ' ' :: c :: s) = .member name (c :: Text.trimEnd s) := by
  have hrelation := h.read?_member hs hdots
  have hmember := h.readOneLineMember?_member hs hcolon
  obtain ⟨d, t, rfl, -, hd, -⟩ := h.exists_cons
  rw [List.cons_append] at hrelation hmember ⊢
  rw [ClassStatement.read_wordless hd, hrelation, hmember]
  rfl

end ClassName

/-! ## Bodies on one line -/

theorem trim_append_blank (s : Text) : trim (s ++ [' ']) = trim s := by
  have hend : trimEnd (s ++ [' ']) = trimEnd s := by
    simp [trimEnd, dropEndWhile, isBlank]
  rw [← trim_trimEnd, hend, trim_trimEnd]

/-- Texts with semicolons between them are told apart again. -/
theorem splitBy_semicolons {texts : List Text} (h : ∀ t ∈ texts, ';' ∉ t ∧ trim t ≠ []) :
    ((splitBy (· == ';') (' ' :: (join "; " texts ++ [' ']))).map trim).filter (fun m => !m.isEmpty) =
      texts.map trim := by
  induction texts with
  | nil => decide
  | cons t texts ih =>
    obtain ⟨⟨ht, hne⟩, htexts⟩ := List.forall_mem_cons.1 h
    have hsemicolon : ∀ c ∈ ' ' :: t, (c == ';') = false := by
      intro c hc
      rcases List.mem_cons.1 hc with rfl | hc
      · rfl
      · simpa using fun he : c = ';' => ht (he ▸ hc)
    have hfront : trim (' ' :: t) = trim t := trim_space_cons t
    have hempty : (trim t).isEmpty = false := by simpa using hne
    cases texts with
    | nil =>
      have hlast : ∀ c ∈ ' ' :: (t ++ [' ']), (c == ';') = false := by
        intro c hc
        rcases List.mem_append.1 (show c ∈ (' ' :: t) ++ [' '] from hc) with hc | hc
        · exact hsemicolon c hc
        · rw [List.mem_singleton.1 hc]
          rfl
      have htrim : trim (' ' :: (t ++ [' '])) = trim t := (trim_append_blank (' ' :: t)).trans hfront
      rw [join, List.intercalate_singleton, splitBy_of_forall hlast]
      simp [htrim, hempty]
    | cons u texts =>
      -- the space behind a semicolon is the space in front of what is left
      have hjoin : ' ' :: (join "; " (t :: u :: texts) ++ [' ']) =
          (' ' :: t) ++ ';' :: (' ' :: (join "; " (u :: texts) ++ [' '])) := by
        rw [join, List.intercalate_cons_cons, ← join]
        simp
      rw [hjoin, splitBy_append_cons hsemicolon rfl, List.map_cons, List.filter_cons, hfront, hempty, ih htexts]
      rfl

theorem splitBody_inline {name : Text} (inner : Text) (ht : Tight name) (hname : '\x7b' ∉ name) :
    splitBody (name ++ (" \x7b " ++ inner ++ " \x7d")) =
      (name, false, ((splitBy (· == ';') (' ' :: (inner ++ [' ']))).map trim).filter fun m => !m.isEmpty) := by
  have hopen : dropSuffix? (name ++ (" \x7b " ++ inner ++ " \x7d")) ['\x7b'] = none := by
    simp [dropSuffix?, dropPrefix?]
  have hclose : dropSuffix? (name ++ (" \x7b " ++ inner ++ " \x7d")) ['\x7d'] =
      some ((name ++ [' ']) ++ '\x7b' :: (' ' :: (inner ++ [' ']))) := by
    simp [dropSuffix?, dropPrefix?]
  have hcut : cutAt? (· == '\x7b') ((name ++ [' ']) ++ '\x7b' :: (' ' :: (inner ++ [' ']))) =
      some (name ++ [' '], ' ' :: (inner ++ [' '])) := cutAt?_char_append (by simpa using hname) _
  rw [splitBody, hopen, hclose, Option.bind_some, hcut]
  simp only [trim_append_space ht]

theorem splitBody_plain {name : Text} (hopen : '\x7b' ∉ name) (hclose : '\x7d' ∉ name) :
    splitBody name = (name, false, []) := by
  rw [splitBody, dropSuffix?_of_not_mem hopen, dropSuffix?_of_not_mem hclose]
  rfl

/-! ## The three forms -/

namespace ClassDiagram

/-- A body with one member on each line. -/
def bodySource (name : Text) (texts : List Text) : Text :=
  join "\n" (("class " ++ name ++ " \x7b" : Text) :: (texts ++ [("\x7d" : Text)]))

/-- A body on one line. -/
def inlineSource (name : Text) (texts : List Text) : Text :=
  "class " ++ name ++ " \x7b " ++ join "; " texts ++ " \x7d"

/-- Members behind the class and a colon. -/
def lineSource (name : Text) (texts : List Text) : Text :=
  join "\n" (("class " ++ name : Text) :: texts.map fun t => name ++ " : " ++ t)

theorem inlineSource_eq (name : Text) (texts : List Text) :
    inlineSource name texts = "class " ++ (name ++ (" \x7b " ++ join "; " texts ++ " \x7d")) := by
  unfold inlineSource
  simp only [List.append_assoc]

end ClassDiagram

namespace ClassName

variable {name : Text}

theorem tight_inline (h : ClassName name) (inner : Text) : Tight (name ++ (" \x7b " ++ inner ++ " \x7d")) := by
  have := tight_append (m := " \x7b " ++ inner ++ " ") h.tight (by decide : Tight ['\x7d'])
    (ne_nil_of_isClassName h.isClassName) (by decide)
  simpa using this

theorem inline_readable (h : ClassName name) {inner : Text} (hinner : '\n' ∉ inner) :
    Readable ("class " ++ (name ++ (" \x7b " ++ inner ++ " \x7d")))
      ("class " ++ (name ++ (" \x7b " ++ inner ++ " \x7d"))) := by
  have hfeed : '\n' ∉ name := h.not_mem (by decide)
  exact classLine_readable (h.tight_inline inner) (by simp) (by simp [hfeed, hinner])

end ClassName

namespace ClassReader

variable {dialect : Dialect} {number : Nat} {name : Text} {texts : List Text}

theorem reads_signed {c : Char} {s : Text} (h : Signed c s) (k : Classifier) :
    Reads (step dialect) number [c :: s] (within .empty k)
      (within .empty (k.addMember? (Member.read? (c :: s) dialect))) := by
  have hline : Reads (step dialect) number [c :: s] (within .empty k)
      (within .empty (k.addMember? (Member.read? (c :: Text.trimEnd s) dialect))) :=
    reads_bodyLine h.readable h.trimEnd.readStereotypeLine?_eq_none (by simp [ClassDiagram.names, ClassDiagram.empty])
  rwa [← h.trim_eq, Member.read?_trim] at hline

/-- A declaration that opens no body, as the first line. -/
theorem reads_declared {rest : Text} (hr : Readable ("class " ++ rest) ("class " ++ rest))
    (hread : ClassStatement.read ("class " ++ rest) = .declaration ⟨name, none, [], false, texts⟩) :
    Reads (step dialect) number ["class " ++ rest] .start (outside (.single (.ofTexts dialect name texts))) := by
  refine (Reads.single hr.isLine).trans_eq ?_
  rw [step_of_readable hr rfl, hread]
  exact congrArg outside (ClassDiagram.declare_empty false texts)

theorem reads_member_line {c : Char} {s : Text} (h : ClassName name) (hs : Signed c s) (hcolon : ':' ∉ name)
    (hdots : contains (Arrow.withoutHints name).dropLast ".." = false) {k : Classifier} (hk : k.name = name) :
    Reads (step dialect) number [name ++ " : " ++ c :: s] (outside (.single k))
      (outside (.single (k.addMember? (Member.read? (c :: s) dialect)))) := by
  have hread := h.read_member hs.trimEnd hcolon hdots
  have htrim : trim (name ++ " : " ++ c :: s) = name ++ ' ' :: ':' :: ' ' :: c :: Text.trimEnd s := by
    have htight := tight_append (m := " : ") h.tight hs.sign_tight (ne_nil_of_isClassName h.isClassName) (by simp)
    have htrim := trim_append htight (by simp) s
    simpa using htrim
  have hline : IsLine (name ++ " : " ++ c :: s) := by
    have hname : '\n' ∉ name := h.not_mem (by decide)
    exact isLine_append (by simp [hname]) hs.isLine
  have hreadable : Readable (name ++ " : " ++ c :: s) (name ++ ' ' :: ':' :: ' ' :: c :: Text.trimEnd s) := by
    obtain ⟨d, t, rfl, hd, -, -⟩ := h.exists_cons
    exact readable_of_head hd hline htrim
  refine (Reads.single hline).trans_eq ?_
  rw [step_of_readable hreadable rfl, hread, ← hs.trimEnd.trim_eq, ← hs.trim_eq]
  have hmember : (ClassDiagram.single k).addMember name (trim (trim (c :: s))) dialect =
      .single (k.addMember? (Member.read? (c :: s) dialect)) := by
    rw [ClassDiagram.addMember_single hk, Member.read?_trim, Member.read?_trim]
  exact congrArg outside hmember

end ClassReader

namespace ClassDiagram

variable {name : Text} {ms : List Member}

theorem signed_of_mem (hms : ms.all Member.isPrintable = true) :
    ∀ t ∈ ms.map Member.print, ∃ c s, t = c :: s ∧ Signed c s := by
  intro t ht
  obtain ⟨m, hm, rfl⟩ := List.mem_map.1 ht
  exact m.print_signed (List.all_eq_true.1 hms m hm)

variable {texts : List Text}

theorem read_body (dialect : Dialect) (h : ClassName name) (htexts : ∀ t ∈ texts, ∃ c s, t = c :: s ∧ Signed c s) :
    read dialect (bodySource name texts) = single (.ofTexts dialect (upTo ":::" name) texts) := by
  have hopen : Reads (ClassReader.step dialect) 1 ["class " ++ name ++ " \x7b"] .start
      (.within .empty (.ofName (upTo ":::" name))) := by
    have hread := h.read_class (tight_opening h.isClassName) (splitBody_open h.tight)
    rw [← List.append_assoc] at hread
    exact ClassReader.reads_opening (c := .ofName (upTo ":::" name)) (d := .empty)
      (declaration_readable h.isClassName) hread (by simp [names, empty])
  have hmembers : ∀ n, Reads (ClassReader.step dialect) n (texts.map id)
      (.within .empty (.ofName (upTo ":::" name))) (.within .empty (.ofTexts dialect (upTo ":::" name) texts)) := by
    refine fun n => .foldl (P := fun _ => True) trivial (fun _ _ _ => trivial) fun t ht n k _ => ?_
    obtain ⟨c, s, rfl, hs⟩ := htexts t ht
    exact ClassReader.reads_signed hs k
  rw [List.map_id] at hmembers
  exact read_of_reads (hopen.append fun n => (hmembers n).append fun m => ClassReader.reads_closing)

theorem read_inline (dialect : Dialect) (h : ClassName name) (htexts : ∀ t ∈ texts, ∃ c s, t = c :: s ∧ Signed c s) :
    read dialect (inlineSource name texts) = single (.ofTexts dialect (upTo ":::" name) texts) := by
  have hjoin : '\n' ∉ join "; " texts := not_mem_join (by decide) fun t ht => by
    obtain ⟨c, s, rfl, hs⟩ := htexts t ht
    exact hs.isLine.noLineFeed
  have hsplit : ∀ t ∈ texts, ';' ∉ t ∧ trim t ≠ [] := by
    intro t ht
    obtain ⟨c, s, rfl, hs⟩ := htexts t ht
    exact ⟨hs.not_mem (by decide) (by decide), by simp [hs.trim_eq]⟩
  have hbody := splitBody_inline (join "; " texts) h.tight (h.not_mem (by decide))
  rw [splitBy_semicolons hsplit] at hbody
  have hread := h.read_class (h.tight_inline _) hbody
  have hreads : Reads (ClassReader.step dialect) 1 ["class " ++ (name ++ (" \x7b " ++ join "; " texts ++ " \x7d"))]
      .start (.outside (single (.ofTexts dialect (upTo ":::" name) (texts.map trim)))) :=
    ClassReader.reads_declared (h.inline_readable hjoin) hread
  rw [Classifier.ofTexts_trim, ← inlineSource_eq] at hreads
  -- the whole source is one line
  have hsource : inlineSource name texts = join "\n" [inlineSource name texts] := by
    rw [join, List.intercalate_singleton]
  rw [hsource]
  exact read_of_reads hreads

theorem read_lines (dialect : Dialect) (h : ClassName name) (hcolon : ':' ∉ name)
    (hdots : contains (Arrow.withoutHints name).dropLast ".." = false)
    (htexts : ∀ t ∈ texts, ∃ c s, t = c :: s ∧ Signed c s) :
    read dialect (lineSource name texts) = single (.ofTexts dialect name texts) := by
  have hopen : Reads (ClassReader.step dialect) 1 ["class " ++ name] .start
      (.outside (single (.ofTexts dialect name []))) := by
    have hfeed : '\n' ∉ name := h.not_mem (by decide)
    have hreadable := classLine_readable h.tight (ne_nil_of_isClassName h.isClassName) hfeed
    have hread := h.read_class h.tight (splitBody_plain (h.not_mem (by decide)) (h.not_mem (by decide)))
    rw [upTo_of_not_contains (not_contains (d := ':') (by decide) hcolon)] at hread
    exact ClassReader.reads_declared hreadable hread
  have hmembers : ∀ n, Reads (ClassReader.step dialect) n (texts.map fun t => name ++ " : " ++ t)
      (.outside (single (.ofName name))) (.outside (single (.ofTexts dialect name texts))) := by
    -- all lines name the class that was declared, and members do not change its name
    refine fun n => .foldl (P := fun k => k.name = name) (r := fun k => ClassReader.outside (single k)) rfl
      (fun k t hk => (Classifier.name_addMember? _ k).trans hk) fun t ht n k hk => ?_
    obtain ⟨c, s, rfl, hs⟩ := htexts t ht
    exact ClassReader.reads_member_line h hs hcolon hdots hk
  exact read_of_reads (hopen.append hmembers)

/-- However its members are written, a class is read with all of them. Behind the class and a colon that takes a name
without colons where nothing follows two dots next to each other, also once hints were taken out. -/
theorem read_memberForms (dialect : Dialect) (h : ClassName name) (hms : ms.all Member.isPrintable = true) :
    read dialect (bodySource name (ms.map Member.print)) =
        single (.ofTexts dialect (upTo ":::" name) (ms.map Member.print)) ∧
      read dialect (inlineSource name (ms.map Member.print)) =
        single (.ofTexts dialect (upTo ":::" name) (ms.map Member.print)) ∧
      (':' ∉ name → contains (Arrow.withoutHints name).dropLast ".." = false →
        read dialect (lineSource name (ms.map Member.print)) =
          single (.ofTexts dialect (upTo ":::" name) (ms.map Member.print))) := by
  have hsigned := signed_of_mem hms
  refine ⟨read_body dialect h hsigned, read_inline dialect h hsigned, fun hcolon hdots => ?_⟩
  have hlines := read_lines dialect h hcolon hdots hsigned
  rwa [upTo_of_not_contains (not_contains (d := ':') (by decide) hcolon)]

/-- An attribute and a method of one class. -/
theorem read_memberForms_order :
    read .plantUml (bodySource "Order" ["+lines: Line[]", "-add(n: int): bool"]) =
        single ⟨"Order", none, [⟨.«public», "lines", some "Line[]"⟩],
          [⟨.«private», "add", [⟨"n", some "int"⟩], some "bool"⟩]⟩ ∧
      read .plantUml (inlineSource "Order" ["+lines: Line[]", "-add(n: int): bool"]) =
        single ⟨"Order", none, [⟨.«public», "lines", some "Line[]"⟩],
          [⟨.«private», "add", [⟨"n", some "int"⟩], some "bool"⟩]⟩ ∧
      read .plantUml (lineSource "Order" ["+lines: Line[]", "-add(n: int): bool"]) =
        single ⟨"Order", none, [⟨.«public», "lines", some "Line[]"⟩],
          [⟨.«private», "add", [⟨"n", some "int"⟩], some "bool"⟩]⟩ := by
  have hname : ClassName "Order" := ⟨by decide +kernel, by decide +kernel⟩
  have hms : [Member.field ⟨.«public», "lines", some "Line[]"⟩,
      .method ⟨.«private», "add", [⟨"n", some "int"⟩], some "bool"⟩].all Member.isPrintable = true := by
    decide +kernel
  have htexts : [Member.field ⟨.«public», "lines", some "Line[]"⟩,
      .method ⟨.«private», "add", [⟨"n", some "int"⟩], some "bool"⟩].map Member.print =
        (["+lines: Line[]", "-add(n: int): bool"] : List Text) := by decide +kernel
  have hmodel : Classifier.ofTexts .plantUml "Order" ["+lines: Line[]", "-add(n: int): bool"] =
      ⟨"Order", none, [⟨.«public», "lines", some "Line[]"⟩],
        [⟨.«private», "add", [⟨"n", some "int"⟩], some "bool"⟩]⟩ := by decide +kernel
  have hcut : upTo ":::" "Order" = "Order" := by decide +kernel
  obtain ⟨hbody, hinline, hlines⟩ := read_memberForms .plantUml hname hms
  rw [htexts, hcut, hmodel] at hbody hinline hlines
  exact ⟨hbody, hinline, hlines (by decide) (by decide +kernel)⟩

/-- A name that keeps its colons in a declaration loses them in front of a member, and one with a hint between two
dots becomes two classes with a relation between them. -/
theorem read_memberForms_colons :
    ClassName "A::B" ∧ ClassName "A.up.B" ∧
      read .plantUml (lineSource "A::B" ["+x: T"]) ≠ read .plantUml (bodySource "A::B" ["+x: T"]) ∧
      read .plantUml (lineSource "A.up.B" ["+x: T"]) ≠ read .plantUml (bodySource "A.up.B" ["+x: T"]) :=
  ⟨⟨by decide +kernel, by decide +kernel⟩, ⟨by decide +kernel, by decide +kernel⟩, by decide +kernel⟩

end ClassDiagram

end DiagramProse
