import DiagramProse.Proofs.Arrow.Search
import DiagramProse.Proofs.Text.Beginnings
import DiagramProse.Proofs.Text.Names
import DiagramProse.SequenceDiagram.Message
import Mathlib.Data.Option.Basic

/-!
Messages are read back from their lines (`Message.read?_line`), whichever arrow stands between the ends. An
arrow that ends in a cross or a parenthesis may also be part of a name, as in `web-x`. There it is passed over
(`passes_hyphenated`): the arrow of the line follows in front of the text, and no token outside quotes is missed.
-/

namespace DiagramProse

open Text

/-! ## Messages as they are written -/

/-- Whether an arrow ends in a cross or a parenthesis. -/
def isGuarded (token : Text) : Bool := token.endsWith ['x'] || token.endsWith [')']

/-- Names that can stand at an arrow: plain ones, or hyphenated ones if it is not guarded. -/
def isEndName (token s : Text) : Bool := if isGuarded token then isPlainName s else isHyphenatedName s

/-- The signs for the start and the end of an activation that may stand in front of the right end. -/
def activationSigns (token : Text) (sense : MessageSense) : List Text :=
  if sense.reverse || isGuarded token then [[]] else [[], ['+'], ['-']]

/-- The two ends of a message and the arrow between them, as they are written. -/
structure MessageEnds where
  left : Text
  spacesBefore : Nat
  token : Text
  sense : MessageSense
  spacesAfter : Nat
  sign : Text
  right : Text
  token_mem : (token, sense) ∈ messageArrows
  sign_mem : sign ∈ activationSigns token sense
  left_isEndName : isEndName token left = true
  right_isEndName : isEndName token right = true

namespace MessageEnds

/-- The part of a line in front of the text. -/
def front (e : MessageEnds) : Text :=
  e.left ++ List.replicate e.spacesBefore ' ' ++ e.token ++ List.replicate e.spacesAfter ' ' ++ e.sign ++ e.right

/-- What a line with the given text says. -/
def message (e : MessageEnds) (text : Text) : Message where
  sender := if e.sense.reverse then e.right else e.left
  receiver := if e.sense.reverse then e.left else e.right
  text
  kind := e.sense.kind
  isMethodCall := '(' ∈ text ∧ ')' ∈ text
  isExternal := false

end MessageEnds

/-! ## The search for the arrow -/

theorem messageArrows_isSign : ∀ a ∈ messageArrows, Arrow.isSign a.1 = true := by decide

variable {accept : Text → Text → Bool} {s rest : Text}

/-- All arrows begin with a dash or an angle bracket. -/
theorem passes_messageArrows (hdash : '-' ∉ s) (hangle : '<' ∉ s) (hquote : '"' ∉ s) :
    Arrow.Passes messageArrows accept s rest := by
  have hheads : ∀ e ∈ messageArrows, e.1.head? = some '-' ∨ e.1.head? = some '<' := by decide
  refine Arrow.passes_of_heads hquote fun c hc e he => ?_
  have hd : '-' ≠ c := fun h => hdash (h ▸ hc)
  have ha : '<' ≠ c := fun h => hangle (h ▸ hc)
  rcases hheads e he with h | h
  · simpa [h] using hd
  · simpa [h] using ha

theorem passes_plainName (h : isPlainName s = true) : Arrow.Passes messageArrows accept s rest :=
  passes_messageArrows (not_mem_of_isPlainName h (by decide)) (not_mem_of_isPlainName h (by decide))
    (not_mem_of_isPlainName h (by decide))

theorem passes_spaces (n : Nat) : Arrow.Passes messageArrows accept (List.replicate n ' ') rest := by
  refine passes_messageArrows ?_ ?_ ?_
  all_goals simp [List.mem_replicate]

/-- Of the arrows only `-x` goes on with a letter, a digit or an underscore. -/
theorem messageArrows_second : ∀ e ∈ messageArrows,
    e.1 = ['-', 'x'] ∨ e.1.tail.head?.any (fun c => !isNameChar c) = true := by
  decide +kernel

/-- The hyphens of a name begin no arrow if there is another one behind the name, in front of the text. -/
theorem passes_hyphenated (h : isHyphenatedName s = true)
    (hrest : ∀ t, '"' ∉ t → ':' ∉ t → (Arrow.find? (beforeColon (t ++ rest)) messageArrows).isSome) :
    Arrow.Passes messageArrows isArrowHead s rest := by
  refine hyphenatedName_induction h (fun w hw => passes_plainName hw) fun w s hw hs ih => ?_
  refine (passes_plainName hw).append (Arrow.passes_cons (by decide) (fun previous e he => ?_) ih)
  obtain ⟨hne, -, hfirst, -⟩ := hyphenatedText hs
  have hquote : '"' ∉ s := (hyphenatedText hs).not_mem (by decide) (by decide)
  have hcolon : ':' ∉ s := (hyphenatedText hs).not_mem (by decide) (by decide)
  obtain ⟨c, t, rfl⟩ := List.exists_cons_of_ne_nil hne
  rcases messageArrows_second e he with hx | hsecond
  -- `-x` is admitted by its characters, but refused for the arrow of the line
  · rw [List.mem_cons, not_or] at hquote hcolon
    have hrefused : isArrowHead ['-', 'x'] (t ++ rest) = false := by
      have hfind := hrest t hquote.2 hcolon.2
      rw [isArrowHead, Option.isNone_eq_false_iff.2 hfind]
      rfl
    have hafter : ('-' :: (c :: t ++ rest)).drop 2 = t ++ rest := rfl
    rw [Arrow.admits, hx, List.length_cons, List.length_singleton, hafter, hrefused, Bool.and_false]
  · refine Arrow.not_admits ?_
    rintro ⟨u, hu⟩
    rcases ht : e.1 with _ | ⟨a, _ | ⟨b, v⟩⟩
    · simp [ht] at hsecond
    · simp [ht] at hsecond
    · rw [ht] at hsecond hu
      obtain rfl : b = c := by simpa using congrArg (fun s : Text => s.tail.head?) hu
      simp [hfirst b rfl] at hsecond

/-- What an arrow says between two names. -/
def MessageSense.message (sense : MessageSense) (left right text : Text) : Message where
  sender := if sense.reverse then right else left
  receiver := if sense.reverse then left else right
  text
  kind := sense.kind
  isMethodCall := '(' ∈ text ∧ ')' ∈ text
  isExternal := false

theorem MessageSense.ofEnds?_message (sense : MessageSense) {left right : Text} (hl : left ≠ []) (hr : right ≠ [])
    (text : Text) : Message.ofEnds? false sense.kind (if sense.reverse then right else left)
      (if sense.reverse then left else right) text = some (sense.message left right text) := by
  have hcall : (text.contains ['('] && text.contains [')']) = decide ('(' ∈ text ∧ ')' ∈ text) := by
    rw [Bool.eq_iff_iff, Bool.and_eq_true, contains_singleton, contains_singleton, decide_eq_true_eq]
  rw [Message.ofEnds?, MessageSense.message, hcall]
  cases sense.reverse <;> simp [hl, hr]

namespace MessageEnds

variable (e : MessageEnds)

theorem hyphenatedText_of_isEndName {token : Text} (h : isEndName token s = true) : HyphenatedText s := by
  rw [isEndName] at h
  split at h
  · exact hyphenatedText (isHyphenatedName_of_isPlainName h)
  · exact hyphenatedText h

theorem sign_cases : e.sign = [] ∨ (e.sign = ['+'] ∨ e.sign = ['-']) ∧ e.sense.reverse = false ∧
    isGuarded e.token = false := by
  have h := e.sign_mem
  rw [activationSigns] at h
  split at h
  · exact .inl (List.mem_singleton.1 h)
  · next hsense =>
    simp only [Bool.or_eq_true, not_or, Bool.not_eq_true] at hsense
    simp only [List.mem_cons, List.not_mem_nil, or_false] at h
    exact h.imp_right fun h => ⟨h, hsense⟩

theorem sign_chars : ∀ c ∈ e.sign, c = '+' ∨ c = '-' := by
  rcases e.sign_cases with h | ⟨h | h, -⟩
  all_goals rw [h]; simp

theorem sign_not_mem {d : Char} (hplus : d ≠ '+') (hdash : d ≠ '-') : d ∉ e.sign :=
  fun hm => (e.sign_chars d hm).elim hplus hdash

/-- Behind the arrow stands nothing with which a longer one would go on. -/
theorem next_char (behind : Text) : ∃ c rest,
    List.replicate e.spacesAfter ' ' ++ (e.sign ++ e.right ++ behind) = c :: rest ∧
      c ≠ '>' ∧ (c = '-' → e.sense.reverse = false) := by
  cases e.spacesAfter with
  | succ n => exact ⟨' ', _, rfl, by decide, fun h => absurd h (by decide)⟩
  | zero =>
    rcases e.sign_cases with h | ⟨h, hreverse, -⟩
    · obtain ⟨hne, -, hfirst, -⟩ := hyphenatedText_of_isEndName e.right_isEndName
      obtain ⟨c, t, ht⟩ := List.exists_cons_of_ne_nil hne
      have hc : isNameChar c = true := hfirst c (by rw [ht]; rfl)
      refine ⟨c, t ++ behind, by simp [h, ht], ?_, ?_⟩
      all_goals
        rintro rfl
        exact absurd hc (by decide)
    · rcases h with h | h
      all_goals exact ⟨_, e.right ++ behind, by rw [h]; rfl, by decide, fun _ => hreverse⟩

/-- An arrow that begins with another one goes on with `>`, or with a dash if that one is reversed. -/
theorem messageArrows_next : ∀ e ∈ messageArrows, ∀ x ∈ messageArrows, e.1 <+: x.1 →
    x = e ∨ (x.1.drop e.1.length).head? = some '>' ∨
      (x.1.drop e.1.length).head? = some '-' ∧ e.2.reverse = true := by
  decide

theorem beforeColon_append {behind : Text} (hs : ':' ∉ s) (h : ∀ c ∈ behind.head?, c = ':') :
    beforeColon (s ++ behind) = s := by
  cases behind with
  | nil => rw [List.append_nil, beforeColon, cutAt?_char_eq_none hs]; rfl
  | cons c t =>
    obtain rfl := h c rfl
    rw [beforeColon, cutAt?_char_append hs]
    rfl

/-- The arrow is accepted: a guarded one has no other behind it. -/
theorem isArrowHead_token {behind : Text} (h : ∀ c ∈ behind.head?, c = ':') :
    isArrowHead e.token (List.replicate e.spacesAfter ' ' ++ (e.sign ++ e.right ++ behind)) = true := by
  have hhead : ∀ after, isArrowHead e.token after =
      (!isGuarded e.token || (Arrow.find? (beforeColon after) messageArrows).isNone) := fun after => rfl
  rw [hhead]
  cases hguard : isGuarded e.token with
  | false => rfl
  | true =>
    have hsign : e.sign = [] := e.sign_cases.resolve_right fun h => by simp [h.2.2] at hguard
    have hright : isPlainName e.right = true := by
      have := e.right_isEndName
      rwa [isEndName, hguard, if_pos rfl] at this
    have hcolon : ':' ∉ List.replicate e.spacesAfter ' ' ++ e.right := by
      have : ':' ∉ e.right := not_mem_of_isPlainName hright (by decide)
      simp [this, List.mem_replicate]
    have hpass : Arrow.Passes messageArrows (fun _ _ => true) (List.replicate e.spacesAfter ' ' ++ e.right) [] :=
      (passes_spaces _).append (passes_plainName hright)
    rw [hsign, List.nil_append, ← List.append_assoc, beforeColon_append hcolon h, Arrow.find?,
      Arrow.findWhere?_eq_none hpass]
    rfl

theorem passes_left {behind : Text} (h : ∀ c ∈ behind.head?, c = ':') :
    Arrow.Passes messageArrows isArrowHead (e.left ++ List.replicate e.spacesBefore ' ')
      (e.token ++ (List.replicate e.spacesAfter ' ' ++ (e.sign ++ e.right ++ behind))) := by
  refine Arrow.Passes.append ?_ (passes_spaces _)
  have hleft := e.left_isEndName
  rw [isEndName] at hleft
  split at hleft
  · exact passes_plainName hleft
  · refine passes_hyphenated hleft fun t hquote hcolon => ?_
    have hcolons : ∀ a ∈ messageArrows, ':' ∉ a.1 := by decide
    have htoken : ':' ∉ e.token := hcolons _ e.token_mem
    have hcolon' : ':' ∉ t ++ List.replicate e.spacesBefore ' ' ++
        (e.token ++ (List.replicate e.spacesAfter ' ' ++ (e.sign ++ e.right))) := by
      have hs := e.sign_not_mem (d := ':') (by decide) (by decide)
      have hr : ':' ∉ e.right := (hyphenatedText_of_isEndName e.right_isEndName).not_mem (by decide) (by decide)
      simp [hcolon, htoken, hs, hr, List.mem_replicate]
    have hline : t ++ (List.replicate e.spacesBefore ' ' ++
          (e.token ++ (List.replicate e.spacesAfter ' ' ++ (e.sign ++ e.right ++ behind)))) =
        t ++ List.replicate e.spacesBefore ' ' ++
          (e.token ++ (List.replicate e.spacesAfter ' ' ++ (e.sign ++ e.right))) ++ behind := by
      simp
    rw [hline, beforeColon_append hcolon' h]
    exact Arrow.isSome_search e.token_mem (messageArrows_isSign _ e.token_mem)
      (by simp [hquote, List.mem_replicate]) [] _

/-- The arrow is found whatever is behind the right end, if it begins with a colon. -/
theorem findWhere?_line {behind : Text} (h : ∀ c ∈ behind.head?, c = ':') :
    Arrow.findWhere? (e.front ++ behind) messageArrows isArrowHead =
      some ⟨trim (e.left ++ List.replicate e.spacesBefore ' '),
        trim (List.replicate e.spacesAfter ' ' ++ (e.sign ++ e.right ++ behind)), e.token, e.sense⟩ := by
  have hfind := Arrow.findWhere?_sign (e := (e.token, e.sense)) (e.passes_left h) e.token_mem
    (messageArrows_isSign _ e.token_mem) (e.isArrowHead_token h) fun x hx hprefix => ?_
  · rw [← hfind, front]
    simp
  · obtain ⟨c, rest, hrest, hangle, hdash⟩ := e.next_char behind
    rw [hrest] at hprefix
    refine Arrow.shorter_of_next (fun hx' => ?_) hprefix
    refine (messageArrows_next _ e.token_mem x hx hx').imp_right fun hnext => ?_
    rcases hnext with hnext | ⟨hnext, hreverse⟩
    · simp [hnext, Ne.symm hangle]
    · have hne : '-' ≠ c := by
        rintro rfl
        simp [hdash rfl] at hreverse
      simp [hnext, hne]

/-! ## The ends of a message -/

theorem body_not_blank : ∀ c ∈ e.sign ++ e.right, isBlank c = false := by
  intro c hc
  rcases List.mem_append.1 hc with hc | hc
  · rcases e.sign_chars c hc with rfl | rfl
    all_goals decide
  · exact (hyphenatedText_of_isEndName e.right_isEndName).not_blank c hc

/-- Signs are taken away, of the name nothing. -/
theorem cleanReceiver_body : cleanReceiver (e.sign ++ e.right) = e.right := by
  have hright := hyphenatedText_of_isEndName e.right_isEndName
  have hname : ∀ c, isNameChar c = true → c ∉ ['+', '-', '*', '!'] := by
    have hsigns : ∀ d ∈ ['+', '-', '*', '!'], isNameChar d = false := by decide
    intro c hc hm
    rw [hsigns c hm] at hc
    cases hc
  have hsign : ∀ c ∈ e.sign, (c == '+' || c == '-') = true := fun c hc => by simpa using e.sign_chars c hc
  have hfirst : ∀ c ∈ e.right.head?, (c == '+' || c == '-') = false := by
    intro c hc
    have := hname c (hright.first c hc)
    simp_all
  have hlast : ∀ c ∈ e.right.getLast?, (c == '+' || c == '-' || c == '*' || c == '!' || isBlank c) = false := by
    intro c hc
    have := hname c (hright.last c hc)
    have hb := not_blank_of_isNameChar (hright.last c hc)
    simp_all
  have ht := tight_of_not_blank hright.not_blank
  rw [cleanReceiver, trim_eq_self (tight_of_not_blank e.body_not_blank), List.dropWhile_append_of_pos hsign,
    dropWhile_eq_self hfirst, trim_eq_self ht, dropEndWhile_eq_self hlast, trim_eq_self ht]

theorem isParticipantName_hyphenated (h : HyphenatedText s) : isParticipantName s = true ∧ unquote s = s := by
  have hblank : s.any isBlank = false := List.any_eq_false.2 fun c hc => by simp [h.not_blank c hc]
  refine ⟨by rw [isParticipantName, hblank, Bool.not_false, Bool.or_true], ?_⟩
  exact unquote_of_not_mem (tight_of_not_blank h.not_blank) (h.not_mem (by decide) (by decide))

theorem body_ne_nil : e.sign ++ e.right ≠ [] :=
  List.append_ne_nil_of_right_ne_nil _ (hyphenatedText_of_isEndName e.right_isEndName).ne_nil

/-- A message is read with the text behind the first colon, if there is one. -/
theorem read?_front {behind text : Text} (h : ∀ c ∈ behind.head?, c = ':')
    (hcut : (cutAt? (· == ':') (e.sign ++ e.right ++ trimEnd behind)).getD (e.sign ++ e.right ++ trimEnd behind, []) =
      (e.sign ++ e.right, text)) :
    Message.read? (e.front ++ behind) = some (e.message (unquote (trim text))) := by
  have hleft := hyphenatedText_of_isEndName e.left_isEndName
  have hright := hyphenatedText_of_isEndName e.right_isEndName
  have hbody := tight_of_not_blank e.body_not_blank
  have houtside : dropPrefix? (e.front ++ behind) ['['] = none := by
    refine dropPrefix?_of_head ?_
    obtain ⟨c, t, ht⟩ := List.exists_cons_of_ne_nil hleft.ne_nil
    have hc : c ≠ '[' := by
      rintro rfl
      exact absurd (hleft.first '[' (by rw [ht]; rfl)) (by decide)
    simp [front, ht, hc]
  have hinside : (trimStart (e.sign ++ e.right)).startsWith [']'] = false := by
    have hbracket : ']' ∉ e.sign ++ e.right := by
      have hs := e.sign_not_mem (d := ']') (by decide) (by decide)
      have hr : ']' ∉ e.right := hright.not_mem (by decide) (by decide)
      simp [hs, hr]
    have hhead : (e.sign ++ e.right).head? ≠ some ']' := fun hm => hbracket (List.mem_of_mem_head? hm)
    rw [trimStart, dropWhile_eq_self hbody.head, startsWith_eq_isSome, dropPrefix?_of_head hhead, Option.isSome_none]
  have hclean := e.cleanReceiver_body
  have hmessage : Message.ofEnds? false e.sense.kind (if e.sense.reverse then e.right else e.left)
      (if e.sense.reverse then e.left else e.right) (unquote (trim text)) = some (e.message (unquote (trim text))) :=
    e.sense.ofEnds?_message hleft.ne_nil hright.ne_nil _
  have hfind := e.findWhere?_line h
  rw [trim_append_spaces (tight_of_not_blank hleft.not_blank), trim_spaces_append,
    trim_append hbody e.body_ne_nil] at hfind
  generalize e.sign ++ e.right ++ trimEnd behind = right at hfind hcut
  generalize e.sign ++ e.right = body at hcut hinside hclean
  rw [Message.read?, houtside]
  simp only [Option.bind_eq_bind, hfind, Option.bind_some, hcut, hinside, hclean, isParticipantName_hyphenated hleft,
    isParticipantName_hyphenated hright]
  rw [← hmessage]
  cases e.sense.reverse <;> rfl

theorem colon_not_mem_body : ':' ∉ e.sign ++ e.right := by
  have hs := e.sign_not_mem (d := ':') (by decide) (by decide)
  have hr : ':' ∉ e.right := (hyphenatedText_of_isEndName e.right_isEndName).not_mem (by decide) (by decide)
  simp [hs, hr]

/-- A line without a colon has no text. -/
theorem read?_front_nil : Message.read? e.front = some (e.message []) := by
  have hcut : (cutAt? (· == ':') (e.sign ++ e.right ++ trimEnd [])).getD (e.sign ++ e.right ++ trimEnd [], []) =
      (e.sign ++ e.right, []) := by
    have hnil : trimEnd [] = [] := rfl
    rw [hnil, List.append_nil, cutAt?_char_eq_none e.colon_not_mem_body, Option.getD_none]
  have hread := e.read?_front (by simp) hcut
  rwa [List.append_nil] at hread

end MessageEnds

/-! ## Messages -/

/-- A message is read back from its line: the ends in the order that the arrow gives them, the kind of the arrow,
and the text, which is the call of a method if it has both parentheses. -/
theorem Message.read?_written (e : MessageEnds) {text : Text} (ht : Tight text)
    (hquoted : ¬ ∃ t, text = '"' :: (t ++ ['"'])) :
    Message.read? (e.left ++ List.replicate e.spacesBefore ' ' ++ e.token ++ List.replicate e.spacesAfter ' ' ++
        e.sign ++ e.right ++ ": " ++ text) =
      some {
        sender := if e.sense.reverse then e.right else e.left
        receiver := if e.sense.reverse then e.left else e.right
        text
        kind := e.sense.kind
        isMethodCall := '(' ∈ text ∧ ')' ∈ text
        isExternal := false } := by
  have hend : trimEnd (':' :: ' ' :: text) = ':' :: trimEnd (' ' :: text) :=
    trimEnd_append (s := [':']) (by decide) (' ' :: text)
  have hcut : (cutAt? (· == ':') (e.sign ++ e.right ++ trimEnd (':' :: ' ' :: text))).getD
      (e.sign ++ e.right ++ trimEnd (':' :: ' ' :: text), []) = (e.sign ++ e.right, trimEnd (' ' :: text)) := by
    rw [hend, cutAt?_char_append e.colon_not_mem_body, Option.getD_some]
  have htext : trim (trimEnd (' ' :: text)) = text := by rw [trim_trimEnd, trim_space_cons, trim_eq_self ht]
  have hread := e.read?_front (by simp) hcut
  rw [htext, unquote_eq_self ht hquoted] at hread
  exact (congrArg Message.read? (List.append_assoc e.front [':', ' '] text)).trans hread

theorem Message.read?_written_hyphenated :
    Message.read? "web-x ->+box-xyz: get(id)" = some ⟨"web-x", "box-xyz", "get(id)", .call, true, false⟩ :=
  Message.read?_written
    { left := "web-x", spacesBefore := 1, token := "->", sense := ⟨.call, false⟩, spacesAfter := 0, sign := "+",
      right := "box-xyz", token_mem := by decide, sign_mem := by decide, left_isEndName := by decide +kernel,
      right_isEndName := by decide +kernel }
    (by decide : Tight "get(id)") (by rintro ⟨t, ht⟩; cases ht)

end DiagramProse
