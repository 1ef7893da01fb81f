import DiagramProse.Proofs.SequenceDiagram.Messages
import DiagramProse.Proofs.Text.Quotes

/-!
Messages between names in quotes. The search for the arrow goes past quoted text, and signs of activation are
sought outside the quotes, so arrows, signs and blanks may stand in both names. The text of a message is cut off at
the first colon behind the arrow, without a look at the quotes: a right end with a colon in it is cut in two, and
that is all that can go wrong (`Message.read?_quotedEnds`).
-/

namespace DiagramProse

open Text

variable {left token rest right text : Text} {sense : MessageSense}

/-! ## The first colon behind the arrow -/

theorem cutAt?_quoted_whole (hcolon : ':' ∉ right) (after : Text) :
    cutAt? (· == ':') (quoted right ++ ' ' :: ':' :: after) = some (quoted right ++ [' '], after) := by
  have hsplit : quoted right ++ ' ' :: ':' :: after = (quoted right ++ [' ']) ++ ':' :: after := by simp
  rw [hsplit, cutAt?_char_append (by simp [quoted, hcolon])]

/-- A name with a colon is cut within its quotes. -/
theorem cutAt?_quoted_cut {front : Text} (hfront : ':' ∉ front) (back after : Text) :
    cutAt? (· == ':') (quoted (front ++ ':' :: back) ++ after) = some ('"' :: front, back ++ '"' :: after) := by
  have hsplit : quoted (front ++ ':' :: back) ++ after = ('"' :: front) ++ ':' :: (back ++ '"' :: after) := by
    simp [quoted]
  rw [hsplit, cutAt?_char_append (by simp [hfront])]

theorem beforeColon_space {s a b : Text} (h : cutAt? (· == ':') s = some (a, b)) :
    beforeColon (' ' :: s) = [' '] ++ a := by
  simp [beforeColon, cutAt?, h]

/-! ## The arrow -/

/-- What stands in a quoted name is never another arrow in front of the text. -/
theorem isArrowHead_quoted (hr : '"' ∉ right) (token after : Text) :
    isArrowHead token (' ' :: (quoted right ++ ' ' :: ':' :: after)) = true := by
  have hspace : ∀ rest, Arrow.Passes messageArrows (fun _ _ => true) [' '] rest := fun _ => passes_spaces 1
  have hpass : Arrow.Passes messageArrows (fun _ _ => true)
      (beforeColon (' ' :: (quoted right ++ ' ' :: ':' :: after))) [] := by
    by_cases hcolon : ':' ∈ right
    -- what is left of a name that is cut stands behind a quote that is not closed
    · obtain ⟨front, back, rfl, hfront⟩ := List.eq_append_cons_of_mem hcolon
      rw [beforeColon_space (cutAt?_quoted_cut hfront _ _)]
      exact (hspace _).append (Arrow.passes_openQuote fun hm => hr (List.mem_append_left _ hm))
    · rw [beforeColon_space (cutAt?_quoted_whole hcolon _), ← List.append_assoc]
      exact ((hspace _).append (Arrow.passes_quoted hr)).append (hspace _)
  rw [isArrowHead, Arrow.find?, Arrow.findWhere?_eq_none hpass]
  simp

/-- Behind a quoted name an arrow is found that has a space on both sides. -/
theorem findWhere?_quotedLeft (h : (token, sense) ∈ messageArrows) (hl : '"' ∉ left)
    (hhead : isArrowHead token (' ' :: rest) = true) :
    Arrow.findWhere? (quoted left ++ [' '] ++ (token ++ ' ' :: rest)) messageArrows isArrowHead =
      some ⟨quoted left, trim rest, token, sense⟩ := by
  have hleft : Arrow.Passes messageArrows isArrowHead (quoted left ++ [' ']) (token ++ ' ' :: rest) :=
    (Arrow.passes_quoted hl).append (passes_spaces 1)
  have hfind := Arrow.findWhere?_sign (e := (token, sense)) hleft h (messageArrows_isSign _ h) hhead
    fun x hx hprefix => by
      refine Arrow.shorter_of_next (fun hx' => ?_) hprefix
      refine (MessageEnds.messageArrows_next _ h x hx hx').imp_right fun hnext => ?_
      rcases hnext with hnext | ⟨hnext, -⟩
      all_goals simp [hnext]
  rw [hfind, trim_append_space (tight_quoted left), trim_space_cons]

/-! ## The right end -/

/-- A quote in front of the receiver stays, with what stands behind it up to blanks and signs at the end. -/
theorem cleanReceiver_quote (s : Text) : cleanReceiver ('"' :: s) = '"' :: dropEndWhile
    (fun c => c == '+' || c == '-' || c == '*' || c == '!' || isBlank c) (trimEnd s) := by
  have htrim : trim ('"' :: s) = '"' :: trimEnd s := trim_append (by decide : Tight ['"']) (by decide) s
  have hfront : trim ((trim ('"' :: s)).dropWhile fun c => c == '+' || c == '-') = '"' :: trimEnd s := by
    have htight := tight_trim ('"' :: s)
    rw [htrim] at htight ⊢
    rw [dropWhile_eq_self (by simp), trim_eq_self htight]
  rw [cleanReceiver, hfront]
  generalize hsign : (fun c => c == '+' || c == '-' || c == '*' || c == '!' || isBlank c) = isSign
  have hback : dropEndWhile isSign ('"' :: trimEnd s) = '"' :: dropEndWhile isSign (trimEnd s) :=
    dropEndWhile_append (s := ['"']) (by subst hsign; decide) _
  have htight : Tight ('"' :: dropEndWhile isSign (trimEnd s)) := by
    refine ⟨by simp [isBlank], fun c hc => ?_⟩
    rw [← hback] at hc
    have hlast := dropEndWhile_last c hc
    subst hsign
    simp_all
  simp only [hback, trim_eq_self htight]

theorem cleanReceiver_quoted (name : Text) : cleanReceiver (quoted name ++ [' ']) = quoted name := by
  have hend : trimEnd (name ++ ['"', ' ']) = name ++ ['"'] := by
    have hlast : ∀ c ∈ (name ++ ['"']).getLast?, isBlank c = false := by simp [isBlank]
    have hsplit : name ++ ['"', ' '] = (name ++ ['"']) ++ [' '] := by simp
    rw [hsplit, trimEnd_append hlast, trimEnd_eq_nil (by decide), List.append_nil]
  have hsplit : quoted name ++ [' '] = '"' :: (name ++ ['"', ' ']) := by simp [quoted]
  rw [hsplit, cleanReceiver_quote, hend, dropEndWhile_eq_self (by simp [isBlank])]
  rfl

/-- The quote in front of a name that has none at its end becomes a part of the name. -/
theorem cleanReceiver_open {name : Text} (h : '"' ∉ name) :
    ∃ s, cleanReceiver ('"' :: name) = '"' :: s ∧ unquote ('"' :: s) = '"' :: trimEnd s := by
  refine ⟨_, cleanReceiver_quote name, unquote_open fun hm => h ?_⟩
  exact dropEndWhile_subset isBlank name (dropEndWhile_subset _ _ hm)

/-! ## Messages -/

/-- A message from or to a quoted name is read with the parts of the line around the first colon behind the
arrow. The part in front of it begins with a quote. -/
theorem Message.read?_quotedLeft (h : (token, sense) ∈ messageArrows) (hl : left ≠ []) (hl' : '"' ∉ left)
    (hhead : isArrowHead token (' ' :: rest) = true) {target said name : Text}
    (hcut : cutAt? (· == ':') (trim rest) = some ('"' :: target, said))
    (hclean : cleanReceiver ('"' :: target) = '"' :: name) (hname : unquote ('"' :: name) ≠ []) :
    Message.read? (quoted left ++ [' '] ++ (token ++ ' ' :: rest)) =
      some (sense.message left (unquote ('"' :: name)) (unquote (trim said))) := by
  have hbracket : dropPrefix? (quoted left ++ [' '] ++ (token ++ ' ' :: rest)) ['['] = none := rfl
  have hinside : (trimStart ('"' :: target)).startsWith [']'] = false := rfl
  have hnames : isParticipantName (quoted left) = true ∧ isParticipantName ('"' :: name) = true := ⟨rfl, rfl⟩
  rw [← sense.ofEnds?_message hl hname, Message.read?, hbracket]
  simp only [Option.bind_eq_bind, findWhere?_quotedLeft h hl' hhead, Option.bind_some, hcut, Option.getD_some, hinside,
    hclean, hnames, unquote_quoted]
  cases sense.reverse <;> rfl

/-- The part of the line behind the arrow. -/
def quotedTarget (right text : Text) : Text := quoted right ++ ' ' :: ':' :: ' ' :: text

theorem trim_quotedTarget (right text : Text) :
    trim (quotedTarget right text) = quoted right ++ ' ' :: ':' :: trimEnd (' ' :: text) := by
  have htight : Tight (quoted right ++ [' '] ++ [':']) :=
    tight_append (tight_quoted right) (by decide) (List.cons_ne_nil _ _) (by decide)
  have hsplit : quotedTarget right text = (quoted right ++ [' '] ++ [':']) ++ ' ' :: text := by simp [quotedTarget]
  rw [hsplit, trim_append htight (by simp)]
  simp

theorem Message.read?_wholeTarget (h : (token, sense) ∈ messageArrows) (hl : left ≠ []) (hl' : '"' ∉ left)
    (hr : right ≠ []) (hr' : '"' ∉ right) (hcolon : ':' ∉ right) (ht : Tight text)
    (hquoted : ¬ ∃ t, text = '"' :: (t ++ ['"'])) :
    Message.read? (quoted left ++ [' '] ++ (token ++ ' ' :: quotedTarget right text)) =
      some (sense.message left right text) := by
  have hcut : cutAt? (· == ':') (trim (quotedTarget right text)) =
      some (quoted right ++ [' '], trimEnd (' ' :: text)) := by
    rw [trim_quotedTarget, cutAt?_quoted_whole hcolon]
  have hname : unquote ('"' :: (right ++ ['"'])) = right := unquote_quoted right
  have hread := Message.read?_quotedLeft h hl hl' (isArrowHead_quoted hr' token (' ' :: text)) hcut
    (cleanReceiver_quoted right) (by rwa [hname])
  rwa [hname, trim_trimEnd, trim_space_cons, trim_eq_self ht, unquote_eq_self ht hquoted] at hread

/-- Of a name with a colon the part in front of the colon is read, with the quote that it begins with. -/
theorem Message.read?_cutTarget (h : (token, sense) ∈ messageArrows) (hl : left ≠ []) (hl' : '"' ∉ left)
    (hr' : '"' ∉ right) (hcolon : ':' ∈ right) (text : Text) :
    ∃ name said, Message.read? (quoted left ++ [' '] ++ (token ++ ' ' :: quotedTarget right text)) =
      some (sense.message left ('"' :: name) said) := by
  have hhead := isArrowHead_quoted hr' token (' ' :: text)
  obtain ⟨front, back, rfl, hfront⟩ := List.eq_append_cons_of_mem hcolon
  obtain ⟨name, hclean, hname⟩ := cleanReceiver_open fun hm => hr' (List.mem_append_left _ hm)
  have hcut : cutAt? (· == ':') (trim (quotedTarget (front ++ ':' :: back) text)) =
      some ('"' :: front, back ++ '"' :: ' ' :: ':' :: trimEnd (' ' :: text)) := by
    rw [trim_quotedTarget, cutAt?_quoted_cut hfront]
  have hread := Message.read?_quotedLeft h hl hl' hhead hcut hclean (by simp [hname])
  rw [hname] at hread
  exact ⟨_, _, hread⟩

/-- A message between two names in quotes is read with just these names, the kind of its arrow and its text,
exactly if there is no colon in the right one. -/
theorem Message.read?_quotedEnds (h : (token, sense) ∈ messageArrows) (hl : left ≠ []) (hl' : '"' ∉ left)
    (hr : right ≠ []) (hr' : '"' ∉ right) (ht : Tight text) (hquoted : ¬ ∃ t, text = '"' :: (t ++ ['"'])) :
    Message.read? (quoted left ++ " " ++ token ++ " " ++ quoted right ++ " : " ++ text) =
      some {
        sender := if sense.reverse then right else left
        receiver := if sense.reverse then left else right
        text
        kind := sense.kind
        isMethodCall := '(' ∈ text ∧ ')' ∈ text
        isExternal := false } ↔ ':' ∉ right := by
  have hline : quoted left ++ " " ++ token ++ " " ++ quoted right ++ " : " ++ text =
      quoted left ++ [' '] ++ (token ++ ' ' :: quotedTarget right text) := by simp [quotedTarget]
  rw [hline]
  constructor
  · intro hread hcolon
    obtain ⟨name, said, hcut⟩ := Message.read?_cutTarget h hl hl' hr' hcolon text
    have hmessage := Option.some.inj (hcut.symm.trans hread)
    -- the name that is read has a quote, and the one that is written has none
    have hright : '"' :: name = right := by
      cases hsense : sense.reverse with
      | false => simpa [MessageSense.message, hsense] using congrArg Message.receiver hmessage
      | true => simpa [MessageSense.message, hsense] using congrArg Message.sender hmessage
    exact hr' (hright ▸ List.mem_cons_self)
  · intro hcolon
    exact Message.read?_wholeTarget h hl hl' hr hr' hcolon ht hquoted

/-- Arrows, marks, brackets and blanks in the names, and an arrow that could be part of a word. -/
theorem Message.read?_quotedEnds_marked :
    Message.read? "\"[web -> x: 1\" --x \"+ A -x B --\" : done (ok)" =
      some ⟨"[web -> x: 1", "+ A -x B --", "done (ok)", .response, true, false⟩ :=
  (Message.read?_quotedEnds (by decide : (("--x" : Text), (⟨.response, false⟩ : MessageSense)) ∈ messageArrows)
    (by decide : ("[web -> x: 1" : Text) ≠ []) (by decide) (by decide : ("+ A -x B --" : Text) ≠ []) (by decide)
    (by decide : Tight "done (ok)") (by rintro ⟨t, ht⟩; cases ht)).2 (by decide)

/-- A colon in the right name ends it. -/
theorem Message.read?_quotedEnds_colon :
    Message.read? "\"A\" -> \"B:C\" : hi" = some ⟨"A", "\"B", "C\" : hi", .call, false, false⟩ := by
  decide +kernel

end DiagramProse
