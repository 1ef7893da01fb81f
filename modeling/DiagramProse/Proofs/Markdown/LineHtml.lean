import DiagramProse.Proofs.Markdown.LineReaders
import DiagramProse.Proofs.Text.Cuts
import Mathlib.Data.List.TakeWhile

/-!
The beginning of raw HTML is told from its line: from the name of a tag, or from a complete tag with its
attributes (`ofLine_htmlBlock?`).
-/

namespace DiagramProse.Markdown

open Text

variable {s : Text} {f : Char → Bool}

theorem mem_lowerAscii (h : '\n' ∈ s) : '\n' ∈ lowerAscii s :=
  List.mem_map.2 ⟨'\n', h, rfl⟩

/-- Whether a name stands here, and nothing behind it that would go on with it. -/
theorem ofLine_name {p : Text} (hp : '\n' ∉ lowerAscii p) (ends : Char → Bool) :
    OfLine fun s => equalIgnoreAsciiCase (s.take p.length) p && !(s.drop p.length).head?.any ends := by
  intro s h t
  have hother : ∀ u : Text, '\n' ∈ u → equalIgnoreAsciiCase u p = false := by
    intro u hu
    rw [equalIgnoreAsciiCase, beq_eq_false_iff_ne]
    intro he
    exact hp (he ▸ mem_lowerAscii hu)
  dsimp only
  by_cases hlong : p.length < s.length
  · have hhead : ((s ++ t).drop p.length).head? = (s.drop p.length).head? := by
      rw [List.drop_append_of_le_length (by omega)]
      rcases hd : s.drop p.length with _ | ⟨c, r⟩
      · rw [List.drop_eq_nil_iff] at hd; omega
      · rfl
    rw [List.take_append_of_le_length (by omega), hhead]
  · -- the line ends within what would be the name
    have hs : '\n' ∈ s.take p.length := by rwa [List.take_of_length_le (by omega)]
    have hst : '\n' ∈ (s ++ t).take p.length := by
      rw [List.take_append, List.take_of_length_le (by omega)]
      exact List.mem_append_left _ h
    rw [hother _ hs, hother _ hst]
    rfl

theorem ofLine_closingMark? : OfLine closingMark? := by
  intro s h t
  have hfind : ∀ tags : List Text, (∀ p ∈ tags, '\n' ∉ lowerAscii p) → ∀ ends : Char → Bool,
      tags.find? (fun p => equalIgnoreAsciiCase ((s ++ t).take p.length) p &&
        !((s ++ t).drop p.length).head?.any ends) =
        tags.find? (fun p => equalIgnoreAsciiCase (s.take p.length) p && !(s.drop p.length).head?.any ends) := by
    intro tags htags ends
    induction tags with
    | nil => rfl
    | cons p tags ih =>
      have hname := ofLine_name (htags p List.mem_cons_self) ends h t
      dsimp only at hname
      rw [List.find?_cons, List.find?_cons, hname, ih fun q hq => htags q (List.mem_cons_of_mem _ hq)]
  have hverbatim := hfind verbatimTags (by decide) fun c => !(isGapOrEnd c || c == '>')
  have hcomment := ofLine_startsWith (p := "!--") (by decide) h t
  have hinstruction := ofLine_startsWith (p := ['?']) (by decide) h t
  have hdata := ofLine_startsWith (p := "![CDATA[") (by decide) h t
  unfold closingMark?
  simp only [hverbatim, hcomment, hinstruction, hdata]
  generalize verbatimTags.find? _ = tag
  cases tag with
  | some tag => rfl
  | none =>
    dsimp only
    refine if_congr Iff.rfl rfl (if_congr Iff.rfl rfl (if_congr Iff.rfl rfl ?_))
    -- a declaration is told by two characters, of which the line end is not the first
    rcases s with _ | ⟨c, _ | ⟨d, s⟩⟩
    · cases h
    · obtain rfl : '\n' = c := by simpa using h
      rfl
    · by_cases hc : c = '!'
      · subst hc
        rfl
      · simp [hc]

theorem slash_cases (h : '\n' ∈ s) (t : Text) :
    (dropPrefix? (s ++ t) ['/']).getD (s ++ t) = (dropPrefix? s ['/']).getD s ++ t ∧
      '\n' ∈ (dropPrefix? s ['/']).getD s := by
  have hslash : OnLine fun s => dropPrefix? s ['/'] := onLine_dropPrefix? (by decide)
  rw [hslash.append h]
  rcases hr : dropPrefix? s ['/'] with _ | r
  · exact ⟨rfl, h⟩
  · exact ⟨rfl, hslash.mem h r hr⟩

theorem ofLine_beginsBlockTag : OfLine beginsBlockTag := by
  intro s h t
  obtain ⟨happend, hmem⟩ := slash_cases h t
  have htake := ofLine_takeWhile (f := Char.isAlphanum) rfl hmem t
  have hdrop := drop_takeWhile_append (f := Char.isAlphanum) hmem rfl t
  have hrest := mem_dropWhile (f := Char.isAlphanum) hmem rfl
  have hslash := ofLine_startsWith (p := "/>") (by decide) hrest t
  simp only [beginsBlockTag, happend, htake, hdrop, drop_takeWhile, hslash, ofLine_head? hrest]

/-- The text in front of the first character with a property, that character and what follows it. -/
theorem cutAt?_cases (h : '\n' ∈ s) (hf : f '\n' = true) :
    ∃ a d b, s = a ++ d :: b ∧ (∀ c ∈ a, f c = false) ∧ f d = true := by
  have hmem : '\n' ∈ s.dropWhile fun c => !f c := mem_dropWhile h (by rw [hf]; rfl)
  have hhead := List.head?_dropWhile_not (fun c => !f c) s
  rcases hd : s.dropWhile fun c => !f c with _ | ⟨d, b⟩
  · rw [hd] at hmem; cases hmem
  · rw [hd] at hhead
    refine ⟨s.takeWhile fun c => !f c, d, b, ?_, fun c hc => ?_, by simpa using hhead⟩
    · rw [← hd, List.takeWhile_append_dropWhile]
    · simpa using List.mem_takeWhile_imp hc

theorem onLine_afterValue? : OnLine afterValue? := by
  refine .of_exists fun s hs => ?_
  rcases s with _ | ⟨c, s⟩
  · cases hs
  · by_cases hq : c = '"' ∨ c = '\''
    · have hc : c ≠ '\n' := by rintro rfl; simp at hq
      obtain ⟨a, d, b, rfl, ha, hd⟩ := cutAt?_cases (f := fun x => x == c || isLineEnd x) (mem_of_cons hs hc)
        (by simp [isLineEnd])
      refine ⟨if d = c then some b else none, fun t => ?_, fun r hr => ?_⟩
      · have hcut : cutAt? (fun x => x == c || isLineEnd x) (a ++ d :: (b ++ t)) = some (a, b ++ t) :=
          cutAt?_append ha hd (b ++ t)
        have hhead : ((a ++ d :: (b ++ t)).drop a.length).head? = some d := by simp
        simp only [List.cons_append, List.append_assoc, afterValue?, if_pos hq, hcut, hhead, Option.some.injEq]
        split <;> rfl
      · split at hr
        · next hdc =>
          cases hr
          have hna : '\n' ∉ a := fun hm => by have := ha _ hm; simp [isLineEnd] at this
          exact mem_of_cons ((List.mem_append.1 (mem_of_cons hs hc)).resolve_left hna) (hdc ▸ hc)
        · cases hr
    · refine ⟨if isBareValueChar c then some ((c :: s).dropWhile isBareValueChar) else none, fun t => ?_,
        fun r hr => ?_⟩
      · have hdrop := dropWhile_append (f := isBareValueChar) hs rfl t
        rw [List.cons_append] at hdrop ⊢
        simp only [afterValue?, if_neg hq, hdrop]
        split <;> rfl
      · split at hr
        · cases hr
          exact mem_dropWhile hs rfl
        · cases hr

theorem onLine_afterAttribute? : OnLine afterAttribute? := by
  have hequals : OnLine fun s => dropPrefix? s ['='] := onLine_dropPrefix? (by decide)
  have hvalue : OnLine fun s => afterValue? (s.dropWhile isGap) := (onLine_dropWhile rfl).bind onLine_afterValue?
  refine .of_exists fun s hs => ?_
  rcases s with _ | ⟨c, s⟩
  · cases hs
  · by_cases hc : (c.isAlpha || c == '_' || c == ':') = true
    · have hne : c ≠ '\n' := by rintro rfl; cases hc
      have hname := mem_dropWhile (f := isAttributeChar) (mem_of_cons hs hne) rfl
      have hnext := mem_dropWhile (f := isGap) hname rfl
      refine ⟨afterAttribute? (c :: s), fun t => ?_, fun r hr => ?_⟩
      · rw [List.cons_append, afterAttribute?, afterAttribute?, if_pos hc, if_pos hc]
        dsimp only
        rw [dropWhile_append (mem_of_cons hs hne) rfl, dropWhile_append hname rfl, ofLine_head? hnext,
          hequals.append hnext]
        split
        · rfl
        · rcases hr : dropPrefix? ((s.dropWhile isAttributeChar).dropWhile isGap) ['='] with _ | r
          · rfl
          · exact hvalue.append (hequals.mem hnext r hr) t
      · rw [afterAttribute?, if_pos hc] at hr
        dsimp only at hr
        split at hr
        · cases hr
        · split at hr
          · next value he => exact hvalue.mem (hequals.mem hnext value he) r hr
          · cases hr
            exact hname
    · refine ⟨none, fun t => ?_, by simp⟩
      rw [List.cons_append, afterAttribute?, if_neg hc]
      rfl

theorem cutAt?_suffix {a b : Text} (h : cutAt? f s = some (a, b)) : b <:+ s := by
  induction s generalizing a b with
  | nil => cases h
  | cons c s ih =>
    unfold cutAt? at h
    split at h
    · cases h
      exact List.suffix_cons _ _
    · obtain ⟨⟨u, v⟩, huv, he⟩ := Option.map_eq_some_iff.1 h
      cases he
      exact (ih huv).trans (List.suffix_cons _ _)

theorem afterValue?_suffix {r : Text} (h : afterValue? s = some r) : r <:+ s := by
  rcases s with _ | ⟨c, s⟩
  · cases h
  · simp only [afterValue?] at h
    split at h
    · split at h
      · next value after hcut =>
        split at h
        · cases h
          exact (cutAt?_suffix hcut).trans (List.suffix_cons _ _)
        · cases h
      · cases h
    · split at h
      · cases h
        exact List.dropWhile_suffix _
      · cases h

/-- An attribute has at least one character. -/
theorem afterAttribute?_suffix {c : Char} {r : Text} (h : afterAttribute? (c :: s) = some r) : r <:+ s := by
  have hname : s.dropWhile isAttributeChar <:+ s := List.dropWhile_suffix _
  have hnext := (List.dropWhile_suffix (l := s.dropWhile isAttributeChar) isGap).trans hname
  unfold afterAttribute? at h
  dsimp only at h
  split at h
  · split at h
    · cases h
    · split at h
      · next value hvalue =>
        exact (((afterValue?_suffix h).trans (List.dropWhile_suffix _)).trans (dropPrefix?_suffix hvalue)).trans hnext
      · cases h
        exact hname
  · cases h

/-- The fuel does not matter if there is as much as text. -/
theorem afterAttributes?_append (fuel fuel' : Nat) (h : '\n' ∈ s) (hf : s.length < fuel)
    (hf' : s.length < fuel') (t : Text) :
    afterAttributes? fuel' (s ++ t) = (afterAttributes? fuel s).map (· ++ t) ∧
      ∀ r ∈ afterAttributes? fuel s, '\n' ∈ r := by
  induction fuel generalizing s fuel' with
  | zero => omega
  | succ fuel ih =>
    obtain ⟨fuel', rfl⟩ : ∃ n, fuel' = n + 1 := ⟨fuel' - 1, by omega⟩
    have hmem := mem_dropWhile (f := isGap) h rfl
    have hdrop := dropWhile_append (f := isGap) h rfl t
    have hlength : (s.dropWhile isGap).length ≤ s.length := (List.dropWhile_suffix _).length_le
    simp only [afterAttributes?, hdrop, ofLine_head? hmem, List.length_append, Nat.add_right_cancel_iff]
    generalize s.dropWhile isGap = u at hmem hlength
    rcases u with _ | ⟨c, u⟩
    · cases hmem
    · dsimp only [List.head?_cons]
      split
      · exact ⟨rfl, by simp⟩
      · split
        · exact ⟨rfl, by rintro r ⟨⟩; exact hmem⟩
        · split
          · exact ⟨rfl, by simp⟩
          · rw [onLine_afterAttribute?.append hmem]
            rcases hr : afterAttribute? (c :: u) with _ | r
            · exact ⟨rfl, by simp⟩
            · have hshort := (afterAttribute?_suffix hr).length_le
              rw [List.length_cons] at hlength
              exact ih _ (onLine_afterAttribute?.mem hmem r hr) (by omega) (by omega)

/-- What follows the attributes of an opening tag. -/
def afterAttributesEnd? (s : Text) : Option Text :=
  let u := s.dropWhile isGap
  dropPrefix? ((dropPrefix? u ['/']).getD u) ['>']

theorem onLine_afterAttributesEnd? : OnLine afterAttributesEnd? := by
  refine .of_exists fun s hs => ?_
  have hgap := mem_dropWhile (f := isGap) hs rfl
  have hbracket : OnLine fun s => dropPrefix? s ['>'] := onLine_dropPrefix? (by decide)
  refine ⟨afterAttributesEnd? s, fun t => ?_, ?_⟩
  · obtain ⟨happend, hmem⟩ := slash_cases hgap t
    unfold afterAttributesEnd?
    dsimp only
    rw [dropWhile_append hs rfl, happend]
    exact hbracket.append hmem t
  · exact hbracket.mem (slash_cases hgap []).2

theorem afterTag?_eq (s : Text) :
    afterTag? s =
      match dropPrefix? s ['/'] with
      | some t =>
        if t.head?.any Char.isAlpha then
          dropPrefix? ((t.dropWhile fun c => c.isAlphanum || c == '-').dropWhile isGap) ['>']
        else none
      | none =>
        if s.head?.any Char.isAlpha then
          (afterAttributes? (s.length + 1) (s.dropWhile fun c => c.isAlphanum || c == '-')).bind afterAttributesEnd?
        else none := by
  unfold afterTag?
  rcases dropPrefix? s ['/'] with _ | t
  · dsimp only
    unfold guard
    split <;> rfl
  · dsimp only
    unfold guard
    split <;> rfl

theorem onLine_afterTag? : OnLine afterTag? := by
  have hslash : OnLine fun s => dropPrefix? s ['/'] := onLine_dropPrefix? (by decide)
  have hclosing : OnLine fun s => dropPrefix? (s.dropWhile isGap) ['>'] :=
    (onLine_dropWhile rfl).bind (onLine_dropPrefix? (by decide))
  have hname : ∀ {u : Text}, '\n' ∈ u → '\n' ∈ u.dropWhile fun c => c.isAlphanum || c == '-' :=
    fun hu => mem_dropWhile hu rfl
  refine .of_exists fun s hs => ⟨afterTag? s, fun t => ?_, fun r hr => ?_⟩
  · rw [afterTag?_eq, afterTag?_eq, hslash.append hs]
    rcases hr : dropPrefix? s ['/'] with _ | r
    · have hlength : (s.dropWhile fun c => c.isAlphanum || c == '-').length ≤ s.length :=
        (List.dropWhile_suffix _).length_le
      obtain ⟨hattributes, hmem⟩ := afterAttributes?_append (s.length + 1) ((s ++ t).length + 1)
        (hname hs) (by omega) (by rw [List.length_append]; omega) t
      dsimp only [Option.map_none]
      rw [ofLine_head? hs, dropWhile_append hs rfl, hattributes]
      split
      · rcases ha : afterAttributes? (s.length + 1) (s.dropWhile fun c => c.isAlphanum || c == '-') with _ | u
        · rfl
        · exact onLine_afterAttributesEnd?.append (hmem u ha) t
      · rfl
    · have hmem := hslash.mem hs r hr
      dsimp only [Option.map_some]
      rw [ofLine_head? hmem, dropWhile_append hmem rfl]
      split
      · exact hclosing.append (hname hmem) t
      · rfl
  · rw [afterTag?_eq] at hr
    split at hr
    · next u hu =>
      split at hr
      · exact hclosing.mem (hname (hslash.mem hs u hu)) r hr
      · cases hr
    · split at hr
      · obtain ⟨u, hu, hr⟩ := Option.bind_eq_some_iff.1 hr
        have hlength : (s.dropWhile fun c => c.isAlphanum || c == '-').length ≤ s.length :=
          (List.dropWhile_suffix _).length_le
        have hmem :=
          (afterAttributes?_append (s.length + 1) (s.length + 1) (hname hs) (by omega) (by omega) []).2 u hu
        exact onLine_afterAttributesEnd?.mem hmem r hr
      · cases hr

theorem ofLine_isLoneTag : OfLine isLoneTag := by
  intro s h t
  have hbind := congrArg Option.isSome (onLine_afterTag?.append h t)
  unfold isLoneTag
  rw [onLine_afterTag?.append h]
  rcases hr : afterTag? s with _ | r
  · rfl
  · exact ofLine_afterBlankLine? (onLine_afterTag?.mem h r hr) t

theorem ofLine_interruptingHtml? : OfLine interruptingHtml? := by
  intro s h t
  have hbracket : OnLine fun s => dropPrefix? s ['<'] := onLine_dropPrefix? (by decide)
  unfold interruptingHtml?
  rw [hbracket.append h]
  rcases hr : dropPrefix? s ['<'] with _ | r
  · rfl
  · have hmem := hbracket.mem h r hr
    show ((closingMark? (r ++ t)).map HtmlEnd.mark <|> if beginsBlockTag (r ++ t) then some .blankLine else none) = _
    rw [ofLine_closingMark? hmem, ofLine_beginsBlockTag hmem]
    rfl

theorem ofLine_htmlBlock? : OfLine htmlBlock? := by
  intro s h t
  have hbracket : OnLine fun s => dropPrefix? s ['<'] := onLine_dropPrefix? (by decide)
  unfold htmlBlock?
  rw [ofLine_interruptingHtml? h, hbracket.append h]
  rcases hr : dropPrefix? s ['<'] with _ | r
  · rfl
  · have hmem := hbracket.mem h r hr
    rw [Option.map_some, Option.bind_some, Option.bind_some, ofLine_isLoneTag hmem]

end DiagramProse.Markdown
