import DiagramProse.Proofs.Text.Placeholders
import DiagramProse.SequenceDiagram.Prose

/-!
What a message is told as: the sentence for it, with the names of both ends and its text filled in
(`SequenceDiagram.describe_message`).

The values are filled in one after the other, so a name that reads like the place of a later value is not shown as it
is (`describe_message_disturbed`). In general each value is shown with the later ones filled in
(`describeMessage_eq_fillAtOnce`); `HasPlainValues` says when that changes none of them.
-/

namespace DiagramProse

open Text Html

namespace SequencePhrases

/-- The sentences for messages. -/
def sentences (p : SequencePhrases) : List Text := [p.calls, p.callsMethod, p.sendsMessage, p.responds, p.respondsWith]

/-- The names of the places in the sentences for messages. -/
def messageKeys : List Text := ["from", "to", "call", "text"]

/-- The places of every sentence stand apart from each other. -/
theorem sentences_apart (l : Locale) : ∀ sentence ∈ (of l).sentences, Apart messageKeys sentence := by
  cases l with
  | en => decide +kernel
  | nl => decide +kernel

end SequencePhrases

theorem Message.phrasing_mem (p : SequencePhrases) (m : Message) : (m.phrasing p).1 ∈ p.sentences := by
  unfold Message.phrasing SequencePhrases.sentences
  simp only
  split
  · split_ifs
    all_goals simp
  · split_ifs
    all_goals simp

namespace SequenceDiagram

variable {d : SequenceDiagram} {p : SequencePhrases} {m : Message}

/-- What is filled into the sentence for a message. -/
def messageValues (d : SequenceDiagram) (p : SequencePhrases) (m : Message) : List (Text × Text) :=
  [("from", d.senderName p m), ("to", escape (d.displayName m.receiver)), ("call", (m.phrasing p).2),
    ("text", (m.phrasing p).2)]

theorem messageValues_keys (d : SequenceDiagram) (p : SequencePhrases) (m : Message) :
    ∀ entry ∈ d.messageValues p m, IsKey entry.1 := by
  have hkeys : ∀ key ∈ SequencePhrases.messageKeys, IsKey key := by decide
  exact List.forall_mem_map.1 hkeys

/-- Each value is shown with the later ones filled in. -/
theorem describeMessage_eq_fillAtOnce (d : SequenceDiagram) (l : Locale) (m : Message) :
    d.describeMessage (.of l) m = fillAtOnce (m.phrasing (.of l)).1 (settled (d.messageValues (.of l) m)) :=
  fill_of_apart (d.messageValues_keys _ m) _ (SequencePhrases.sentences_apart l _ (m.phrasing_mem _))

/-- Neither the names nor the text of a message hold a place that is filled in later. -/
structure HasPlainValues (d : SequenceDiagram) (p : SequencePhrases) (m : Message) : Prop where
  sender : ∀ key ∈ (["to", "call", "text"] : List Text), contains (d.senderName p m) (placeholder key) = false
  receiver : ∀ key ∈ (["call", "text"] : List Text),
    contains (escape (d.displayName m.receiver)) (placeholder key) = false
  text : contains (m.phrasing p).1 (placeholder "call") = true → contains (m.phrasing p).2 (placeholder "text") = false

instance (d : SequenceDiagram) (p : SequencePhrases) (m : Message) : Decidable (d.HasPlainValues p m) :=
  decidable_of_iff (_ ∧ _ ∧ _)
    ⟨fun h => ⟨h.1, h.2.1, h.2.2⟩, fun h => ⟨h.sender, h.receiver, h.text⟩⟩

/-- The values that the sentence has a place for stay as they are. -/
theorem HasPlainValues.find?_settled (h : d.HasPlainValues p m) {key : Text}
    (hkey : contains (m.phrasing p).1 (placeholder key) = true) :
    (settled (d.messageValues p m)).find? (fun entry => entry.1 = key) =
      (d.messageValues p m).find? fun entry => entry.1 = key := by
  have hsender : fill (d.senderName p m) ((d.messageValues p m).drop 1) = d.senderName p m :=
    fill_eq_self fun entry he => h.sender entry.1 (List.mem_map_of_mem he)
  have hreceiver : fill (escape (d.displayName m.receiver)) ((d.messageValues p m).drop 2) =
      escape (d.displayName m.receiver) :=
    fill_eq_self fun entry he => h.receiver entry.1 (List.mem_map_of_mem he)
  have hsettled : settled (d.messageValues p m) =
      ([("from", d.senderName p m), ("to", escape (d.displayName m.receiver)),
        ("call", fill (m.phrasing p).2 [("text", (m.phrasing p).2)]), ("text", (m.phrasing p).2)] : List (Text × Text)) := by
    rw [messageValues] at hsender hreceiver ⊢
    simp only [List.drop_succ_cons, List.drop_zero] at hsender hreceiver
    simp only [settled, hsender, hreceiver]
    rfl
  rw [hsettled, messageValues]
  by_cases hcall : "call" = key
  · -- the sentence has a place for a call
    subst hcall
    have htext : fill (m.phrasing p).2 [("text", (m.phrasing p).2)] = (m.phrasing p).2 :=
      fill_eq_self (List.forall_mem_singleton.2 (h.text hkey))
    rw [htext]
  · simp only [List.find?_cons, hcall, decide_false]

/-! ## The item of a message -/

/-- The sentence for a message with all values filled in at once. -/
def toldMessage (d : SequenceDiagram) (p : SequencePhrases) (m : Message) : Text :=
  fillAtOnce (m.phrasing p).1 (d.messageValues p m)

theorem describeMessage_eq_toldMessage {l : Locale} (h : d.HasPlainValues (.of l) m) :
    d.describeMessage (.of l) m = d.toldMessage (.of l) m := by
  rw [describeMessage_eq_fillAtOnce, toldMessage]
  exact fillAtOnce_congr (isKey_settled (d.messageValues_keys _ m)) (map_fst_settled _).symm
    fun key hkey => h.find?_settled hkey

/-- The item of a message is its sentence, with the names and the text filled in as they are. -/
theorem describe_message {i : Nat} (locale : Text) (hm : d.messages[i]? = some m)
    (h : d.HasPlainValues (.of (.resolve locale .nl)) m) :
    ∃ summary label items, d.describe locale = [.paragraph summary, .heading label, .list (.mk d.isNumbered items)] ∧
      items.length = d.messages.length ∧
      items[i]? = some (.leaf (d.toldMessage (.of (.resolve locale .nl)) m)) := by
  have hlist : ∀ p, labelled p.interactions (.ofLeaves d.isNumbered (d.messages.map (d.describeMessage p))) =
      [.heading p.interactions, .list (.ofLeaves d.isNumbered (d.messages.map (d.describeMessage p)))] := by
    intro p
    have hne : d.messages ≠ [] := List.ne_nil_of_mem (List.mem_of_getElem? hm)
    rw [labelled, if_neg (by simpa [Listing.isEmpty, Listing.ofLeaves, Listing.items] using hne)]
  refine ⟨_, _, _, congrArg (_ :: ·) (hlist _), ?_, ?_⟩
  · rw [List.length_map, List.length_map]
  · rw [List.getElem?_map, List.getElem?_map, hm, ← describeMessage_eq_toldMessage h]
    rfl

/-- A message with a text that holds a place. -/
def bracedMessage : Message := ⟨"a", "b", "use {call} & {to}", .call, false, false⟩

/-- Its sender has a name that reads like its own place, and its receiver one that reads like the place before. -/
def bracedTalk : SequenceDiagram where
  participants := [⟨"a", "{from} <A>", none, false⟩, ⟨"b", "{to}", none, false⟩]
  messages := [bracedMessage]
  isNumbered := true

theorem describe_message_braced :
    (bracedTalk.messages[0]? = some bracedMessage ∧
      bracedTalk.HasPlainValues (.of (.resolve "en" .nl)) bracedMessage) ∧
    ∃ summary label, bracedTalk.describe "en" = [.paragraph summary, .heading label,
      .list (.mk true [.leaf "{from} &lt;A&gt; sends {to} the message 'use {call} &amp; {to}'"])] := by
  have hplain : bracedTalk.HasPlainValues (.of (.resolve "en" .nl)) bracedMessage := by decide +kernel
  have htold : bracedTalk.toldMessage (.of (.resolve "en" .nl)) bracedMessage =
      "{from} &lt;A&gt; sends {to} the message 'use {call} &amp; {to}'" := by decide +kernel
  obtain ⟨summary, label, items, hdescribe, hlength, hitem⟩ := describe_message (i := 0) "en" rfl hplain
  refine ⟨⟨rfl, hplain⟩, summary, label, ?_⟩
  obtain ⟨item, rfl⟩ := List.length_eq_one_iff.1 hlength
  rw [htold] at hitem
  rw [hdescribe, Option.some.inj hitem]
  rfl

/-- A sender whose name reads like the place of the text. -/
def disturbedTalk : SequenceDiagram where
  participants := [⟨"a", "{text}", none, false⟩, .implicit "B"]
  messages := [⟨"a", "B", "hello there", .call, false, false⟩]
  isNumbered := false

theorem describe_message_disturbed :
    disturbedTalk.toldMessage .english ⟨"a", "B", "hello there", .call, false, false⟩ =
        "{text} sends B the message 'hello there'" ∧
      (disturbedTalk.describe "en").write = "<p>Sequence diagram with 2 participants: {text} and B.</p>\n" ++
        "<p><strong>Interactions:</strong></p>\n" ++
        "<ul>\n<li>hello there sends B the message 'hello there'</li>\n</ul>" := by
  decide +kernel

end SequenceDiagram

end DiagramProse
