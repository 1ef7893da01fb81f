import DiagramProse.Proofs.Text.FirstOccurrences
import DiagramProse.SequenceDiagram.Reading

/-!
The participants of a sequence diagram are those that its lines name (`SequenceDiagram.read_participants`):
each id once, in the order in which declarations and messages name them first, and under each id what its
last declaration says. The ends of messages are among them.

A line is read on its own once it is known whether it belongs to a note, so the diagram depends on no more
than the list of statements (`said`).
-/

namespace DiagramProse

open Text

/-! ## Statements of a source -/

namespace SequenceStatement

/-- Whether a note goes on behind the statement. -/
def opensNote : SequenceStatement → Bool
  | note isOpen => isOpen
  | _ => false

/-- What the lines outside notes say, in order; `inNote` tells whether the first one belongs to a note. -/
def ofLines (dialect : Dialect) : (inNote : Bool) → List Text → List SequenceStatement
  | _, [] => []
  | true, line :: rest => ofLines dialect (!isEndOfNote line.trim) rest
  | false, line :: rest =>
    read dialect line.trim :: ofLines dialect (read dialect line.trim).opensNote rest

/-- The ids that a statement names: that of the declared participant, or of sender and receiver. Nobody has
the empty id of a sender outside the diagram. -/
def ids : SequenceStatement → List Text
  | declaration p => [p.id]
  | message m => [m.sender, m.receiver].filter fun id => !id.isEmpty
  | _ => []

/-- The participant that a statement declares under the given id. -/
def declares? (id : Text) : SequenceStatement → Option Participant
  | declaration p => if p.id = id then some p else none
  | _ => none

end SequenceStatement

namespace SequenceDiagram

/-- What a source says, outside notes. -/
def said (dialect : Dialect) (source : Text) : List SequenceStatement :=
  SequenceStatement.ofLines dialect false source.lines

def ids (d : SequenceDiagram) : List Text := d.participants.map Participant.id

/-- What was said of an id: its last declaration, or nothing but the id. -/
def participantOf (statements : List SequenceStatement) (id : Text) : Participant :=
  (statements.reverse.findSome? (SequenceStatement.declares? id)).getD (.implicit id)

/-- The diagram with what one more statement says. -/
def hear (d : SequenceDiagram) (s : SequenceStatement) : SequenceDiagram :=
  (SequenceReader.apply ⟨d, false⟩ s).diagram

theorem diagram_foldl_step (dialect : Dialect) (lines : List Text) (r : SequenceReader) :
    (lines.foldl (SequenceReader.step dialect) r).diagram =
      (SequenceStatement.ofLines dialect r.inNote lines).foldl hear r.diagram := by
  induction lines generalizing r with
  | nil => rfl
  | cons line lines ih =>
    obtain ⟨d, inNote⟩ := r
    rw [List.foldl_cons, ih]
    cases inNote with
    | true => rfl
    | false =>
      simp only [SequenceReader.step, SequenceStatement.ofLines, List.foldl_cons, Bool.false_eq_true, if_false]
      cases SequenceStatement.read dialect line.trim <;> rfl

theorem read_eq_foldl (dialect : Dialect) (source : Text) :
    read dialect source = (said dialect source).foldl hear .empty :=
  diagram_foldl_step dialect source.lines .start

/-! ## Participants -/

variable {statements : List SequenceStatement} {names : List Text} {id : Text}

theorem participantOf_declaration (p : Participant) :
    participantOf (statements ++ [.declaration p]) id =
      if p.id = id then p else participantOf statements id := by
  unfold participantOf
  rw [List.reverse_append]
  by_cases h : p.id = id <;> simp [SequenceStatement.declares?, h]

theorem participantOf_other {s : SequenceStatement} (h : s.declares? id = none) :
    participantOf (statements ++ [s]) id = participantOf statements id := by
  unfold participantOf
  rw [List.reverse_append]
  simp [h]

theorem id_participantOf (statements : List SequenceStatement) (id : Text) :
    (participantOf statements id).id = id := by
  unfold participantOf
  rcases h : statements.reverse.findSome? (SequenceStatement.declares? id) with _ | p
  · rfl
  · obtain ⟨s, -, hs⟩ := List.exists_of_findSome?_eq_some h
    cases s with
    | declaration q =>
      simp only [SequenceStatement.declares?] at hs
      split at hs
      · next hq => cases hs; exact hq
      · cases hs
    | _ => cases hs

/-- Of an id that was not named nothing is known but itself. -/
theorem participantOf_of_not_mem (h : id ∉ statements.flatMap SequenceStatement.ids) :
    participantOf statements id = .implicit id := by
  unfold participantOf
  have hnone : statements.reverse.findSome? (SequenceStatement.declares? id) = none := by
    rw [List.findSome?_eq_none_iff]
    intro s hs
    cases s with
    | declaration p =>
      have hp : p.id ≠ id := by
        rintro rfl
        exact h (List.mem_flatMap.2 ⟨_, List.mem_reverse.1 hs, List.mem_cons_self⟩)
      simp [SequenceStatement.declares?, hp]
    | _ => rfl
  rw [hnone]
  rfl

/-- A declaration replaces the participant with its id and leaves the others, or comes last. -/
theorem insert_map {f : Text → Participant} (hf : ∀ n, (f n).id = n) (hn : names.Nodup) (p : Participant) :
    p.insert (names.map f) = (addNew names p.id).map fun n => if p.id = n then p else f n := by
  induction names with
  | nil => simp [Participant.insert, addNew]
  | cons n names ih =>
    obtain ⟨hmem, hn⟩ := List.nodup_cons.1 hn
    rw [List.map_cons, Participant.insert, hf]
    by_cases h : n = p.id
    · have hothers : names.map f = names.map fun m => if p.id = m then p else f m := by
        refine List.map_congr_left fun m hm => (if_neg ?_).symm
        rintro rfl
        exact hmem (h ▸ hm)
      rw [if_pos h, addNew_of_mem (by simp [h]), hothers]
      simp [h]
    · have hcons : addNew (n :: names) p.id = n :: addNew names p.id := by
        unfold addNew
        by_cases hp : p.id ∈ names <;> simp [hp, Ne.symm h]
      rw [if_neg h, ih hn, hcons]
      simp [Ne.symm h]

/-- A participant that is mentioned is there, whatever was known of the others. -/
theorem mention_map {d : SequenceDiagram} {f : Text → Participant} (hd : d.participants = names.map f)
    (hf : ∀ n, (f n).id = n) (hnew : id ∉ names → f id = .implicit id) :
    (d.mention id).participants = (([id].filter fun id => !id.isEmpty).foldl addNew names).map f := by
  have hsome : (d.participant? id).isSome ↔ id ∈ names := by
    simp [participant?, hd, hf]
  unfold mention
  by_cases hempty : id.isEmpty
  · simp [hempty, hd]
  · by_cases hmem : id ∈ names
    · simp [hempty, hsome.2 hmem, hd, addNew_of_mem hmem]
    · simp [hempty, mt hsome.1 hmem, hd, addNew_of_not_mem hmem, hnew hmem]

/-- Who is there after some statements: all ids that were named, in order, and what was said of them last. -/
theorem participants_foldl_hear (statements : List SequenceStatement) :
    (statements.foldl hear .empty).participants =
      ((statements.flatMap SequenceStatement.ids).foldl addNew []).map (participantOf statements) := by
  induction statements using List.reverseRecOn with
  | nil => rfl
  | append_singleton statements s ih =>
    have hnodup : ((statements.flatMap SequenceStatement.ids).foldl addNew []).Nodup :=
      nodup_foldl_addNew List.nodup_nil
    have hmem : ∀ n, n ∈ (statements.flatMap SequenceStatement.ids).foldl addNew [] ↔
        n ∈ statements.flatMap SequenceStatement.ids := by simp [mem_foldl_addNew]
    rw [List.foldl_append, List.flatMap_append, List.foldl_append]
    -- from here on it only matters of the ids that each is there once, and which ones are
    generalize (statements.flatMap SequenceStatement.ids).foldl addNew [] = names at ih hnodup hmem ⊢
    cases s with
    | declaration p =>
      have hparticipants : participantOf (statements ++ [.declaration p]) =
          fun n => if p.id = n then p else participantOf statements n :=
        funext fun n => participantOf_declaration p
      have hinsert := insert_map (id_participantOf statements) hnodup p
      rw [← ih] at hinsert
      rw [hparticipants]
      exact hinsert
    | message m =>
      have hparticipants : participantOf (statements ++ [.message m]) = participantOf statements :=
        funext fun n => participantOf_other rfl
      have hnew : ∀ n, n ∉ names → participantOf statements n = .implicit n := fun n hn =>
        participantOf_of_not_mem (mt (hmem n).2 hn)
      -- the sender is mentioned first, and then the receiver
      have hsender := mention_map ih (id_participantOf statements) (hnew m.sender)
      have hreceiver := mention_map hsender (id_participantOf statements) fun hn =>
        hnew m.receiver fun hm => hn (mem_foldl_addNew.2 (.inl hm))
      rw [hparticipants]
      refine hreceiver.trans ?_
      rw [← List.foldl_append, ← List.filter_append]
      simp [SequenceStatement.ids]
    | numbering | note isOpen | other =>
      have hparticipants : ∀ s : SequenceStatement, (∀ n, s.declares? n = none) →
          participantOf (statements ++ [s]) = participantOf statements := fun s hs =>
        funext fun n => participantOf_other (hs n)
      rw [hparticipants _ fun n => rfl]
      exact ih

/-! ## Messages -/

/-- A message has a receiver, and a sender unless it comes from outside. -/
theorem ofEnds?_ends {isExternal : Bool} {kind : MessageKind} {sender receiver text : Text} {m : Message}
    (h : Message.ofEnds? isExternal kind sender receiver text = some m) :
    m.receiver ≠ [] ∧ (m.sender = [] ↔ m.isExternal = true) := by
  unfold Message.ofEnds? at h
  split at h
  · cases h
  · next hends =>
    cases h
    cases isExternal <;> simp_all

theorem read?_ends {line : Text} {m : Message} (h : Message.read? line = some m) :
    m.receiver ≠ [] ∧ (m.sender = [] ↔ m.isExternal = true) := by
  unfold Message.read? at h
  obtain ⟨found, -, h⟩ := Option.bind_eq_some_iff.1 h
  obtain ⟨-, -, h⟩ := Option.bind_eq_some_iff.1 h
  obtain ⟨-, -, h⟩ := Option.bind_eq_some_iff.1 h
  exact ofEnds?_ends h

theorem message_of_read {dialect : Dialect} {line : Text} {m : Message}
    (h : SequenceStatement.read dialect line = .message m) : Message.read? line = some m := by
  unfold SequenceStatement.read at h
  split at h
  · cases h
  · split at h
    · cases h
    · split at h
      · cases h
      · rcases hp : Participant.read? dialect line with _ | p
        · rcases hm : Message.read? line with _ | m'
          · rw [hp, hm] at h
            cases h
          · rw [hp, hm] at h
            cases h
            rfl
        · rw [hp] at h
          cases h

theorem message_of_mem_ofLines {dialect : Dialect} {inNote : Bool} {lines : List Text} {m : Message}
    (h : .message m ∈ SequenceStatement.ofLines dialect inNote lines) :
    ∃ line, Message.read? line = some m := by
  induction lines generalizing inNote with
  | nil => cases h
  | cons line lines ih =>
    cases inNote with
    | true => exact ih h
    | false =>
      rcases List.mem_cons.1 h with hs | h
      · exact ⟨_, message_of_read hs.symm⟩
      · exact ih h

theorem messages_mention (d : SequenceDiagram) (id : Text) : (d.mention id).messages = d.messages := by
  unfold mention
  split <;> rfl

theorem messages_hear_message (d : SequenceDiagram) (m : Message) :
    (d.hear (.message m)).messages = d.messages ++ [m] := by
  show ((d.mention m.sender).mention m.receiver).messages ++ [m] = d.messages ++ [m]
  rw [messages_mention, messages_mention]

theorem mem_messages_foldl_hear {d : SequenceDiagram} {m : Message}
    (h : m ∈ (statements.foldl hear d).messages) : m ∈ d.messages ∨ .message m ∈ statements := by
  induction statements generalizing d with
  | nil => exact .inl h
  | cons s statements ih =>
    rcases ih h with h | h
    · cases s with
      | message n =>
        rw [messages_hear_message, List.mem_append, List.mem_singleton] at h
        rcases h with h | rfl
        · exact .inl h
        · exact .inr List.mem_cons_self
      | _ => exact .inl h
    · exact .inr (List.mem_cons_of_mem _ h)

/-- The participants are those that the source names, in the order in which it names them first, each as it
was declared last. A message has a receiver among them, and a sender among them unless it comes from
outside. -/
theorem read_participants (dialect : Dialect) (source : Text) :
    (read dialect source).ids = ((said dialect source).flatMap SequenceStatement.ids).eraseDups ∧
      (read dialect source).ids.Nodup ∧
      (read dialect source).participants = (read dialect source).ids.map (participantOf (said dialect source)) ∧
      ∀ m ∈ (read dialect source).messages,
        m.receiver ≠ [] ∧ m.receiver ∈ (read dialect source).ids ∧
          (m.sender = [] ↔ m.isExternal = true) ∧
          (m.isExternal = false → m.sender ∈ (read dialect source).ids) := by
  have hparticipants := participants_foldl_hear (said dialect source)
  rw [foldl_addNew_nil, ← read_eq_foldl] at hparticipants
  have hids : (read dialect source).ids = ((said dialect source).flatMap SequenceStatement.ids).eraseDups := by
    rw [ids, hparticipants, List.map_map]
    exact (List.map_congr_left fun n _ => id_participantOf _ n).trans (List.map_id _)
  refine ⟨hids, hids ▸ nodup_eraseDups _, hids ▸ hparticipants, fun m hm => ?_⟩
  rw [read_eq_foldl] at hm
  have hsaid : .message m ∈ said dialect source := (mem_messages_foldl_hear hm).resolve_left (by simp [empty])
  obtain ⟨line, hline⟩ := message_of_mem_ofLines hsaid
  obtain ⟨hreceiver, hsender⟩ := read?_ends hline
  have hnamed : ∀ id ∈ [m.sender, m.receiver], id ≠ [] → id ∈ (read dialect source).ids := by
    intro id hid hne
    rw [hids, List.mem_eraseDups]
    exact List.mem_flatMap.2 ⟨_, hsaid, List.mem_filter.2 ⟨hid, by simpa using hne⟩⟩
  refine ⟨hreceiver, hnamed _ (by simp) hreceiver, hsender, fun he => hnamed _ (by simp) ?_⟩
  rw [Ne, hsender, he]
  exact Bool.false_ne_true

end SequenceDiagram

end DiagramProse
