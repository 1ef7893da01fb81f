import DiagramProse.Proofs.C4Diagram.Calls
import Mathlib.Data.Option.Basic

/-!
A C4 diagram that is written and read again comes back as it was (`C4Diagram.read_written`). Each of its
elements and relationships is one call on a line of its own; which of the names for it that call has, and how
elements of different sorts come between each other, is left open.
-/

namespace DiagramProse

open Text

/-! ## Writing -/

/-- What one call tells of. -/
inductive C4Item where
  | actor (a : C4Actor)
  | system (s : C4System)
  | container (c : C4Container)
  | component (c : C4Component)
  | relationship (r : C4Relationship)
deriving DecidableEq

namespace C4Item

/-- What the name of the call stands for. -/
def element : C4Item → C4Element
  | actor a => .actor a.isExternal
  | system s => .system s.kind s.isExternal
  | container c => if c.kind.isBoundary then .boundary c.kind else .container c.kind c.isExternal
  | component c => .component c.isDatabase
  | relationship r => .relationship r.isBidirectional

/-- A missing technology is written as an empty argument. -/
def arguments : C4Item → List Text
  | actor a => [a.id, a.name, a.description]
  | system s => [s.id, s.name, s.description]
  | container c =>
    if c.kind.isBoundary then [c.id, c.name] else [c.id, c.name, c.technology.getD [], c.description]
  | component c => [c.id, c.name, c.technology.getD [], c.description]
  | relationship r => [r.source, r.target, r.label, r.technology.getD []]

def technology : C4Item → Option Text
  | container c => c.technology
  | component c => c.technology
  | relationship r => r.technology
  | actor _ | system _ => none

/-- Of a boundary there is nothing to tell but its name. -/
def isPlainBoundary : C4Item → Bool
  | container c => !c.kind.isBoundary || (c.technology.isNone && c.description.isEmpty && !c.isExternal)
  | _ => true

/-- The first two texts, which are ids and names, are not empty, nor is a technology. -/
def isWritable (i : C4Item) : Bool :=
  (i.arguments.take 2).all (fun s => !s.isEmpty) && i.arguments.all isQuotable &&
    i.technology.all (fun s => !s.isEmpty) && i.isPlainBoundary

def actor? : C4Item → Option C4Actor
  | actor a => some a
  | _ => none

def system? : C4Item → Option C4System
  | system s => some s
  | _ => none

def container? : C4Item → Option C4Container
  | container c => some c
  | _ => none

def component? : C4Item → Option C4Component
  | component c => some c
  | _ => none

def relationship? : C4Item → Option C4Relationship
  | relationship r => some r
  | _ => none

end C4Item

/-- A line: an item and the name of its call. -/
structure C4Line where
  name : Text
  item : C4Item

def C4Line.call (l : C4Line) : C4Call := ⟨l.name, l.item.arguments⟩

namespace C4Diagram

def source (ls : List C4Line) : Text := join ['\n'] (ls.map fun l => l.call.line)

/-- Lines for a diagram: each has a name for its item, and those of the same sort are in order. -/
structure WrittenBy (d : C4Diagram) (ls : List C4Line) : Prop where
  names : ∀ l ∈ ls, C4Element.ofName? l.name = some l.item.element
  actors : ls.filterMap (·.item.actor?) = d.actors
  systems : ls.filterMap (·.item.system?) = d.systems
  containers : ls.filterMap (·.item.container?) = d.containers
  components : ls.filterMap (·.item.component?) = d.components
  relationships : ls.filterMap (·.item.relationship?) = d.relationships

def items (d : C4Diagram) : List C4Item :=
  d.actors.map .actor ++ d.systems.map .system ++ d.containers.map .container ++ d.components.map .component ++
    d.relationships.map .relationship

def isWritable (d : C4Diagram) : Bool := d.items.all C4Item.isWritable && d.level == d.finestLevel

end C4Diagram

/-! ## Names -/

theorem isCallName_append {base rest : Text} (hbase : isCallName base = true) (hrest : rest.all isCallChar = true) :
    isCallName (base ++ rest) = true := by
  obtain ⟨c, u, rfl, hc, hu⟩ := isCallName_cases hbase
  have hall : (c :: u ++ rest).all isCallChar = true := by
    rw [List.all_append, hrest, List.all_eq_true.2 hu]
    rfl
  rw [isCallName, hall]
  simpa using hc

theorem isCallName_of_relationshipOfName? {name : Text} {e : C4Element} (h : relationshipOfName? name = some e) :
    isCallName name = true := by
  unfold relationshipOfName? at h
  obtain ⟨⟨isBidirectional, rest⟩, hname, h⟩ := Option.bind_eq_some_iff.1 h
  obtain ⟨_, hguard, -⟩ := Option.bind_eq_some_iff.1 h
  -- what is behind the base is empty, or an underscore and a direction
  have hrest : rest.all isCallChar = true := by
    have hdirections : ∀ dir ∈ relationshipDirections, dir.all isCallChar = true := by decide
    unfold guard at hguard
    split at hguard
    · next hcond =>
      rcases rest with _ | ⟨c, rest⟩
      · rfl
      · obtain ⟨dir, hdir, hmem⟩ := (Option.any_eq_true _ _).1 hcond
        rw [dropPrefix?_eq_some_iff.1 hdir, List.singleton_append, List.all_cons,
          hdirections dir (List.contains_iff_mem.1 hmem)]
        rfl
    · cases hguard
  obtain hname | ⟨-, hname⟩ := (Option.orElse_eq_some ..).1 hname
  all_goals
    obtain ⟨rest, hdrop, hpair⟩ := Option.map_eq_some_iff.1 hname
    cases hpair
    rw [dropPrefix?_eq_some_iff.1 hdrop]
    exact isCallName_append (by decide) hrest

/-- The names that stand for something can be called. -/
theorem isCallName_of_ofName? {name : Text} {e : C4Element} (h : C4Element.ofName? name = some e) :
    isCallName name = true := by
  have htable : ∀ p ∈ c4ElementNames, isCallName p.1 = true := by decide
  obtain h | ⟨-, h⟩ := (Option.orElse_eq_some ..).1 h
  · obtain ⟨front, behind, htableEq, -⟩ := List.lookup_eq_some_iff.1 h
    exact htable (name, e) (by rw [htableEq]; simp)
  · exact isCallName_of_relationshipOfName? h

/-! ## Items -/

namespace C4Item

theorem isWritable_call {i : C4Item} (h : i.isWritable = true) {name : Text}
    (hname : C4Element.ofName? name = some i.element) : (C4Line.call ⟨name, i⟩).isWritable = true := by
  simp only [isWritable, Bool.and_eq_true] at h
  obtain ⟨⟨⟨-, hquotable⟩, -⟩, -⟩ := h
  have hne : i.arguments.isEmpty = false := by
    cases i with
    | container c =>
      unfold arguments
      dsimp only
      split <;> rfl
    | _ => rfl
  simp only [C4Call.isWritable, C4Line.call, isCallName_of_ofName? hname, hne, hquotable]
  rfl

end C4Item

namespace C4Diagram

/-- An item behind those of its sort. -/
def add (d : C4Diagram) : C4Item → C4Diagram
  | .actor a => { d with actors := d.actors ++ [a] }
  | .system s => { d with systems := d.systems ++ [s] }
  | .container c => { d with containers := d.containers ++ [c] }
  | .component c => { d with components := d.components ++ [c] }
  | .relationship r => { d with relationships := d.relationships ++ [r] }

theorem nonempty?_eq_some {s : Text} (h : (!s.isEmpty) = true) : nonempty? s = some s := by
  rw [Bool.not_eq_true'] at h
  rw [nonempty?, h]
  rfl

theorem nonempty?_getD {t : Option Text} (h : t.all (fun s => !s.isEmpty) = true) : nonempty? (t.getD []) = t := by
  cases t with
  | none => rfl
  | some s => exact nonempty?_eq_some h

theorem argument?_first (name : Text) {id label : Text} {rest : List Text}
    (h : ((id :: label :: rest).take 2).all (fun s => !s.isEmpty) = true) :
    C4Call.argument? ⟨name, id :: label :: rest⟩ 0 = some id ∧
      C4Call.argument? ⟨name, id :: label :: rest⟩ 1 = some label := by
  obtain ⟨hid, hlabel, -⟩ : (!id.isEmpty) = true ∧ (!label.isEmpty) = true ∧ True := by simpa using h
  exact ⟨nonempty?_eq_some hid, nonempty?_eq_some hlabel⟩

/-- Reading the call of an item adds the item. -/
theorem addCall_call (d : C4Diagram) {i : C4Item} (h : i.isWritable = true) {name : Text}
    (hname : C4Element.ofName? name = some i.element) : d.addCall (C4Line.call ⟨name, i⟩) = d.add i := by
  simp only [C4Item.isWritable, Bool.and_eq_true] at h
  obtain ⟨⟨⟨hfirst, -⟩, htechnology⟩, hboundary⟩ := h
  unfold C4Line.call
  cases i with
  | actor a =>
    obtain ⟨hid, hlabel⟩ := argument?_first name hfirst
    simp only [addCall, C4Item.arguments, hid, hname, C4Item.element, hlabel, Option.getD_some]
    rfl
  | system s =>
    obtain ⟨hid, hlabel⟩ := argument?_first name hfirst
    simp only [addCall, C4Item.arguments, hid, hname, C4Item.element, hlabel, Option.getD_some]
    rfl
  | component c =>
    obtain ⟨hid, hlabel⟩ := argument?_first name hfirst
    have ht : C4Call.argument? ⟨name, (C4Item.component c).arguments⟩ 2 = c.technology := nonempty?_getD htechnology
    simp only [addCall, C4Item.arguments, hid, hname, C4Item.element, hlabel, Option.getD_some] at ht ⊢
    rw [ht]
    rfl
  | relationship r =>
    obtain ⟨hid, hlabel⟩ := argument?_first name hfirst
    have ht : C4Call.argument? ⟨name, (C4Item.relationship r).arguments⟩ 3 = r.technology :=
      nonempty?_getD htechnology
    simp only [addCall, C4Item.arguments, hid, hname, C4Item.element, hlabel] at ht ⊢
    rw [ht]
    rfl
  | container c =>
    obtain ⟨id, label, technology, description, kind, isExternal⟩ := c
    by_cases hkind : kind.isBoundary = true
    · -- a boundary has nothing but its name, so all of it is read back
      simp only [C4Item.arguments, C4Item.element, hkind, if_true] at hfirst hname ⊢
      obtain ⟨hid, hlabel⟩ := argument?_first name hfirst
      obtain ⟨⟨rfl, rfl⟩, rfl⟩ : (technology = none ∧ description = []) ∧ isExternal = false := by
        simpa [C4Item.isPlainBoundary, hkind] using hboundary
      simp only [addCall, hid, hname, hlabel, Option.getD_some]
      rfl
    · rw [Bool.not_eq_true] at hkind
      simp only [C4Item.arguments, C4Item.element, hkind, Bool.false_eq_true, if_false] at hfirst hname ⊢
      obtain ⟨hid, hlabel⟩ := argument?_first name hfirst
      have ht : C4Call.argument? ⟨name, [id, label, technology.getD [], description]⟩ 2 = technology :=
        nonempty?_getD htechnology
      simp only [addCall, hid, hname, hlabel, Option.getD_some, ht]
      rfl

/-! ## Diagrams -/

theorem foldl_add (is : List C4Item) (d : C4Diagram) :
    is.foldl add d =
      { d with
        actors := d.actors ++ is.filterMap C4Item.actor?
        systems := d.systems ++ is.filterMap C4Item.system?
        containers := d.containers ++ is.filterMap C4Item.container?
        components := d.components ++ is.filterMap C4Item.component?
        relationships := d.relationships ++ is.filterMap C4Item.relationship? } := by
  induction is generalizing d with
  | nil => simp
  | cons i is ih =>
    rw [List.foldl_cons, ih]
    cases i <;> simp [add, List.filterMap_cons, C4Item.actor?, C4Item.system?, C4Item.container?, C4Item.component?,
      C4Item.relationship?]

variable {d : C4Diagram} {ls : List C4Line}

/-- What is written for a diagram is in the diagram. -/
theorem WrittenBy.mem_items (hls : d.WrittenBy ls) {l : C4Line} (hl : l ∈ ls) : l.item ∈ d.items := by
  have hmem : ∀ {α : Type} {f : C4Item → Option α} {xs : List α} {x : α},
      ls.filterMap (fun l => f l.item) = xs → f l.item = some x → x ∈ xs := by
    rintro α f xs x rfl hx
    exact List.mem_filterMap.2 ⟨l, hl, hx⟩
  unfold items
  simp only [List.mem_append, List.mem_map]
  cases hitem : l.item with
  | actor a =>
    exact .inl <| .inl <| .inl <| .inl ⟨a, hmem hls.actors (by rw [hitem]; rfl), rfl⟩
  | system s => exact .inl <| .inl <| .inl <| .inr ⟨s, hmem hls.systems (by rw [hitem]; rfl), rfl⟩
  | container c => exact .inl <| .inl <| .inr ⟨c, hmem hls.containers (by rw [hitem]; rfl), rfl⟩
  | component c => exact .inl <| .inr ⟨c, hmem hls.components (by rw [hitem]; rfl), rfl⟩
  | relationship r => exact .inr ⟨r, hmem hls.relationships (by rw [hitem]; rfl), rfl⟩

theorem ofCalls_calls (hls : d.WrittenBy ls) (h : ∀ l ∈ ls, l.item.isWritable = true) :
    (ls.map C4Line.call).foldl addCall .empty = { d with level := .context } := by
  have hadd : (ls.map C4Line.call).foldl addCall empty = (ls.map C4Line.item).foldl add empty := by
    rw [List.foldl_map, List.foldl_map]
    refine List.foldl_ext _ _ _ fun d l hl => ?_
    exact addCall_call d (h l hl) (hls.names l hl)
  rw [hadd, foldl_add]
  simp only [List.filterMap_map]
  show C4Diagram.mk .context ([] ++ ls.filterMap (·.item.actor?)) ([] ++ ls.filterMap (·.item.system?))
    ([] ++ ls.filterMap (·.item.container?)) ([] ++ ls.filterMap (·.item.component?))
    ([] ++ ls.filterMap (·.item.relationship?)) = _
  rw [hls.actors, hls.systems, hls.containers, hls.components, hls.relationships]
  rfl

/-- A diagram that is written with any names for its items comes back as it was. -/
theorem read_written (h : d.isWritable = true) (hls : d.WrittenBy ls) : C4Diagram.read (source ls) = d := by
  rw [isWritable, Bool.and_eq_true, List.all_eq_true, beq_iff_eq] at h
  have hitems : ∀ l ∈ ls, l.item.isWritable = true := fun l hl => h.1 _ (hls.mem_items hl)
  have hcalls : ∀ c ∈ ls.map C4Line.call, c.isWritable = true := by
    intro c hc
    obtain ⟨l, hl, rfl⟩ := List.mem_map.1 hc
    exact C4Item.isWritable_call (hitems l hl) (hls.names l hl)
  have hsource : source ls = join ['\n'] ((ls.map C4Line.call).map C4Call.line) := by
    rw [List.map_map]
    rfl
  have hlines : (source ls).lines = (ls.map C4Line.call).map C4Call.line := by
    rw [hsource]
    refine lines_join fun t ht => ?_
    obtain ⟨c, hc, rfl⟩ := List.mem_map.1 ht
    exact C4Call.isLine_line (hcalls c hc)
  have hkept : (source ls).lines.filter (fun line => !isComment line.trimStart) = (source ls).lines := by
    rw [hlines, List.filter_eq_self]
    intro t ht
    obtain ⟨c, hc, rfl⟩ := List.mem_map.1 ht
    have hname := hcalls c hc
    simp only [C4Call.isWritable, Bool.and_eq_true] at hname
    exact congrArg not (not_comment_of_isCallName hname.1.1 _)
  have hword : (none : Option Char).any isWordChar = false := rfl
  rw [C4Diagram.read, hkept, hlines, findCalls_lines hcalls hword, ofCalls, ofCalls_calls hls hitems]
  show { d with level := d.finestLevel } = d
  rw [← h.2]

/-! ## The usual way -/

end C4Diagram

/-- A name, with an ending for what is outside of the system. -/
def withOutside (name : Text) (isExternal : Bool) : Text := if isExternal then name ++ "_Ext" else name

def C4Element.name : C4Element → Text
  | actor isExternal => withOutside "Person" isExternal
  | system .system isExternal => withOutside "System" isExternal
  | system .database isExternal => withOutside "SystemDb" isExternal
  | system .queue isExternal => withOutside "SystemQueue" isExternal
  | container .database isExternal => withOutside "ContainerDb" isExternal
  | container .queue isExternal => withOutside "ContainerQueue" isExternal
  | container _ isExternal => withOutside "Container" isExternal
  | boundary .systemBoundary => "System_Boundary"
  | boundary _ => "Container_Boundary"
  | component isDatabase => if isDatabase then "ComponentDb" else "Component"
  | relationship isBidirectional => if isBidirectional then "BiRel" else "Rel"

theorem C4Item.ofName?_name (i : C4Item) : C4Element.ofName? i.element.name = some i.element := by
  cases i with
  | actor a =>
    obtain ⟨_, _, _, isExternal⟩ := a
    cases isExternal <;> rfl
  | system s =>
    obtain ⟨_, _, _, kind, isExternal⟩ := s
    cases kind <;> cases isExternal <;> rfl
  | container c =>
    obtain ⟨_, _, _, _, kind, isExternal⟩ := c
    cases kind <;> cases isExternal <;> rfl
  | component c =>
    obtain ⟨_, _, _, _, isDatabase⟩ := c
    cases isDatabase <;> rfl
  | relationship r =>
    obtain ⟨_, _, _, _, isBidirectional⟩ := r
    cases isBidirectional <;> rfl

namespace C4Diagram

/-- The lines for the actors, then for the systems and so on, with the usual names. -/
def lines (d : C4Diagram) : List C4Line := d.items.map fun i => ⟨i.element.name, i⟩

theorem filterMap_lines {α : Type} (f : C4Item → Option α) (d : C4Diagram) :
    d.lines.filterMap (fun l => f l.item) = d.items.filterMap f := by
  rw [lines, List.filterMap_map]
  rfl

theorem writtenBy_lines (d : C4Diagram) : d.WrittenBy d.lines := by
  constructor
  · intro l hl
    obtain ⟨i, -, rfl⟩ := List.mem_map.1 hl
    exact i.ofName?_name
  -- what is asked for is one part of the items, and nothing of the others
  all_goals
    rw [filterMap_lines]
    simp [items, List.filterMap_append, List.filterMap_map, Function.comp_def, C4Item.actor?, C4Item.system?,
      C4Item.container?, C4Item.component?, C4Item.relationship?]

/-- What looks like a call or like an argument by name is text within quotes. -/
theorem read_written_bank :
    let d : C4Diagram :=
      ⟨.component, [⟨"user", "Customer (private)", "Buys, System(x) and sells", true⟩],
        [⟨"mail", "$mail=", [], .queue, false⟩],
        [⟨"bank", ")Bank(", none, [], .systemBoundary, false⟩,
          ⟨"db", "Orders", some "SQL, (old)", "' note", .database, true⟩],
        [⟨"ctrl", "Controller", none, "Rel(a, b", true⟩], [⟨"user", "ctrl", [], some "HTTP", true⟩]⟩
    C4Diagram.read (source d.lines) = d :=
  read_written (by decide +kernel) (writtenBy_lines _)

end C4Diagram

end DiagramProse
