import DiagramProse.Html.Section
import DiagramProse.Proofs.Html.SafeText

/-!
The language of descriptions, as a grammar of texts: paragraphs, bold labels, and lists without empty
ones among them. A fragment whose texts are safe is written in that language (`write_description`),
and a text of that language has balanced tags (`Description.balanced`), which a scan of the text
decides that knows nothing of the grammar.
-/

namespace DiagramProse.Html

open Text

/-! ## The grammar -/

/-- The kinds of markup that lists are made of. -/
inductive MarkupKind where
  | item
  | items
  | list
  | lists

/-- The markup of one item, of the items of a list, of a list, and of the lists in an item. -/
inductive Markup : MarkupKind → Text → Prop where
  | item {t ls : Text} : SafeText t → Markup .lists ls → Markup .item ("<li>" ++ t ++ ls ++ "</li>")
  | noLists : Markup .lists []
  | consList {l ls : Text} : Markup .list l → Markup .lists ls → Markup .lists ("\n" ++ l ++ "\n" ++ ls)
  | oneItem {i : Text} : Markup .item i → Markup .items ("\n" ++ i)
  | consItem {i is : Text} : Markup .item i → Markup .items is → Markup .items ("\n" ++ i ++ is)
  | unordered {is : Text} : Markup .items is → Markup .list ("<ul>" ++ is ++ "\n</ul>")
  | ordered {is : Text} : Markup .items is → Markup .list ("<ol>" ++ is ++ "\n</ol>")

/-- The markup of a block. -/
inductive BlockMarkup : Text → Prop where
  | paragraph {t : Text} : SafeText t → BlockMarkup ("<p>" ++ t ++ "</p>")
  | label {t : Text} : SafeText t → BlockMarkup ("<p><strong>" ++ t ++ "</strong></p>")
  | list {l : Text} : Markup .list l → BlockMarkup l

/-- One block or more, with line feeds between them. -/
def Description (s : Text) : Prop :=
  ∃ blocks : List Text, blocks ≠ [] ∧ (∀ b ∈ blocks, BlockMarkup b) ∧ s = join "\n" blocks

/-! ## Tags -/

/-- The tags of a text, in order, without their brackets. `begun` is what was read of a tag that is
not closed yet; one that never is keeps its bracket. -/
def tagsFrom : (begun : Option Text) → Text → List Text
  | none, [] => []
  | some name, [] => ['<' :: name]
  | none, c :: s => if c = '<' then tagsFrom (some []) s else tagsFrom none s
  | some name, c :: s => if c = '>' then name :: tagsFrom none s else tagsFrom (some (name ++ [c])) s

def tags (s : Text) : List Text := tagsFrom none s

/-- Whether each end tag ends the innermost open element, and no element stays open. -/
def endsAll : (opened : List Text) → List Text → Bool
  | opened, [] => opened.isEmpty
  | opened, ('/' :: name) :: rest =>
    match opened with
    | top :: around => top = name && endsAll around rest
    | [] => false
  | opened, name :: rest => endsAll (name :: opened) rest

/-- Whether every element that is begun is ended, inner ones before outer ones. -/
def isBalanced (s : Text) : Bool := endsAll [] (tags s)

theorem tags_safe {t : Text} (h : SafeText t) (rest : Text) : tags (t ++ rest) = tags rest := by
  have hlt : ∀ c ∈ t, c ≠ '<' := fun c hc => (h.noMarkup c hc).1
  clear h
  induction t with
  | nil => rfl
  | cons c t ih =>
    have hc : c ≠ '<' := hlt c (by simp)
    simpa [tags, tagsFrom, hc] using ih fun d hd => hlt d (by simp [hd])

/-! ## Balance -/

/-- Text that ends all the elements it begins and none that were begun before. -/
def Neutral (s : Text) : Prop :=
  ∀ (opened : List Text) (rest : Text), endsAll opened (tags (s ++ rest)) = endsAll opened (tags rest)

theorem tagsFrom_append_close {name : Text} (h : '>' ∉ name) (begun s : Text) :
    tagsFrom (some begun) (name ++ '>' :: s) = (begun ++ name) :: tags s := by
  induction name generalizing begun with
  | nil => simp [tagsFrom, tags]
  | cons c name ih =>
    have hc : c ≠ '>' := fun e => h (by simp [e])
    have hn : '>' ∉ name := fun e => h (by simp [e])
    simp [tagsFrom, hc, ih hn]

theorem tags_openTag {name : Text} (h : '>' ∉ name) (s : Text) :
    tags (openTag name ++ s) = name :: tags s := by
  simpa [openTag, tags, tagsFrom] using tagsFrom_append_close h [] s

theorem tags_closeTag {name : Text} (h : '>' ∉ name) (s : Text) :
    tags (closeTag name ++ s) = ('/' :: name) :: tags s := by
  simpa [closeTag, tags, tagsFrom] using tagsFrom_append_close h ['/'] s

namespace Neutral

theorem nil : Neutral [] := fun _ _ => rfl

theorem append {s t : Text} (hs : Neutral s) (ht : Neutral t) : Neutral (s ++ t) := by
  intro opened rest
  rw [List.append_assoc, hs, ht]

theorem of_safe {t : Text} (h : SafeText t) : Neutral t := by
  intro opened rest
  rw [tags_safe h]

theorem lineFeed : Neutral "\n" := of_safe (.of_plain (by decide))

theorem element (name : Text) {s : Text} (hc : '>' ∉ name) (ho : name.head? ≠ some '/') (h : Neutral s) :
    Neutral (openTag name ++ s ++ closeTag name) := by
  intro opened rest
  have opens : ∀ more, endsAll opened (name :: more) = endsAll (name :: opened) more := by
    intro more
    cases name with
    | nil => rfl
    | cons c name =>
      have hne : c ≠ '/' := fun e => ho (by simp [e])
      rw [endsAll.eq_def]
      split <;> simp_all
  rw [List.append_assoc, List.append_assoc, tags_openTag hc, opens, h, tags_closeTag hc]
  simp [endsAll]

end Neutral

theorem Markup.neutral {kind : MarkupKind} {s : Text} (h : Markup kind s) : Neutral s := by
  induction h with
  | @item t ls ht _ ih =>
    have he := Neutral.element "li" (by decide) (by decide) ((Neutral.of_safe ht).append ih)
    simpa [openTag, closeTag] using he
  | noLists => exact .nil
  | consList _ _ ihl ihls => exact ((Neutral.lineFeed.append ihl).append .lineFeed).append ihls
  | oneItem _ ih => exact Neutral.lineFeed.append ih
  | consItem _ _ ihi ihis => exact (Neutral.lineFeed.append ihi).append ihis
  | unordered _ ih =>
    have he := Neutral.element "ul" (by decide) (by decide) (ih.append .lineFeed)
    simpa [openTag, closeTag] using he
  | ordered _ ih =>
    have he := Neutral.element "ol" (by decide) (by decide) (ih.append .lineFeed)
    simpa [openTag, closeTag] using he

theorem BlockMarkup.neutral {s : Text} (h : BlockMarkup s) : Neutral s := by
  cases h with
  | paragraph ht =>
    have he := Neutral.element "p" (by decide) (by decide) (.of_safe ht)
    simpa [openTag, closeTag] using he
  | label ht =>
    have hs := Neutral.element "strong" (by decide) (by decide) (.of_safe ht)
    have he := Neutral.element "p" (by decide) (by decide) hs
    simpa [openTag, closeTag] using he
  | list hl => exact hl.neutral

theorem Description.balanced {s : Text} (h : Description s) : isBalanced s = true := by
  obtain ⟨blocks, -, hb, rfl⟩ := h
  have hj : Neutral (join "\n" blocks) := by
    unfold join
    induction blocks with
    | nil => exact .nil
    | cons b bs ih =>
      have hhead : Neutral b := (hb b (by simp)).neutral
      have hrest := ih fun c hc => hb c (by simp [hc])
      cases bs with
      | nil => simpa using hhead
      | cons c cs =>
        rw [List.intercalate_cons_cons]
        exact (hhead.append .lineFeed).append hrest
  have h := hj [] []
  rw [List.append_nil] at h
  exact h

/-! ## Writing safe fragments -/

mutual

/-- Items, and all items below them, with safe text. -/
def Item.Safe : Item → Prop
  | .mk html lists => SafeText html ∧ ListsSafe lists

def ListsSafe : List Listing → Prop
  | [] => True
  | l :: ls => l.Safe ∧ ListsSafe ls

def Listing.Safe : Listing → Prop
  | .mk _ items => ItemsSafe items

def ItemsSafe : List Item → Prop
  | [] => True
  | i :: is => i.Safe ∧ ItemsSafe is

end

theorem itemsSafe_iff {items : List Item} : ItemsSafe items ↔ ∀ i ∈ items, i.Safe := by
  induction items with
  | nil => simp [ItemsSafe]
  | cons i is ih => simp [ItemsSafe, ih]

theorem Item.leaf_safe {t : Text} (h : SafeText t) : (Item.leaf t).Safe := by
  simpa [Item.leaf, Item.Safe, ListsSafe] using h

theorem Listing.ofLeaves_safe (ordered : Bool) {texts : List Text} (h : ∀ t ∈ texts, SafeText t) :
    (Listing.ofLeaves ordered texts).Safe := by
  refine itemsSafe_iff.2 fun i hi => ?_
  obtain ⟨t, ht, rfl⟩ := List.mem_map.1 hi
  exact Item.leaf_safe (h t ht)

mutual

theorem Item.write_markup : ∀ {i : Item}, i.Safe → Markup .item i.write
  | .mk html lists, h => by
    rw [Item.Safe] at h
    have hl := writeLists_markup h.2
    simpa [Item.write, openTag, closeTag] using Markup.item h.1 hl

/-- Lists without items are left out, so what is written has none of them. -/
theorem writeLists_markup : ∀ {ls : List Listing}, ListsSafe ls → Markup .lists (writeLists ls)
  | [], _ => .noLists
  | .mk ordered [] :: ls, h => by
    rw [ListsSafe] at h
    simpa [writeLists, Listing.isEmpty, Listing.items] using writeLists_markup h.2
  | .mk ordered (i :: is) :: ls, h => by
    rw [ListsSafe] at h
    have hl := Markup.consList (Listing.write_markup h.1 rfl) (writeLists_markup h.2)
    simpa [writeLists, Listing.isEmpty, Listing.items] using hl

theorem Listing.write_markup : ∀ {l : Listing}, l.Safe → l.isEmpty = false → Markup .list l.write
  | .mk ordered [], _, he => by simp [Listing.isEmpty, Listing.items] at he
  | .mk ordered (i :: is), h, _ => by
    have hi := writeItems_markup h (List.cons_ne_nil i is)
    cases ordered with
    | false => simpa [Listing.write, openTag, closeTag, tagName] using Markup.unordered hi
    | true => simpa [Listing.write, openTag, closeTag, tagName] using Markup.ordered hi

theorem writeItems_markup : ∀ {is : List Item}, ItemsSafe is → is ≠ [] → Markup .items (writeItems is)
  | [], _, he => absurd rfl he
  | [i], h, _ => by
    rw [ItemsSafe] at h
    simpa [writeItems] using Markup.oneItem (Item.write_markup h.1)
  | i :: j :: js, h, _ => by
    rw [ItemsSafe] at h
    have hi := Markup.consItem (Item.write_markup h.1) (writeItems_markup h.2 (List.cons_ne_nil j js))
    rw [writeItems]
    simpa using hi

end

/-- Blocks with safe text. A label is escaped when it is written. -/
def Block.Safe : Block → Prop
  | .paragraph html => SafeText html
  | .heading _ => True
  | .list l => l.Safe

theorem Block.write_markup {b : Block} (h : b.Safe) (hv : b.isVoid = false) : BlockMarkup b.write := by
  cases b with
  | paragraph html => simpa [Block.write, openTag, closeTag] using BlockMarkup.paragraph h
  | heading label =>
    have ht := BlockMarkup.label ((escape_safe label).append (.of_plain (s := [':']) rfl))
    simpa [Block.write, openTag, closeTag] using ht
  | list l => exact .list (Listing.write_markup h hv)

/-- A fragment of safe blocks that are not all empty lists is written as a description. -/
theorem write_description {f : Fragment} (hs : ∀ b ∈ f, b.Safe) (hv : ∃ b ∈ f, b.isVoid = false) :
    Description f.write := by
  refine ⟨(f.filter fun b => !b.isVoid).map Block.write, ?_, fun t ht => ?_, rfl⟩
  · obtain ⟨b, hb, hbv⟩ := hv
    have : b ∈ f.filter fun b => !b.isVoid := List.mem_filter.2 ⟨hb, by simp [hbv]⟩
    intro he
    rw [List.map_eq_nil_iff.1 he] at this
    cases this
  · obtain ⟨b, hb, rfl⟩ := List.mem_map.1 ht
    obtain ⟨hbf, hbv⟩ := List.mem_filter.1 hb
    exact Block.write_markup (hs b hbf) (by simpa using hbv)

theorem labelled_safe (label : Text) {l : Listing} (h : l.Safe) : ∀ b ∈ labelled label l, b.Safe := by
  unfold labelled
  split
  · simp
  · intro b hb
    rcases List.mem_cons.1 hb with rfl | hb
    · trivial
    · rw [List.mem_singleton.1 hb]; exact h

end DiagramProse.Html
