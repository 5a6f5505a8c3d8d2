import ReactiveSchema.Markup.Html
import ReactiveSchema.Proofs.Markup.Escapes

/-!
# Canonical markup

Nesting of lists, gaps, empty texts, attributes that are left out and what is inside void
elements do not show in markup.  Without them, and with neighbouring texts taken together, a
tree is in canonical form, and no other canonical form is written alike.
-/

namespace ReactiveSchema.Markup

open Text

/-! ## Trees -/

/-- A letter, a digit or a hyphen. -/
def isNameChar (c : Char) : Bool :=
  isLetterOrNumeral c || c == '-'

/-- The name of an element or an attribute. -/
@[ext]
structure Name where
  text : String
  filled : text.toList ≠ []
  plain : ∀ c ∈ text.toList, isNameChar c = true

/-- What an attribute is set to. -/
inductive Setting where
  | none
  | off
  | on
  | text (value : String)

/-- The setting as a value of data. -/
def Setting.value : Setting → Value
  | none => .none
  | off => .bool false
  | on => .bool true
  | text value => .str value

/-- What is rendered: nothing, text, lists and elements, as they lie inside one another. -/
inductive Renderable where
  | nothing
  | str (content : String)
  | text (content : String)
  | list (items : List Renderable)
  | element (tag : Name) (attributes : List (Name × Setting)) (content : Renderable)

/-! ## Canonical form -/

/-- A part of a canonical form; an attribute is a bare name or has a text. -/
inductive Item where
  | text (content : String)
  | element (tag : Name) (attributes : List (Name × Option String)) (content : List Item)

/-- An element that has neither content nor an end tag. -/
def Name.isVoid (tag : Name) : Bool :=
  Observe.voidElements.contains tag.text

/-- An attribute that is not left out. -/
def kept : Name × Setting → Option (Name × Option String)
  | (_, .none) => none
  | (_, .off) => none
  | (name, .on) => some (name, none)
  | (name, .text value) => some (name, some value)

/-- Put a text before parts, as one with a text that they start with, if it is a text at all. -/
def before (content : String) : List Item → List Item
  | .text next :: rest => .text (content ++ next) :: rest
  | rest => if content = "" then rest else .text content :: rest

/-- Take neighbouring texts together, and leave empty ones out. -/
def merged : List Item → List Item
  | [] => []
  | .text content :: rest => before content (merged rest)
  | item :: rest => item :: merged rest

mutual

/-- The parts of a tree one after another, the content of elements in canonical form. -/
def Renderable.items : Renderable → List Item
  | .nothing => []
  | .str content => [.text content]
  | .text content => [.text content]
  | .list trees => Renderable.itemsOfAll trees
  | .element tag attributes content =>
      [.element tag (attributes.filterMap kept) (if tag.isVoid then [] else merged content.items)]

/-- The parts of several trees. -/
def Renderable.itemsOfAll : List Renderable → List Item
  | [] => []
  | tree :: rest => tree.items ++ Renderable.itemsOfAll rest

end

/-- The canonical form of a tree. -/
def Renderable.canonical (tree : Renderable) : List Item :=
  merged tree.items

/-! ## Writing -/

/-- An attribute, led by a blank. -/
def writtenAttribute : Name × Option String → List Char
  | (name, none) => ' ' :: name.text.toList
  | (name, some value) =>
      ' ' :: name.text.toList ++ '=' :: '"' :: value.toList.flatMap escapeAttributeChar ++ ['"']

/-- A start tag. -/
def startTag (tag : Name) (attributes : List (Name × Option String)) : List Char :=
  '<' :: tag.text.toList ++ attributes.flatMap writtenAttribute ++ ['>']

/-- An end tag. -/
def endTag (tag : Name) : List Char :=
  '<' :: '/' :: tag.text.toList ++ ['>']

mutual

/-- A part as it is written. -/
def Item.written : Item → List Char
  | .text content => content.toList.flatMap escapeTextChar
  | .element tag attributes content =>
      startTag tag attributes ++
        if tag.isVoid then [] else Item.writtenAll content ++ endTag tag

/-- Parts as they are written, one after another. -/
def Item.writtenAll : List Item → List Char
  | [] => []
  | item :: rest => item.written ++ Item.writtenAll rest

end

theorem writtenAll_append (items others : List Item) :
    Item.writtenAll (items ++ others) = Item.writtenAll items ++ Item.writtenAll others := by
  induction items with
  | nil => rfl
  | cons item rest ih => simp only [List.cons_append, Item.writtenAll, ih, List.append_assoc]

theorem writtenAll_before (content : String) (items : List Item) :
    Item.writtenAll (before content items) =
      content.toList.flatMap escapeTextChar ++ Item.writtenAll items := by
  unfold before
  split
  · simp only [Item.writtenAll, Item.written, String.toList_append, List.flatMap_append,
      List.append_assoc]
  · split
    case isTrue empty => rw [empty]; rfl
    case isFalse => rfl

/-- Taking texts together does not show. -/
theorem writtenAll_merged (items : List Item) :
    Item.writtenAll (merged items) = Item.writtenAll items := by
  induction items with
  | nil => rfl
  | cons item rest ih =>
      cases item with
      | text content => simp only [merged, writtenAll_before, Item.writtenAll, Item.written, ih]
      | element tag attributes content => simp only [merged, Item.writtenAll, ih]

/-! ## Reading names and attributes -/

theorem isNameChar_of_mark {c : Char} (mark : c ∈ [' ', '<', '>', '/', '=', '"']) :
    isNameChar c = false := by
  simp only [List.mem_cons, List.not_mem_nil, or_false] at mark
  rcases mark with rfl | rfl | rfl | rfl | rfl | rfl <;> decide

/-- A name ends where a character follows that belongs to none. -/
theorem name_append {name name' : Name} {rest rest' : List Char}
    (starts : ∀ c ∈ rest.head?, c ∈ [' ', '<', '>', '/', '=', '"'])
    (starts' : ∀ c ∈ rest'.head?, c ∈ [' ', '<', '>', '/', '=', '"'])
    (same : name.text.toList ++ rest = name'.text.toList ++ rest') :
    name = name' ∧ rest = rest' := by
  obtain ⟨chars, ends⟩ := append_eq_of_run name.plain
    (fun c first => isNameChar_of_mark (starts c first)) name'.plain
    (fun c first => isNameChar_of_mark (starts' c first)) same
  exact ⟨Name.ext (String.toList_inj.mp chars), ends⟩

theorem head?_attributes (attributes : List (Name × Option String)) (rest : List Char) :
    ∀ c ∈ (attributes.flatMap writtenAttribute ++ '>' :: rest).head?,
      c ∈ [' ', '<', '>', '/', '=', '"'] := by
  intro c first
  rcases attributes with _ | ⟨⟨name, _ | value⟩, more⟩ <;> cases first <;> simp

theorem attributes_append {attributes attributes' : List (Name × Option String)}
    {rest rest' : List Char}
    (same : attributes.flatMap writtenAttribute ++ '>' :: rest =
      attributes'.flatMap writtenAttribute ++ '>' :: rest') :
    attributes = attributes' ∧ rest = rest' := by
  induction attributes generalizing attributes' with
  | nil =>
      rcases attributes' with _ | ⟨⟨name', _ | value'⟩, more'⟩
      · exact ⟨rfl, (List.cons.inj same).2⟩
      · cases same
      · cases same
  | cons entry more ih =>
      rcases attributes' with _ | ⟨entry', more'⟩
      · rcases entry with ⟨name, _ | value⟩ <;> cases same
      -- After the name, a quoted text starts with an equals sign, and nothing else does.
      · obtain ⟨name, value⟩ := entry
        obtain ⟨name', value'⟩ := entry'
        have tail := head?_attributes more rest
        have tail' := head?_attributes more' rest'
        rw [List.flatMap_cons, List.flatMap_cons, List.append_assoc, List.append_assoc] at same
        cases value with
        | none =>
            cases value' with
            | none =>
                obtain ⟨rfl, inner⟩ := name_append tail tail' (List.cons.inj same).2
                obtain ⟨rfl, rfl⟩ := ih inner
                exact ⟨rfl, rfl⟩
            | some value' =>
                simp only [writtenAttribute, List.cons_append, List.append_assoc] at same
                obtain ⟨-, inner⟩ := name_append tail (by simp) (List.cons.inj same).2
                rcases more with _ | ⟨⟨_, _ | _⟩, _⟩ <;> cases inner
        | some value =>
            cases value' with
            | none =>
                simp only [writtenAttribute, List.cons_append, List.append_assoc] at same
                obtain ⟨-, inner⟩ := name_append (by simp) tail' (List.cons.inj same).2
                rcases more' with _ | ⟨⟨_, _ | _⟩, _⟩ <;> cases inner
            | some value' =>
                simp only [writtenAttribute, List.cons_append, List.append_assoc,
                  List.nil_append] at same
                obtain ⟨rfl, quoted⟩ := name_append (by simp) (by simp) (List.cons.inj same).2
                obtain ⟨text, inner⟩ :=
                  escapeAttribute_append (List.cons.inj (List.cons.inj quoted).2).2
                obtain ⟨rfl, rfl⟩ := ih inner
                rw [String.toList_inj.mp text]
                exact ⟨rfl, rfl⟩

theorem startTag_append {tag tag' : Name} {attributes attributes' : List (Name × Option String)}
    {rest rest' : List Char}
    (same : startTag tag attributes ++ rest = startTag tag' attributes' ++ rest') :
    tag = tag' ∧ attributes = attributes' ∧ rest = rest' := by
  simp only [startTag, List.cons_append, List.append_assoc, List.nil_append] at same
  obtain ⟨rfl, inner⟩ := name_append (head?_attributes attributes rest)
    (head?_attributes attributes' rest') (List.cons.inj same).2
  exact ⟨rfl, attributes_append inner⟩

/-! ## Reading parts -/

/-- Is a part a text? -/
def Item.isText : Item → Bool
  | .text _ => true
  | .element .. => false

mutual

/-- No text is empty, none has a text next to it, and void elements have no content. -/
def Item.IsSettled : Item → Prop
  | .text content => content ≠ ""
  | .element tag _ content => (tag.isVoid = true → content = []) ∧ Item.AllSettled content

/-- Parts of this kind. -/
def Item.AllSettled : List Item → Prop
  | [] => True
  | item :: rest =>
      item.IsSettled ∧ (item.isText = true → ∀ next ∈ rest.head?, next.isText = false) ∧
        Item.AllSettled rest

end

theorem allSettled_before {content : String} {items : List Item} (settled : Item.AllSettled items) :
    Item.AllSettled (before content items) := by
  unfold before
  split
  case h_1 next rest =>
    obtain ⟨filled, apart, rest⟩ := settled
    refine ⟨fun empty => filled ?_, apart, rest⟩
    exact (String.append_eq_empty_iff.mp empty).2
  case h_2 items noText =>
    split
    case isTrue => exact settled
    case isFalse filled =>
      refine ⟨filled, fun _ next first => ?_, settled⟩
      cases next with
      | text other =>
          obtain ⟨rest, rfl⟩ := List.head?_eq_some_iff.mp first
          exact absurd rfl (noText other rest)
      | element => rfl

theorem allSettled_merged {items : List Item}
    (each : ∀ item ∈ items, item.isText = false → item.IsSettled) :
    Item.AllSettled (merged items) := by
  induction items with
  | nil => trivial
  | cons item rest ih =>
      have inner := ih fun item known => each item (List.mem_cons_of_mem _ known)
      cases item with
      | text content => exact allSettled_before inner
      | element => exact ⟨each _ List.mem_cons_self rfl, nofun, inner⟩

mutual

theorem isSettled_items : ∀ (tree : Renderable), ∀ item ∈ tree.items, item.isText = false →
    item.IsSettled
  | .nothing, _, known, _ => nomatch known
  | .str _, _, known, element => by
      cases List.mem_singleton.mp known
      cases element
  | .text _, _, known, element => by
      cases List.mem_singleton.mp known
      cases element
  | .list trees, item, known, element => isSettled_itemsOfAll trees item known element
  | .element tag attributes content, item, known, _ => by
      cases List.mem_singleton.mp known
      refine ⟨fun void => if_pos void, ?_⟩
      split
      · trivial
      · exact allSettled_merged (isSettled_items content)

theorem isSettled_itemsOfAll :
    ∀ (trees : List Renderable), ∀ item ∈ Renderable.itemsOfAll trees, item.isText = false →
      item.IsSettled
  | [], _, known, _ => nomatch known
  | tree :: rest, item, known, element => by
      rcases List.mem_append.mp known with known | known
      · exact isSettled_items tree item known element
      · exact isSettled_itemsOfAll rest item known element

end

theorem allSettled_canonical (tree : Renderable) : Item.AllSettled tree.canonical :=
  allSettled_merged (isSettled_items tree)

/-- The end of what is written, or an end tag. -/
def Closes (rest : List Char) : Prop :=
  rest = [] ∨ ∃ more, rest = '<' :: '/' :: more

theorem closes_endTag (tag : Name) (rest : List Char) : Closes (endTag tag ++ rest) :=
  .inr ⟨_, rfl⟩

/-- What an element starts with closes nothing. -/
theorem not_closes_element {tag : Name} {attributes : List (Name × Option String)}
    {content : List Item} {rest : List Char} :
    ¬ Closes ((Item.element tag attributes content).written ++ rest) := by
  simp only [Item.written, startTag, List.cons_append, List.append_assoc]
  rintro (empty | ⟨more, same⟩)
  · cases empty
  · have inner := (List.cons.inj same).2
    cases chars : tag.text.toList with
    | nil => exact tag.filled chars
    | cons c name =>
        rw [chars] at inner
        cases inner
        exact absurd (tag.plain '/' (chars ▸ List.mem_cons_self)) (by decide)

theorem exists_head?_of_text {content : String} (filled : content ≠ "") (rest : List Char) :
    ∃ first, ((Item.text content).written ++ rest).head? = some first ∧ first ≠ '<' := by
  cases chars : content.toList with
  | nil => exact absurd (String.toList_eq_nil_iff.mp chars) filled
  | cons c more =>
      rw [Item.written, chars]
      exact head?_escapeText

theorem not_closes_text {content : String} (filled : content ≠ "") {rest : List Char} :
    ¬ Closes ((Item.text content).written ++ rest) := by
  obtain ⟨first, same, other⟩ := exists_head?_of_text filled rest
  rintro (empty | ⟨more, opens⟩)
  · rw [empty] at same
    cases same
  · rw [opens] at same
    cases same
    exact other rfl

/-- Parts that do not start with a text start with a tag, or what follows does. -/
theorem head?_writtenAll {items : List Item} (noText : ∀ item ∈ items.head?, item.isText = false)
    {rest : List Char} (closes : Closes rest) :
    ∀ c ∈ (Item.writtenAll items ++ rest).head?, c = '<' := by
  intro c first
  cases items with
  | nil =>
      rcases closes with rfl | ⟨more, rfl⟩
      · cases first
      · cases first; rfl
  | cons item others =>
      cases item with
      | text => cases noText _ rfl
      | element => cases first; rfl

/-- An element is not written like a text, whatever follows. -/
theorem text_ne_element {content : String} (filled : content ≠ "") {tag : Name}
    {attributes : List (Name × Option String)} {inside : List Item} {rest rest' : List Char} :
    (Item.text content).written ++ rest ≠ (Item.element tag attributes inside).written ++ rest' := by
  intro same
  obtain ⟨first, starts, other⟩ := exists_head?_of_text filled rest
  rw [same] at starts
  simp only [Item.written, startTag, List.cons_append, List.head?_cons, Option.some.injEq] at starts
  exact other starts.symm

/-- Settled parts are read back from what is written, up to where something closes. -/
theorem writtenAll_append_inj : ∀ {items items' : List Item} {rest rest' : List Char},
    Item.AllSettled items → Item.AllSettled items' → Closes rest → Closes rest' →
      Item.writtenAll items ++ rest = Item.writtenAll items' ++ rest' →
        items = items' ∧ rest = rest'
  | [], [], _, _, _, _, _, _, same => ⟨rfl, same⟩
  | [], .text _ :: _, _, _, _, settled', closes, _, same => by
      rw [Item.writtenAll, Item.writtenAll, List.nil_append, List.append_assoc] at same
      exact absurd (same ▸ closes) (not_closes_text settled'.1)
  | [], .element .. :: _, _, _, _, _, closes, _, same => by
      rw [Item.writtenAll, Item.writtenAll, List.nil_append, List.append_assoc] at same
      exact absurd (same ▸ closes) not_closes_element
  | .text _ :: _, [], _, _, settled, _, _, closes', same => by
      rw [Item.writtenAll, Item.writtenAll, List.nil_append, List.append_assoc] at same
      exact absurd (same ▸ closes') (not_closes_text settled.1)
  | .element .. :: _, [], _, _, _, _, _, closes', same => by
      rw [Item.writtenAll, Item.writtenAll, List.nil_append, List.append_assoc] at same
      exact absurd (same ▸ closes') not_closes_element
  | .text content :: others, .text content' :: others', rest, rest', settled, settled', closes,
      closes', same => by
      simp only [Item.writtenAll, Item.written, List.append_assoc] at same
      obtain ⟨text, inner⟩ := escapeText_append (head?_writtenAll (settled.2.1 rfl) closes)
        (head?_writtenAll (settled'.2.1 rfl) closes') same
      obtain ⟨rfl, rfl⟩ := writtenAll_append_inj settled.2.2 settled'.2.2 closes closes' inner
      rw [String.toList_inj.mp text]
      exact ⟨rfl, rfl⟩
  | .text _ :: _, .element .. :: _, _, _, settled, _, _, _, same => by
      rw [Item.writtenAll, Item.writtenAll, List.append_assoc, List.append_assoc] at same
      exact absurd same (text_ne_element settled.1)
  | .element .. :: _, .text _ :: _, _, _, _, settled', _, _, same => by
      rw [Item.writtenAll, Item.writtenAll, List.append_assoc, List.append_assoc] at same
      exact absurd same.symm (text_ne_element settled'.1)
  | .element tag attributes content :: others, .element tag' attributes' content' :: others',
      rest, rest', settled, settled', closes, closes', same => by
      simp only [Item.writtenAll, Item.written, List.append_assoc] at same
      obtain ⟨rfl, rfl, inner⟩ := startTag_append same
      by_cases void : tag.isVoid = true
      · rw [if_pos void, if_pos void] at inner
        rw [settled.1.1 void, settled'.1.1 void]
        obtain ⟨rfl, rfl⟩ := writtenAll_append_inj settled.2.2 settled'.2.2 closes closes' inner
        exact ⟨rfl, rfl⟩
      · rw [if_neg void, if_neg void, List.append_assoc, List.append_assoc] at inner
        obtain ⟨rfl, after⟩ := writtenAll_append_inj settled.1.2 settled'.1.2
          (closes_endTag tag _) (closes_endTag tag _) inner
        obtain ⟨rfl, rfl⟩ := writtenAll_append_inj settled.2.2 settled'.2.2 closes closes'
          (List.append_cancel_left after)
        exact ⟨rfl, rfl⟩

/-- Trees are written alike exactly if their canonical forms are the same. -/
theorem writtenAll_items_eq_iff (tree tree' : Renderable) :
    Item.writtenAll tree.items = Item.writtenAll tree'.items ↔ tree.canonical = tree'.canonical := by
  rw [← writtenAll_merged tree.items, ← writtenAll_merged tree'.items]
  constructor
  · intro same
    exact (writtenAll_append_inj (allSettled_canonical tree) (allSettled_canonical tree') (.inl rfl)
      (.inl rfl) (by rw [List.append_nil, List.append_nil]; exact same)).1
  · exact congrArg Item.writtenAll

end ReactiveSchema.Markup
