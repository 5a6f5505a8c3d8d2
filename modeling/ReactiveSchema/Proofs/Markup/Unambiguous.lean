import ReactiveSchema.Proofs.Markup.Rendered

/-!
# Markup is unambiguous

A value of memory that holds a tree of texts and elements is written as the parts of that tree,
one after another.  So what is written tells the canonical form of the tree: no text and no
attribute value can be taken for markup, and none can end a tag or an attribute.
-/

namespace ReactiveSchema

open Markup

namespace Memory

variable {memory : Memory}

/-! ## Attributes -/

/-- What an attribute is written as, or nothing where it is left out. -/
def writtenSetting : Name × Setting → Value
  | (_, .none) => .none
  | (_, .off) => .none
  | (name, .on) => .str name.text
  | (name, .text value) => .str (name.text ++ "=\"" ++ Text.escapeAttribute value ++ "\"")

/-- The characters of a text. -/
def charsOf : Value → List Char
  | .str text => text.toList
  | _ => []

theorem gives_writtenAttribute (name : Name) (setting : Setting) :
    memory.Gives (Observe.writtenAttribute (.str name.text) setting.value)
      (writtenSetting (name, setting)) := by
  cases setting <;> rfl

theorem gives_isTrue_written (entry : Name × Setting) :
    memory.Gives (Observe.isTrue (writtenSetting entry)) (writtenSetting entry).isStr := by
  obtain ⟨name, setting⟩ := entry
  have shown (text : String) (filled : text.toList ≠ []) :
      memory.Gives (Observe.isTrue (.str text)) true := by
    have known : (!text.isEmpty) = true := by
      rw [Bool.not_eq_true', Bool.eq_false_iff, ne_eq, String.isEmpty_iff]
      exact fun empty => filled (String.toList_eq_nil_iff.mpr empty)
    exact congrArg (fun answer => (Except.ok answer, memory)) known
  cases setting with
  | none => rfl
  | off => rfl
  | on => exact shown _ name.filled
  | text value => exact shown _ (by simp)

/-- What is written of attributes, each led by a blank. -/
theorem join_writtenSettings (attributes : List (Name × Setting)) :
    String.join ((((attributes.map writtenSetting).filter Value.isStr).map
      (String.ofList ∘ charsOf)).map (" " ++ ·)) =
        String.ofList ((attributes.filterMap kept).flatMap writtenAttribute) := by
  refine String.toList_inj.mp ?_
  rw [String.toList_join, String.toList_ofList]
  induction attributes with
  | nil => rfl
  | cons entry rest ih =>
      obtain ⟨name, setting⟩ := entry
      cases setting with
      | none => exact ih
      | off => exact ih
      | on =>
          simp only [List.map_cons, List.filter_cons, writtenSetting, Value.isStr, if_true,
            List.flatMap_cons, List.filterMap_cons, kept, writtenAttribute, ← ih]
          simp [charsOf]
      | text value =>
          simp only [List.map_cons, List.filter_cons, writtenSetting, Value.isStr, if_true,
            List.flatMap_cons, List.filterMap_cons, kept, writtenAttribute, ← ih]
          simp [charsOf, Text.escapeAttribute]

/-- The attributes that are not left out are written in order. -/
theorem gives_attributesText {props : MapId} {attributes : List (Name × Setting)}
    (entries : memory.mapAt props = attributes.map Name.entry) :
    memory.Gives (Observe.attributesText (.map props))
      (String.ofList ((attributes.filterMap kept).flatMap writtenAttribute)) := by
  have listed : memory.Gives (Observe.entriesOf (.map props)) (attributes.map Name.entry) :=
    .getting (entries ▸ .pure _)
  have written : memory.Gives
      ((attributes.map Name.entry).mapM fun entry => Observe.writtenAttribute entry.1 entry.2)
      (attributes.map writtenSetting) :=
    .mapM (List.forall₂_map_left_iff.mpr (List.forall₂_map_right_iff.mpr
      (List.forall₂_same.mpr fun entry _ => gives_writtenAttribute entry.1 entry.2)))
  have shown : memory.Gives ((attributes.map writtenSetting).filterM Observe.isTrue)
      ((attributes.map writtenSetting).filter Value.isStr) := by
    refine .filterM fun value known => ?_
    obtain ⟨entry, -, rfl⟩ := List.mem_map.mp known
    exact gives_isTrue_written entry
  have texts : memory.Gives
      (((attributes.map writtenSetting).filter Value.isStr).mapM Observe.writtenText)
      (((attributes.map writtenSetting).filter Value.isStr).map (String.ofList ∘ charsOf)) := by
    refine .mapM_map fun value known => ?_
    have text := (List.mem_filter.mp known).2
    cases value <;> cases text
    exact congrArg (fun text => (Except.ok text, memory)) String.ofList_toList.symm
  rw [← join_writtenSettings]
  exact listed.bind (written.bind (shown.bind (texts.bind (.pure _))))

/-! ## Trees -/

theorem HoldsAll.mapM {α : Type} {step : Value → Observe α} {change : Renderable → α}
    {trees : List Renderable} {values : List Value} (held : memory.HoldsAll trees values)
    (each : ∀ tree ∈ trees, ∀ value, memory.Holds tree value →
      memory.Gives (step value) (change tree)) :
    memory.Gives (values.mapM step) (trees.map change) := by
  induction trees generalizing values with
  | nil => cases held; rfl
  | cons tree rest ih =>
      obtain ⟨first, later, rfl, head, tail⟩ := held
      have others := ih tail fun other known => each other (List.mem_cons_of_mem _ known)
      rw [List.mapM_cons]
      exact (each tree List.mem_cons_self first head).bind (others.bind (.pure _))

theorem gives_htmlItem {inner : Value → Observe String} {part : Renderable} {value : Value}
    (held : memory.Holds part value) (flat : part.isPart = true)
    (inside : ∀ content inside, content.height < part.height → memory.Holds content inside →
      memory.Gives (inner inside) (String.ofList (Item.writtenAll content.items))) :
    memory.Gives (Observe.htmlItem inner value) (String.ofList (Item.writtenAll part.items)) := by
  cases part with
  | nothing => cases flat
  | list => cases flat
  | str content =>
      cases held
      refine congrArg (fun text => (Except.ok text, memory)) ?_
      simp [Renderable.items, Item.writtenAll, Item.written, Text.escapeText]
  | text content =>
      cases held
      refine congrArg (fun text => (Except.ok text, memory)) ?_
      simp [Renderable.items, Item.writtenAll, Item.written, Text.escapeText]
  | element tag attributes content =>
      obtain ⟨id, props, rfl, named, settings, entries, children⟩ := held
      have written := inside content _ (by simp [Renderable.height]) children
      refine .getting ?_
      dsimp only
      rw [named, settings]
      refine (gives_attributesText entries).bind ?_
      cases void : tag.isVoid with
      | true =>
          rw [if_pos (show Observe.voidElements.contains tag.text = true from void)]
          refine congrArg (fun text => (Except.ok text, memory)) (String.toList_inj.mp ?_)
          simp [Renderable.items, Item.writtenAll, Item.written, startTag, void]
      | false =>
          have ends : ¬ Observe.voidElements.contains tag.text = true := by
            rw [show Observe.voidElements.contains tag.text = false from void]
            exact Bool.false_ne_true
          rw [if_neg ends]
          refine written.bind ?_
          refine congrArg (fun text => (Except.ok text, memory)) (String.toList_inj.mp ?_)
          simp [Renderable.items, Item.writtenAll, Item.written, startTag, endTag, void,
            writtenAll_merged]

/-- A tree is written as its parts, one after another. -/
theorem gives_htmlWithin {depth : Nat} {tree : Renderable} {value : Value}
    (held : memory.Holds tree value) (room : tree.height ≤ memory.depth)
    (below : tree.height ≤ depth) :
    memory.Gives (Observe.htmlWithin depth value) (String.ofList (Item.writtenAll tree.items)) := by
  induction depth generalizing tree value with
  | zero => exact absurd below (Nat.not_le_of_gt tree.height_pos)
  | succ depth ih =>
      obtain ⟨leaves, flat, held'⟩ := gives_flattenWithin held room
      have each : memory.Gives (leaves.mapM (Observe.htmlItem (Observe.htmlWithin depth)))
          (tree.parts.map fun part => String.ofList (Item.writtenAll part.items)) := by
        refine held'.mapM fun part known leaf held => ?_
        obtain ⟨flat, lower⟩ := Renderable.mem_parts known
        exact gives_htmlItem held flat fun content inside less holds =>
          ih holds (by omega) (by omega)
      refine (Memory.Gives.getting flat).bind (each.bind ?_)
      refine congrArg (fun text => (Except.ok text, memory)) (String.toList_inj.mp ?_)
      rw [String.toList_join, String.toList_ofList, ← Renderable.itemsOfAll_parts tree]
      induction tree.parts with
      | nil => rfl
      | cons part rest ih' =>
          rw [List.map_cons, List.flatMap_cons, ih', String.toList_ofList, Renderable.itemsOfAll,
            writtenAll_append]

theorem gives_html {tree : Renderable} {value : Value} (held : memory.Holds tree value) :
    memory.Gives (Observe.html value) (String.ofList (Item.writtenAll tree.items)) := by
  have room := height_le_depth held
  have levels : memory.depth ≤ Observe.levelsPerNode * memory.depth :=
    Nat.le_mul_of_pos_left _ (by decide)
  exact .getting (gives_htmlWithin held room (Nat.le_trans room levels))

end Memory

/--
Trees of texts, lists and elements can be written as markup, and what is written is the same
exactly if the trees have one canonical form.
-/
theorem markup_tells_canonical {memory memory' : Memory} {tree tree' : Renderable}
    {value value' : Value} (held : memory.Holds tree value) (held' : memory'.Holds tree' value') :
    ∃ text text', (Observe.html value).run memory = (.ok text, memory) ∧
      (Observe.html value').run memory' = (.ok text', memory') ∧
        (text = text' ↔ tree.canonical = tree'.canonical) := by
  refine ⟨_, _, Memory.gives_html held, Memory.gives_html held', ?_⟩
  rw [← writtenAll_items_eq_iff]
  exact ⟨fun same => String.ofList_injective same, congrArg String.ofList⟩

/-! ## An element written in two ways -/

namespace Markup

theorem isNameChar_of_lower {c : Char} (lower : 'a' ≤ c ∧ c ≤ 'z') :
    Markup.isNameChar c = true := by
  have below : c.toNat < 128 := Nat.lt_of_le_of_lt lower.2 (by decide)
  simp [Markup.isNameChar, Text.isLetterOrNumeral, below, Text.isAsciiLetter, lower.1, lower.2]

/-- A name of small letters. -/
def Name.ofLower (text : String) (filled : text.toList ≠ [])
    (lower : ∀ c ∈ text.toList, 'a' ≤ c ∧ c ≤ 'z') : Name :=
  ⟨text, filled, fun c known => isNameChar_of_lower (lower c known)⟩

/-- The element of paragraphs. -/
def Name.paragraph : Name :=
  .ofLower "p" (by simp) (by simp)

/-- The element of line breaks, which is void. -/
def Name.lineBreak : Name :=
  .ofLower "br" (by simp) (by simp)

/-- An attribute with a text. -/
def Name.title : Name :=
  .ofLower "title" (by simp) (by simp)

/-- An attribute that is on or off. -/
def Name.hidden : Name :=
  .ofLower "hidden" (by simp) (by simp)

/-- A paragraph with gaps, a text in pieces and something inside a void element. -/
def scattered : Renderable :=
  .list [.nothing, .element .paragraph [(.title, .text "a\"<b"), (.hidden, .off)]
    (.list [.str "x <", .text "", .list [.text "b>"], .element .lineBreak [] (.str "lost")])]

/-- The same paragraph with nothing to leave out. -/
def gathered : Renderable :=
  .element .paragraph [(.title, .text "a\"<b")]
    (.list [.text "x <b>", .element .lineBreak [] (.list [])])

end Markup

/-- Memory that holds both of them. -/
def paragraphMemory : Memory :=
  { Memory.empty with
    lists := #[[.none, .node 0], [.str "x <", .text "", .list 2, .node 1], [.text "b>"],
      [.text "x <b>", .node 3], []]
    maps := #[[(.str "title", .str "a\"<b"), (.str "hidden", .bool false)], [],
      [(.str "title", .str "a\"<b")]]
    nodes := #[⟨.str "p", .map 0, .list 1⟩, ⟨.str "br", .map 1, .str "lost"⟩,
      ⟨.str "p", .map 2, .list 3⟩, ⟨.str "br", .map 1, .list 4⟩] }

theorem holds_scattered : paragraphMemory.Holds scattered (.list 0) := by
  have inside : paragraphMemory.HoldsAll
      [.str "x <", .text "", .list [.text "b>"], .element .lineBreak [] (.str "lost")]
      [.str "x <", .text "", .list 2, .node 1] :=
    ⟨_, _, rfl, rfl, _, _, rfl, rfl, _, _, rfl, ⟨2, rfl, _, _, rfl, rfl, rfl⟩,
      _, _, rfl, ⟨1, 1, rfl, rfl, rfl, rfl, rfl⟩, rfl⟩
  exact ⟨0, rfl, _, _, rfl, rfl, _, _, rfl, ⟨0, 0, rfl, rfl, rfl, rfl, 1, rfl, inside⟩, rfl⟩

theorem holds_gathered : paragraphMemory.Holds gathered (.node 2) := by
  have inside : paragraphMemory.HoldsAll [.text "x <b>", .element .lineBreak [] (.list [])]
      [.text "x <b>", .node 3] :=
    ⟨_, _, rfl, rfl, _, _, rfl, ⟨3, 1, rfl, rfl, rfl, rfl, 4, rfl, rfl⟩, rfl⟩
  exact ⟨2, 2, rfl, rfl, rfl, rfl, 3, rfl, inside⟩

theorem markup_tells_canonical_paragraph :
    paragraphMemory.Holds scattered (.list 0) ∧ paragraphMemory.Holds gathered (.node 2) ∧
      ∃ text, (Observe.html (.list 0)).run paragraphMemory = (.ok text, paragraphMemory) ∧
        (Observe.html (.node 2)).run paragraphMemory = (.ok text, paragraphMemory) := by
  refine ⟨holds_scattered, holds_gathered, ?_⟩
  obtain ⟨text, text', ran, ran', same⟩ := markup_tells_canonical holds_scattered holds_gathered
  have alike : scattered.canonical = gathered.canonical := by
    rfl
  cases same.mpr alike
  exact ⟨text, ran, ran'⟩

end ReactiveSchema
