import Mathlib.Data.Fintype.Card
import Mathlib.Data.Fintype.Sum
import ReactiveSchema.Proofs.Markup.Canonical
import ReactiveSchema.Proofs.Observe.Steady

/-!
# Renderable values

A value of memory may hold a tree of texts, lists and elements.  Such a tree is no higher than
memory is deep, so flattening comes to its texts and elements, in order.
-/

namespace ReactiveSchema

open Markup

/-! ## Trees in memory -/

/-- The entry of an attribute in a map of properties. -/
def Markup.Name.entry : Name × Setting → Value × Value
  | (name, setting) => (.str name.text, setting.value)

namespace Memory

mutual

/-- Does a value hold a tree? -/
def Holds (memory : Memory) : Renderable → Value → Prop
  | .nothing, value => value = .none
  | .str content, value => value = .str content
  | .text content, value => value = .text content
  | .list trees, value => ∃ id, value = .list id ∧ memory.HoldsAll trees (memory.listAt id)
  | .element tag attributes content, value => ∃ id props, value = .node id ∧
      (memory.nodeAt id).type = .str tag.text ∧ (memory.nodeAt id).props = .map props ∧
        memory.mapAt props = attributes.map Name.entry ∧
          memory.Holds content (memory.nodeAt id).children

/-- Do values hold trees, one by one? -/
def HoldsAll (memory : Memory) : List Renderable → List Value → Prop
  | [], values => values = []
  | tree :: trees, values => ∃ first rest, values = first :: rest ∧ memory.Holds tree first ∧
      memory.HoldsAll trees rest

end

end Memory

/-! ## Heights -/

namespace Markup.Renderable

mutual

/-- How deep lists and elements lie inside one another. -/
def height : Renderable → Nat
  | .nothing => 1
  | .str _ => 1
  | .text _ => 1
  | .list trees => 1 + heightOfAll trees
  | .element _ _ content => 1 + content.height

/-- The height of the highest of several trees. -/
def heightOfAll : List Renderable → Nat
  | [] => 0
  | tree :: rest => max tree.height (heightOfAll rest)

end

theorem height_pos (tree : Renderable) : 1 ≤ tree.height := by
  cases tree <;> simp [height]

end Markup.Renderable

namespace Memory

variable {memory : Memory}

theorem height_of_leaf : ∀ {tree : Renderable} {value : Value}, memory.Holds tree value →
    (∀ id, value ≠ .list id) → (∀ id, value ≠ .node id) → tree.height = 1
  | .nothing, _, _, _, _ => rfl
  | .str _, _, _, _, _ => rfl
  | .text _, _, _, _, _ => rfl
  | .list _, _, ⟨id, same, _⟩, noList, _ => absurd same (noList id)
  | .element .., _, ⟨id, _, same, _⟩, _, noNode => absurd same (noNode id)

mutual

/-- A value holds trees of one height only. -/
theorem height_unique : ∀ {tree tree' : Renderable} {value : Value}, memory.Holds tree value →
    memory.Holds tree' value → tree.height = tree'.height
  | .nothing, _, _, rfl, held' => (height_of_leaf held' nofun nofun).symm
  | .str _, _, _, rfl, held' => (height_of_leaf held' nofun nofun).symm
  | .text _, _, _, rfl, held' => (height_of_leaf held' nofun nofun).symm
  | .list trees, tree', _, held, held' => by
      obtain ⟨id, rfl, inner⟩ := held
      cases tree' with
      | list trees' =>
          obtain ⟨_, same, inner'⟩ := held'
          cases same
          simp only [Renderable.height, heightOfAll_unique inner inner']
      | element => obtain ⟨_, _, same, _⟩ := held'; cases same
      | _ => cases held'
  | .element _ _ content, tree', _, held, held' => by
      obtain ⟨id, props, rfl, -, -, -, inner⟩ := held
      cases tree' with
      | element =>
          obtain ⟨_, _, same, -, -, -, inner'⟩ := held'
          cases same
          simp only [Renderable.height, height_unique inner inner']
      | list => obtain ⟨_, same, _⟩ := held'; cases same
      | _ => cases held'

theorem heightOfAll_unique : ∀ {trees trees' : List Renderable} {values : List Value},
    memory.HoldsAll trees values → memory.HoldsAll trees' values →
      Renderable.heightOfAll trees = Renderable.heightOfAll trees'
  | [], trees', _, held, held' => by
      cases held
      cases trees' with
      | nil => rfl
      | cons => obtain ⟨_, _, same, _⟩ := held'; cases same
  | tree :: trees, trees', _, held, held' => by
      obtain ⟨first, rest, rfl, head, tail⟩ := held
      cases trees' with
      | nil => cases held'
      | cons tree' trees' =>
          obtain ⟨_, _, same, head', tail'⟩ := held'
          cases same
          simp only [Renderable.heightOfAll, height_unique head head',
            heightOfAll_unique tail tail']

end

/-- The places of lists and nodes. -/
abbrev Place (memory : Memory) :=
  Fin memory.lists.size ⊕ Fin memory.nodes.size

/-- The value at a place. -/
def valueOf : memory.Place → Value
  | .inl id => .list id
  | .inr id => .node id

/-- At some place there is a tree of a height. -/
def Reaches (memory : Memory) (height : Nat) : Prop :=
  ∃ place : memory.Place, ∃ tree : Renderable, memory.Holds tree (valueOf place) ∧
    tree.height = height

theorem lt_size_of_getD {α : Type} {items : Array α} {id : Nat} (default : α)
    (known : items[id]?.getD default ≠ default) : id < items.size := by
  refine Nat.lt_of_not_le fun beyond => known ?_
  rw [Array.getElem?_eq_none beyond, Option.getD_none]

mutual

/-- Where there is a tree, there are trees of every lower height, but for those without parts. -/
theorem reaches_of_holds : ∀ {tree : Renderable} {value : Value} {height : Nat},
    memory.Holds tree value → 1 < height → height ≤ tree.height → memory.Reaches height
  | .nothing, _, _, _, more, below => absurd below (Nat.not_le_of_gt more)
  | .str _, _, _, _, more, below => absurd below (Nat.not_le_of_gt more)
  | .text _, _, _, _, more, below => absurd below (Nat.not_le_of_gt more)
  | .list trees, value, height, held, more, below => by
      rcases Nat.lt_or_eq_of_le below with lower | rfl
      · obtain ⟨id, -, inner⟩ := held
        simp only [Renderable.height] at lower
        exact reaches_of_holdsAll inner more (by omega)
      · have held' := held
        obtain ⟨id, rfl, inner⟩ := held
        have known : id < memory.lists.size := by
          refine lt_size_of_getD [] fun empty => ?_
          rw [listAt, empty] at inner
          cases trees with
          | nil => simp [Renderable.height, Renderable.heightOfAll] at more
          | cons => obtain ⟨_, _, same, _⟩ := inner; cases same
        exact ⟨.inl ⟨id, known⟩, _, held', rfl⟩
  | .element tag attributes content, value, height, held, more, below => by
      rcases Nat.lt_or_eq_of_le below with lower | rfl
      · obtain ⟨id, props, -, -, -, -, inner⟩ := held
        simp only [Renderable.height] at lower
        exact reaches_of_holds inner more (by omega)
      · have held' := held
        obtain ⟨id, props, rfl, named, -⟩ := held
        have known : id < memory.nodes.size := by
          refine lt_size_of_getD ⟨.none, .none, .none⟩ fun empty => ?_
          rw [nodeAt, empty] at named
          cases named
        exact ⟨.inr ⟨id, known⟩, _, held', rfl⟩

theorem reaches_of_holdsAll : ∀ {trees : List Renderable} {values : List Value} {height : Nat},
    memory.HoldsAll trees values → 1 < height → height ≤ Renderable.heightOfAll trees →
      memory.Reaches height
  | [], _, _, _, more, below => by
      simp only [Renderable.heightOfAll] at below
      omega
  | tree :: trees, _, _, held, more, below => by
      obtain ⟨first, rest, rfl, head, tail⟩ := held
      simp only [Renderable.heightOfAll] at below
      rcases le_max_iff.mp below with below | below
      · exact reaches_of_holds head more below
      · exact reaches_of_holdsAll tail more below

end

/-- Trees in memory are no higher than memory is deep: each height has a place of its own. -/
theorem height_le_depth {tree : Renderable} {value : Value} (held : memory.Holds tree value) :
    tree.height ≤ memory.depth := by
  have reached (below : Fin (tree.height - 1)) : memory.Reaches (below + 2) :=
    reaches_of_holds held (by omega) (by omega)
  choose place found holds heights using reached
  have apart : Function.Injective place := by
    intro one other same
    have unique := height_unique (same ▸ holds one) (holds other)
    rw [heights, heights] at unique
    exact Fin.ext (by omega)
  have counted := Fintype.card_le_of_injective place apart
  rw [Fintype.card_fin, Fintype.card_sum, Fintype.card_fin, Fintype.card_fin] at counted
  unfold depth
  omega

end Memory

/-! ## Flattening -/

namespace Markup.Renderable

mutual

/-- The texts and elements of a tree, without the lists around them. -/
def parts : Renderable → List Renderable
  | .nothing => []
  | .str content => [.str content]
  | .text content => [.text content]
  | .list trees => partsOfAll trees
  | .element tag attributes content => [.element tag attributes content]

/-- The parts of several trees. -/
def partsOfAll : List Renderable → List Renderable
  | [] => []
  | tree :: rest => tree.parts ++ partsOfAll rest

end

/-- A text or an element. -/
def isPart : Renderable → Bool
  | .nothing => false
  | .list _ => false
  | _ => true

mutual

theorem itemsOfAll_parts : ∀ tree : Renderable, itemsOfAll tree.parts = tree.items
  | .nothing => rfl
  | .str _ => rfl
  | .text _ => rfl
  | .list trees => itemsOfAll_partsOfAll trees
  | .element .. => List.append_nil _

theorem itemsOfAll_partsOfAll : ∀ trees : List Renderable,
    itemsOfAll (partsOfAll trees) = itemsOfAll trees
  | [] => rfl
  | tree :: rest => by
      have split (front back : List Renderable) :
          itemsOfAll (front ++ back) = itemsOfAll front ++ itemsOfAll back := by
        induction front with
        | nil => rfl
        | cons first more ih => simp only [List.cons_append, itemsOfAll, ih, List.append_assoc]
      rw [partsOfAll, split, itemsOfAll_parts tree, itemsOfAll_partsOfAll rest, itemsOfAll]

end

mutual

theorem mem_parts : ∀ {tree part : Renderable}, part ∈ tree.parts →
    part.isPart = true ∧ part.height ≤ tree.height
  | .nothing, _, known => nomatch known
  | .str _, _, known => by
      cases List.mem_singleton.mp known
      exact ⟨rfl, Nat.le_refl _⟩
  | .text _, _, known => by
      cases List.mem_singleton.mp known
      exact ⟨rfl, Nat.le_refl _⟩
  | .list trees, _, known => by
      have inner : _ ∈ partsOfAll trees := known
      exact ⟨(mem_partsOfAll inner).1, Nat.le_trans (mem_partsOfAll inner).2 (Nat.le_add_left _ _)⟩
  | .element .., _, known => by
      cases List.mem_singleton.mp known
      exact ⟨rfl, Nat.le_refl _⟩

theorem mem_partsOfAll : ∀ {trees : List Renderable} {part : Renderable}, part ∈ partsOfAll trees →
    part.isPart = true ∧ part.height ≤ heightOfAll trees
  | [], _, known => nomatch known
  | tree :: rest, _, known => by
      rcases List.mem_append.mp known with known | known
      · exact ⟨(mem_parts known).1, Nat.le_trans (mem_parts known).2 (Nat.le_max_left _ _)⟩
      · exact ⟨(mem_partsOfAll known).1,
          Nat.le_trans (mem_partsOfAll known).2 (Nat.le_max_right _ _)⟩

end

end Markup.Renderable

namespace Memory

variable {memory : Memory}

theorem HoldsAll.append {trees others : List Renderable} {values more : List Value}
    (held : memory.HoldsAll trees values) (held' : memory.HoldsAll others more) :
    memory.HoldsAll (trees ++ others) (values ++ more) := by
  induction trees generalizing values with
  | nil => cases held; exact held'
  | cons tree rest ih =>
      obtain ⟨first, later, rfl, head, tail⟩ := held
      exact ⟨first, later ++ more, rfl, head, ih tail⟩

theorem HoldsAll.single {tree : Renderable} {value : Value} (held : memory.Holds tree value) :
    memory.HoldsAll [tree] [value] :=
  ⟨value, [], rfl, held, rfl⟩

mutual

/-- Flattening gives the texts and elements of a tree in order. -/
theorem gives_flattenWithin : ∀ {tree : Renderable} {value : Value} {depth : Nat},
    memory.Holds tree value → tree.height ≤ depth →
      ∃ leaves, memory.Gives (Observe.flattenWithin depth value) leaves ∧
        memory.HoldsAll tree.parts leaves
  | tree, _, 0, _, below => absurd below (Nat.not_le_of_gt tree.height_pos)
  | .nothing, _, depth + 1, rfl, _ => ⟨[], rfl, rfl⟩
  | .str content, _, depth + 1, rfl, _ => ⟨[.str content], rfl, .single rfl⟩
  | .text content, _, depth + 1, rfl, _ => ⟨[.text content], rfl, .single rfl⟩
  | .list trees, _, depth + 1, ⟨id, rfl, inner⟩, below => by
      simp only [Renderable.height] at below
      have inside : Renderable.heightOfAll trees ≤ depth := by omega
      obtain ⟨lists, given, held⟩ := gives_flattenAll inner inside
      exact ⟨lists.flatten, .getting (given.map List.flatten), held⟩
  | .element tag attributes content, _, depth + 1, held, _ => by
      have whole := held
      obtain ⟨id, props, rfl, -⟩ := held
      exact ⟨[.node id], rfl, .single whole⟩

theorem gives_flattenAll : ∀ {trees : List Renderable} {values : List Value} {depth : Nat},
    memory.HoldsAll trees values → Renderable.heightOfAll trees ≤ depth →
      ∃ lists, memory.Gives (values.mapM (Observe.flattenWithin depth)) lists ∧
        memory.HoldsAll (Renderable.partsOfAll trees) lists.flatten
  | [], _, _, rfl, _ => ⟨[], rfl, rfl⟩
  | tree :: trees, _, depth, ⟨first, rest, rfl, head, tail⟩, below => by
      have ⟨inside, inside'⟩ := Nat.max_le.mp below
      obtain ⟨leaves, given, held⟩ := gives_flattenWithin head inside
      obtain ⟨lists, given', held'⟩ := gives_flattenAll tail inside'
      refine ⟨leaves :: lists, ?_, held.append held'⟩
      rw [List.mapM_cons]
      exact given.bind (given'.bind (.pure _))

end

end Memory

end ReactiveSchema
