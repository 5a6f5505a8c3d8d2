import ReactiveSchema.Proofs.Act.Concludes
import ReactiveSchema.Proofs.Observe.Alike
import ReactiveSchema.Proofs.Observe.Steady
import ReactiveSchema.Schema.Compile
import ReactiveSchema.View

/-!
# Elements with a text

An element that has neither attributes nor anything but one text inside: how it is read from
raw data, what the part that renders it gives, and how that is written.
-/

namespace ReactiveSchema

open Observe Text

variable {memory : Memory}

/-- The text that a scalar contributes to output. -/
def Value.outputText? : Value → Option String
  | .none => some ""
  | .bool b => some (if b then "True" else "False")
  | .int n => Number.intText? n
  | .float x => some (Number.floatText x)
  | .nan _ => some "nan"
  | .str s => some s
  | _ => Option.none

theorem textOf?_eq {value : Value} (scalar : value.isScalar = true) (known : value ≠ .none)
    (memory : Memory) : memory.textOf? value = value.outputText? := by
  cases value <;> first | exact absurd rfl known | rfl | cases scalar

theorem run_stringify {value : Value} (scalar : value.isScalar = true) (memory : Memory) :
    (stringify value).run memory = (written value.outputText?).run memory := by
  by_cases known : value = .none
  · subst known
    rfl
  · have same : (written (memory.textOf? value)).run memory = (textOf value).run memory := rfl
    rw [← textOf?_eq scalar known memory, same]
    cases value <;> first | exact absurd rfl known | rfl

/-! ## Raw data -/

/-- Raw data of an element of a tag with something inside. -/
def rawLeaf (tag : String) (child : Value) : Entries Value :=
  [(.str "$el", .str tag), (.str "children", child)]

/-- What raw data of an element is read as that has nothing but something inside. -/
def SchemaNode.leaf (tag : String) (child : Value) : SchemaNode :=
  .element tag ⟨.none, child, none, none, none⟩

section

variable {raw : MapId} {tag : String} {child : Value}

/-- Reading an entry of the raw data of an element. -/
theorem gives_entryOf_leaf (known : memory.mapAt raw = rawLeaf tag child) (key : String) :
    memory.Gives (entryOf (.map raw) key) (((rawLeaf tag child).find? (.str key)).getD .none) := by
  rw [← known]
  rfl

theorem gives_entryOf?_leaf (known : memory.mapAt raw = rawLeaf tag child) (key : String) :
    memory.Gives (entryOf? (.map raw) key) ((rawLeaf tag child).find? (.str key)) := by
  have has : memory.Gives (hasKey (.map raw) key) ((memory.mapAt raw).contains (.str key)) := rfl
  unfold entryOf?
  refine has.bind ?_
  rw [← known]
  unfold Entries.contains
  cases found : (memory.mapAt raw).find? (.str key) with
  | none => rfl
  | some value =>
      have item : memory.Gives (getItem (.map raw) (.str key)) value := by
        unfold getItem
        refine Memory.Gives.bind rfl (Memory.Gives.getting ?_)
        rw [found]
        rfl
      exact item.map some

theorem gives_parseNode_leaf (known : memory.mapAt raw = rawLeaf tag child)
    (named : tag.isEmpty = false) :
    memory.Gives (parseNode (.map raw)) (some (.leaf tag child)) := by
  have parts : memory.Gives (parseParts "attrs" (.map raw)) ⟨.none, child, none, none, none⟩ := by
    unfold parseParts
    refine (gives_entryOf_leaf known "attrs").bind ?_
    refine (gives_entryOf_leaf known "children").bind ?_
    refine (gives_entryOf?_leaf known "if").bind ?_
    have bindings : memory.Gives (parseBindings (.map raw)) none :=
      (gives_entryOf_leaf known "let").bind rfl
    refine bindings.bind ?_
    exact (gives_entryOf_leaf known "for").bind rfl
  unfold parseNode parseMapping
  refine (gives_entryOf?_leaf known "$el").bind ?_
  change memory.Gives (parseElement (.map raw) (.str tag)) _
  unfold parseElement
  dsimp only
  rw [named]
  exact parts.map fun parts => some (SchemaNode.element tag parts)

end

/-! ## Rendering -/

/-- The fault of a text that is not written, as it would have too many digits. -/
def Unwritten (text : Option String) (fault : Fault) : Prop :=
  text = none ∧ fault = .failure .tooManyDigits

/-- The children that come to a text; no text leaves none. -/
inductive AreText : List Value → String → Prop where
  | one (text : String) : AreText [.text text] text
  | none : AreText [] ""

/-- What is inside of an element comes to a text. -/
inductive Memory.ComesTo (memory : Memory) : Value → String → Prop where
  | text (content : String) : memory.ComesTo (.str content) content
  | nothing {list : ListId} : memory.lists[list]? = some [] → memory.ComesTo (.list list) ""

theorem Memory.ComesTo.gives {value : Value} {text : String} (comes : memory.ComesTo value text) :
    ∃ children, AreText children text ∧
      memory.Gives (do (← flatChildren value).mapM toChild) children := by
  have flat (leaves : List Value) (flat : memory.Gives (flattenWithin memory.levels value) leaves) :
      memory.Gives (flatChildren value) leaves := Memory.Gives.getting flat
  cases comes with
  | text => exact ⟨_, .one text, (flat _ rfl).bind rfl⟩
  | nothing empty =>
      refine ⟨[], .none, (flat [] ?_).bind rfl⟩
      unfold Memory.levels flattenWithin flattenStep
      refine Memory.Gives.getting ?_
      unfold Memory.listAt
      rw [empty]
      rfl

/-- A node of a tag has no attributes, and nothing but a text inside. -/
def Memory.HoldsLeaf (memory : Memory) (id : NodeId) (tag text : String) : Prop :=
  ∃ props content children, memory.nodes[id]? = some ⟨.str tag, .map props, .list content⟩ ∧
    memory.maps[props]? = some [] ∧ memory.lists[content]? = some children ∧ AreText children text

/-- Memory with one more node that has children but no attributes. -/
def Memory.withLeaf (memory : Memory) (tag : String) (children : List Value) : Memory :=
  { memory with
    maps := memory.maps.push []
    lists := memory.lists.push children
    nodes := memory.nodes.push ⟨.str tag, .map memory.maps.size, .list memory.lists.size⟩ }

theorem run_makeNode_leaf {value : Value} {text : String} (tag : String)
    (comes : memory.ComesTo value text) :
    ∃ id after, (makeNode (.str tag) .none value).run memory = (.ok (.node id), after) ∧
      after.context = memory.context ∧ after.HoldsLeaf id tag text := by
  have propped : Memory.ComesTo { memory with maps := memory.maps.push [] } value text := by
    cases comes with
    | text => exact .text text
    | nothing empty => exact .nothing empty
  obtain ⟨children, are, gives⟩ := propped.gives
  refine ⟨memory.nodes.size, memory.withLeaf tag children, ?_, rfl, memory.maps.size,
    memory.lists.size, children, Array.getElem?_push_size, Array.getElem?_push_size,
    Array.getElem?_push_size, are⟩
  unfold makeNode
  refine (run_bind_of_ok rfl).trans ((run_bind_of_ok rfl).trans ((run_bind_of_ok rfl).trans ?_))
  rw [← bind_assoc]
  exact (run_bind_of_ok gives).trans rfl

/-- A part comes to a text when it is run, or fails to write it. -/
def Thunk.Fills (content : Thunk) (text : Option String) (memory : Memory) : Prop :=
  Concludes (Unwritten text) (fun value after => after.context = memory.context ∧
    ∃ written, text = some written ∧ after.ComesTo value written) (content.run.run memory)

theorem Thunk.Fills.node {content : Thunk} {text : Option String}
    (fills : content.Fills text memory) (tag : String) :
    Concludes (Unwritten text) (fun value after => after.context = memory.context ∧
      ∃ written id, text = some written ∧ value = .node id ∧ after.HoldsLeaf id tag written)
        ((Thunk.node none (.str tag) .nothing content).run.run memory) := by
  have ran : (Thunk.node none (.str tag) .nothing content).run.run memory =
      (do renderNode none (.str tag) .none (← content.run) : Observe Value).run memory :=
    run_bind_of_ok rfl
  rw [ran]
  refine Concludes.bind fills ?_
  rintro value filled ⟨same, written, known, comes⟩
  obtain ⟨id, after, made, still, leaf⟩ := run_makeNode_leaf tag comes
  have rendered : (renderNode none (.str tag) .none value).run filled = (.ok (.node id), after) :=
    (run_bind_of_ok rfl).trans made
  rw [rendered]
  exact .well ⟨still.trans same, written, id, known, rfl, leaf⟩

/-! ## Writing -/

/-- An element of a tag with a text inside, as markup. -/
def leafMarkup (tag text : String) : String :=
  if voidElements.contains tag then "<" ++ tag ++ ">"
  else "<" ++ tag ++ ">" ++ escapeText text ++ "</" ++ tag ++ ">"

theorem gives_html_leaf {id : NodeId} {tag text : String} (holds : memory.HoldsLeaf id tag text) :
    memory.Gives (html (.node id)) (leafMarkup tag text) := by
  obtain ⟨props, content, children, node, bare, items, are⟩ := holds
  have room : ∃ depth, memory.depth = depth + 2 := by
    have nodes := (Array.getElem?_eq_some_iff.mp node).1
    refine ⟨memory.depth - 2, ?_⟩
    unfold Memory.depth
    omega
  obtain ⟨depth, room⟩ := room
  have joined (text : String) : String.join [text] = text := by simp [String.join]
  have inner (levels : Nat) : memory.Gives (htmlWithin (levels + 1) (.list content))
      (escapeText text) := by
    have flat : memory.Gives (flatten (.list content)) children := by
      refine Memory.Gives.getting ?_
      rw [room]
      refine Memory.Gives.getting ?_
      unfold Memory.listAt
      rw [items]
      cases are <;> rfl
    refine flat.bind ?_
    cases are with
    | one text => exact (joined _ ▸ Memory.Gives.map (by exact rfl) String.join :)
    | none => rfl
  have attributes : memory.Gives (attributesText (.map props)) "" := by
    unfold attributesText entriesOf
    rw [bind_assoc]
    refine Memory.Gives.getting ?_
    unfold Memory.mapAt
    rw [bare]
    rfl
  have flat : memory.Gives (flatten (.node id)) [.node id] := by
    refine Memory.Gives.getting ?_
    rw [room]
    rfl
  unfold html
  refine Memory.Gives.getting ?_
  have levels : levelsPerNode * memory.depth = (8 * depth + 14) + 2 := by
    rw [room]
    unfold levelsPerNode
    omega
  rw [levels]
  have item : memory.Gives (htmlItem (htmlWithin (8 * depth + 14 + 1)) (.node id))
      (leafMarkup tag text) := by
    refine Memory.Gives.getting ?_
    unfold Memory.nodeAt
    rw [node]
    refine attributes.bind ?_
    unfold leafMarkup
    rw [String.append_empty]
    split
    · rfl
    · exact (inner (8 * depth + 14)).map fun inside =>
        "<" ++ tag ++ ">" ++ inside ++ "</" ++ tag ++ ">"
  have parts : memory.Gives ([Value.node id].mapM (htmlItem (htmlWithin (8 * depth + 14 + 1))))
      [leafMarkup tag text] := .mapM (.cons item .nil)
  refine flat.bind ?_
  rw [← joined (leafMarkup tag text)]
  exact parts.map String.join

end ReactiveSchema
