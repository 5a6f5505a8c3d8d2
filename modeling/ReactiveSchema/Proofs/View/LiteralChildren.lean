import ReactiveSchema.Proofs.Observe.Leaves
import ReactiveSchema.Proofs.View.FirstCompile

/-!
# Literals inside of elements

What the compiler makes of a scalar inside of an element that is no expression.  It is asked
first whether there is anything inside: zeros count as nothing then, like no text at all.
-/

namespace ReactiveSchema

open Observe Text

variable {world : World} {runner : Runner} {raw : MapId} {tag : String} {child value : Value}

theorem World.unread_of_rest (rest : world.memory.settled = world.memory) :
    world.memory.reads = [] := by
  rw [← rest]
  rfl

/-! ## Scalars -/

/-- Scalars that count as false though they have a text: false and the zeros. -/
def Value.isZero : Value → Bool
  | .bool b => !b
  | .int n => n == 0
  | .float x => x == 0.0
  | _ => false

/-- The text that a scalar contributes as a literal: zeros are taken for nothing. -/
def Value.literalText? (value : Value) : Option String :=
  if value.isZero then some "" else value.outputText?

/-- A scalar that counts as false has no text as a literal, and any other has its own. -/
theorem literalText?_cases (scalar : value.isScalar = true) :
    (value.literalText? = some "" ∧ ∀ memory : Memory, memory.Gives (isTrue value) false) ∨
      (value.literalText? = value.outputText? ∧
        ∀ memory : Memory, memory.Gives (isTrue value) true) := by
  cases value with
  | none => exact .inl ⟨rfl, fun memory => rfl⟩
  | bool b =>
      cases b
      · exact .inl ⟨rfl, fun memory => rfl⟩
      · exact .inr ⟨rfl, fun memory => rfl⟩
  | int n =>
      cases zero : n == 0
      · exact .inr ⟨if_neg (by simpa [Value.isZero] using zero), fun memory => by
          rw [Observe.isTrue, bne, zero]
          rfl⟩
      · exact .inl ⟨if_pos zero, fun memory => by
          rw [Observe.isTrue, bne, zero]
          rfl⟩
  | float x =>
      cases zero : x == 0.0
      · exact .inr ⟨if_neg (ne_true_of_eq_false zero), fun memory => by
          rw [Observe.isTrue, bne, zero]
          rfl⟩
      · exact .inl ⟨if_pos zero, fun memory => by
          rw [Observe.isTrue, bne, zero]
          rfl⟩
  | nan => exact .inr ⟨rfl, fun memory => rfl⟩
  | str s =>
      cases empty : s.isEmpty
      · exact .inr ⟨rfl, fun memory => by
          rw [Observe.isTrue, empty]
          rfl⟩
      · rw [String.isEmpty_iff] at empty
        subst empty
        exact .inl ⟨rfl, fun memory => rfl⟩
  | _ => cases scalar

namespace Act

/-- Looking that leaves memory alone, where nothing was read before. -/
theorem run_observe_gives {α : Type} {look : Observe α} {result : α}
    (rest : world.memory.settled = world.memory)
    (gives : (world.memory.seeing world.outlook).Gives look result) :
    (observe look).run world = (.ok result, world) := by
  have unread : (world.memory.seeing world.outlook).reads = [] := World.unread_of_rest rest
  have same : (world.memory.seeing world.outlook).settled = world.memory := rest
  rw [run_observe, gives]
  dsimp only
  rw [unread, same]
  rfl

theorem run_newScope (calm : world.reactor.activeEffect = none)
    (rest : world.memory.settled = world.memory) (label : String) :
    (observe (newScope label)).run world = (.ok ⟨world.memory.scopeCount + 1, label⟩,
      world.withMemory { world.memory with scopeCount := world.memory.scopeCount + 1 }) := by
  have settled : { world.memory.settled with scopeCount := world.memory.scopeCount + 1 } =
      { world.memory with scopeCount := world.memory.scopeCount + 1 } := by rw [rest]
  rw [← settled]
  exact run_observe_calm _ calm

theorem run_compilerAt_of_found {compiler : Compiler} {id : CompilerId}
    (found : world.compilers[id]? = some compiler) :
    (compilerAt id).run world = (.ok compiler, world) := by
  unfold compilerAt
  rw [run_bind_of_ok (run_get world), found]
  rfl

/-- What a leaf with something inside is compiled to, but for its scope. -/
def compileLeaf (runner : Runner) (id : CompilerId) (deeper : CompileSchema) (scopes : ScopePath)
    (tag : String) (child : Value) : Act Thunk := do
  let content ← if ← observe (isTrue child) then compileChildren runner id deeper scopes child
    else pure (.all [])
  return .node (← compilerAt id).recorder (.str tag) .nothing content

end Act

/-- The world with one more node counted by a compiler. -/
def World.counting (world : World) (id : CompilerId) : World :=
  { world with
    compilers := world.compilers.modify id fun compiler =>
      { compiler with nodeCount := compiler.nodeCount + 1 } }

/-- The world as a leaf is compiled, in a scope of its own. -/
def World.entering (world : World) (id : CompilerId) : World :=
  (world.counting id).withMemory { world.memory with scopeCount := world.memory.scopeCount + 1 }

/-- The scope of a leaf that is compiled next. -/
def World.nextScope (world : World) : ScopeId :=
  ⟨world.memory.scopeCount + 1, ""⟩

namespace Act

theorem thunk_leaf (recorder : Recorder) (other : tag ≠ textTag) (children : Option Thunk)
    (scopes : ScopePath) :
    CompiledNode.thunk recorder ⟨none, some (.str tag), .nothing, children, none, scopes, none⟩ =
      .node recorder (.str tag) .nothing (children.getD (.all [])) := by
  have apart : (Value.str tag).identical (.str textTag) = false := by
    simpa [Value.identical] using other
  simp [CompiledNode.thunk, CompiledNode.once, CompiledNode.elementThunk, apart]

theorem run_compileRaw_leaf (runner : Runner) (calm : world.reactor.activeEffect = none)
    (rest : world.memory.settled = world.memory)
    (known : world.memory.mapAt raw = rawLeaf tag child) (named : tag.isEmpty = false)
    (other : tag ≠ textTag) (id : CompilerId) (deeper : CompileSchema) (around : ScopePath) :
    (compileRaw runner id deeper around (.map raw)).run world =
      (compileLeaf runner id deeper (around ++ [world.nextScope]) tag child).run
        (world.entering id) := by
  have parsed : (observe (parseNode (.map raw))).run world =
      (.ok (some (.leaf tag child)), world) :=
    run_observe_gives rest (gives_parseNode_leaf known named)
  have counted : (countNode id).run world = (.ok (), world.counting id) := rfl
  have quiet : (world.counting id).reactor.activeEffect = none := calm
  have entered : (observe (newScope "")).run (world.counting id) =
      (.ok world.nextScope, world.entering id) := run_newScope quiet rest ""
  have attributes (scopes : ScopePath) : compileAttributes runner id scopes .none = pure .nothing :=
    rfl
  obtain ⟨compiler, found⟩ := run_compilerAt id (world.entering id)
  unfold compileRaw compileNode?
  refine (run_bind_of_ok parsed).trans ?_
  dsimp only
  simp only [bind_assoc]
  refine (run_bind_of_ok counted).trans ((run_bind_of_ok entered).trans ?_)
  unfold compileNodeAt SchemaNode.leaf compileParts compileGiven
  dsimp only
  rw [if_neg other]
  simp only [attributes, pure_bind, bind_assoc]
  refine (run_bind_of_ok found).trans ?_
  unfold compileLeaf
  rw [run_bind, run_bind]
  rcases (observe (isTrue child)).run (world.entering id) with ⟨fault | truth, middle⟩
  · rfl
  · cases truth <;> simp [nodeThunk, thunk_leaf _ other]

theorem concludes_compileChildren_literal (runner : Runner)
    (calm : world.reactor.activeEffect = none)
    (rest : world.memory.settled = world.memory) (scalar : child.isScalar = true)
    (plain : child.isDynamic = false) (id : CompilerId) (deeper : CompileSchema)
    (scopes : ScopePath) :
    Concludes (Unwritten child.outputText?) (fun part after => after = world ∧
      ∃ text, child.outputText? = some text ∧ part = .constant (.str text))
        ((compileChildren runner id deeper scopes child).run world) := by
  have same : world.withMemory (world.memory.seeing world.outlook).settled = world :=
    congrArg world.withMemory rest
  have scalars : compileChildren runner id deeper scopes child =
      (do return .constant (.str (← observe (stringify child)))) ∨
        ∃ source, child = .str source := by
    cases child <;> first | exact .inl rfl | exact .inr ⟨_, rfl⟩ | cases scalar
  rcases scalars with looks | ⟨source, rfl⟩
  · rw [looks, run_bind, run_observe_calm _ calm, run_stringify scalar]
    cases child.outputText? with
    | some text => exact .well ⟨same, text, rfl, rfl⟩
    | none => exact .badly ⟨rfl, rfl⟩
  · unfold compileChildren
    dsimp only
    rw [plain]
    exact .well ⟨rfl, source, rfl, rfl⟩

/-- A literal is compiled to what comes to its text in every pass. -/
theorem concludes_compileLeaf_literal (runner : Runner) {compiler : Compiler} {id : CompilerId}
    (calm : world.reactor.activeEffect = none) (rest : world.memory.settled = world.memory)
    (found : world.compilers[id]? = some compiler) (scalar : child.isScalar = true)
    (plain : child.isDynamic = false) (deeper : CompileSchema) (scopes : ScopePath) :
    Concludes (Unwritten child.literalText?) (fun part after => after = world ∧
      ∃ content, part = .node compiler.recorder (.str tag) .nothing content ∧
        ∀ memory, content.Fills child.literalText? memory)
          ((compileLeaf runner id deeper scopes tag child).run world) := by
  have recorded := run_compilerAt_of_found found
  unfold compileLeaf
  rcases literalText?_cases scalar with ⟨same, gives⟩ | ⟨same, gives⟩
  · rw [same, run_bind_of_ok (run_observe_gives rest (gives _)), if_neg Bool.false_ne_true,
      pure_bind, run_bind_of_ok recorded]
    refine .well ⟨rfl, .all [], rfl, fun memory => ?_⟩
    exact .well ⟨rfl, "", rfl, .nothing Array.getElem?_push_size⟩
  · rw [same, run_bind_of_ok (run_observe_gives rest (gives _))]
    have inside := concludes_compileChildren_literal runner calm rest scalar plain id deeper scopes
    refine inside.bind ?_
    rintro _ _ ⟨rfl, text, written, rfl⟩
    rw [run_bind_of_ok recorded, written]
    exact .well ⟨rfl, _, rfl, fun memory => .well ⟨rfl, text, rfl, .text text⟩⟩

end Act

end ReactiveSchema
