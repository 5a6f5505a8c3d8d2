import ReactiveSchema.Proofs.Observe.BalancedPasses
import ReactiveSchema.Proofs.View.TokenChildren

/-!
# Compiling an element with a text

A view compiles an element with a scalar inside, given as a literal or by a token: what it is
compiled to comes to the text of the scalar in every later pass, as long as nothing but the root
cell of the view is written.
-/

namespace ReactiveSchema

open Observe Text

variable {world : World} {runner : Runner} {tag : String} {value child : Value} {raw : MapId}
  {number : CompilerId} {root : RefId} {text : Option String}

/-- All cells but one are as they were. -/
def KeepsCells (root : RefId) (refs : Array RefCell) (memory : Memory) : Prop :=
  ∀ (cell : RefId) (found : RefCell), cell ≠ root → refs[cell]? = some found →
    memory.refs[cell]? = some found

/-- Outside of loops a part comes to a text, whatever happens to one of the cells. -/
def Thunk.Yields (content : Thunk) (root : RefId) (refs : Array RefCell) (text : Option String) :
    Prop :=
  ∀ memory : Memory, KeepsCells root refs memory → memory.context = some .fresh →
    content.Fills text memory

namespace Act

/-- The wanted end of compiling: a part that comes to a text, and nobody has read its cells. -/
structure CompiledLeaf (root : RefId) (tag : String) (text : Option String) (before : World)
    (part : Thunk) (after : World) : Prop where
  part : ∃ content, part = .node none (.str tag) .nothing content ∧
    content.Yields root after.memory.refs text
  refs : Begins before.memory.refs after.memory.refs
  onward : World.Onward before.memory.depCount before after

/-- What is inside of an element is compiled to what comes to a text. -/
def CompilesTo (runner : Runner) (number : CompilerId) (tag : String) (child : Value)
    (root : RefId) (text : Option String) (world : World) : Prop :=
  ∀ (deeper : CompileSchema) (scopes : ScopePath),
    Concludes (Unwritten text) (CompiledLeaf root tag text world)
      ((compileLeaf runner number deeper scopes tag child).run world)

theorem compilesTo_literal (runner : Runner) {compiler : Compiler}
    (calm : world.reactor.activeEffect = none) (rest : world.memory.settled = world.memory)
    (found : world.compilers[number]? = some compiler) (unrecorded : compiler.recorder = none)
    (scalar : child.isScalar = true) (plain : child.isDynamic = false) (tag : String)
    (root : RefId) : CompilesTo runner number tag child root child.literalText? world := by
  intro deeper scopes
  refine (concludes_compileLeaf_literal runner calm rest found scalar plain deeper scopes).mono ?_
  rintro _ _ ⟨rfl, content, rfl, fills⟩
  rw [unrecorded]
  exact ⟨⟨content, rfl, fun memory _ _ => fills memory⟩, begins_refl _,
    ⟨fun _ unread => unread, rfl, rfl, rfl, rfl, rest⟩⟩

theorem compilesTo_token {compiler : Compiler} {face : LiveMapId} (limit nesting : Nat)
    (calm : world.reactor.activeEffect = none) (rest : world.memory.settled = world.memory)
    (found : world.compilers[number]? = some compiler) (unrecorded : compiler.recorder = none)
    (data : compiler.data = .liveMap face)
    (offers : world.memory.Offers compiler.store face "x" value)
    (unknown : world.reactor.subscribersOf world.memory.depCount = []) (tag : String)
    (early : root < world.memory.refs.size) :
    CompilesTo (.bounded limit (nesting + 1)) number tag (.str "$x") root value.outputText?
      world := by
  intro deeper scopes
  obtain ⟨dep, after, ran, held, refs, onward⟩ :=
    run_compileLeaf_token limit nesting found data offers rest calm unknown deeper scopes
  rw [ran, unrecorded]
  refine .well ⟨⟨_, rfl, fun memory keeps outside => ?_⟩, refs, onward⟩
  exact fills_loneToken (keeps _ _ (Nat.ne_of_gt early) held) outside offers.scalar

end Act

/-! ## Compiling for a view -/

/-- The world as the schema of a view is compiled, below a scope of its own. -/
def World.rooted (world : World) (group : EffectScopeId) : World :=
  (world.withReactor (.inScope (some group))).withMemory
    { world.memory with scopeCount := world.memory.scopeCount + 1 }

/-- A closure holds what an element with a text inside was compiled to. -/
def World.Names (world : World) (closure : Nat) (root : RefId) (tag : String)
    (text : Option String) : Prop :=
  ∃ content refs, world.closures[closure]? =
      some (.thunk (.node none (.str tag) .nothing content)) ∧
    content.Yields root refs text ∧ KeepsCells root refs world.memory

namespace Act

/-- A schema that is a map is compiled as one node. -/
theorem exists_compileSchema (runner : Runner) (number : CompilerId) (around : ScopePath)
    (raw : MapId) (world : World) : ∃ deeper,
      (compileSchema runner number around (.map raw)).run world =
        (compileRaw runner number deeper around (.map raw)).run world := by
  obtain ⟨depth, room⟩ : ∃ depth, world.memory.depth = depth + 1 := ⟨_, rfl⟩
  refine ⟨compileWithin runner number depth, ?_⟩
  unfold compileSchema compiling
  rw [bind_assoc, run_bind_of_ok (run_get world), room]
  rfl

theorem run_log (calm : world.reactor.activeEffect = none)
    (rest : world.memory.settled = world.memory) (record : String) :
    (observe (log record)).run world =
      (.ok (), world.withMemory { world.memory with logs := record :: world.memory.logs }) := by
  have settled : { world.memory.settled with logs := record :: world.memory.logs } =
      { world.memory with logs := record :: world.memory.logs } := by rw [rest]
  rw [← settled]
  exact run_observe_calm _ calm

theorem run_nameCompiled (calm : world.reactor.activeEffect = none)
    (rest : world.memory.settled = world.memory) (id : ViewId) (group : EffectScopeId)
    (number : CompilerId) (part : Thunk) :
    ∃ logs, (nameCompiled id group number part).run world =
      (.ok (.handle .closure world.closures.size),
        ((world.withView id .counted).withMemory { world.memory with logs }).withClosure
          (.thunk part)) := by
  obtain ⟨compiler, found⟩ := run_compilerAt number (world.withView id .counted)
  have quiet : (world.withView id .counted).reactor.activeEffect = none := calm
  have logged (record : String) := run_log quiet rest record
  unfold nameCompiled
  rw [run_bind_of_ok (run_modifyView id .counted world), run_bind_of_ok (run_get _),
    run_bind_of_ok found, run_bind_of_ok (logged _)]
  exact ⟨_, rfl⟩

/-- The wanted end of compiling the schema of a view. -/
structure CompiledIn (id : ViewId) (root : RefId) (tag : String) (text : Option String)
    (before : World) (compiled : Value) (after : World) : Prop where
  named : compiled = .handle .closure before.closures.size
  names : after.Names before.closures.size root tag text
  views : after.views = before.views.modify id .counted
  refs : Begins before.memory.refs after.memory.refs
  unread {dep : DepId} : dep < before.memory.depCount → before.reactor.subscribersOf dep = [] →
    after.reactor.subscribersOf dep = []
  rest : after.memory.settled = after.memory

theorem concludes_compileIn_leaf {ready : World} (calm : ready.reactor.activeEffect = none)
    (rest : ready.memory.settled = ready.memory)
    (known : ready.memory.mapAt raw = rawLeaf tag child) (named : tag.isEmpty = false)
    (other : tag ≠ textTag) (id : ViewId) (group : EffectScopeId)
    (compiles : CompilesTo runner number tag child root text
      ((ready.rooted group).entering number)) :
    Concludes (Unwritten text) (CompiledIn id root tag text ready)
      ((compileIn runner id group number (.map raw)).run ready) := by
  have inside : (ready.withReactor (.inScope (some group))).reactor.activeEffect = none := calm
  have rooted : (observe (newScope "root")).run (ready.withReactor (.inScope (some group))) =
      (.ok ⟨ready.memory.scopeCount + 1, "root"⟩, ready.rooted group) :=
    run_newScope inside rest "root"
  have calm' : (ready.rooted group).reactor.activeEffect = none := calm
  have rest' : (ready.rooted group).memory.settled = (ready.rooted group).memory :=
    congrArg (fun memory : Memory => { memory with scopeCount := ready.memory.scopeCount + 1 }) rest
  obtain ⟨deeper, entered⟩ := exists_compileSchema runner number
    [⟨ready.memory.scopeCount + 1, "root"⟩] raw (ready.rooted group)
  have compiled := run_compileRaw_leaf runner calm' rest' known named other number deeper
    [⟨ready.memory.scopeCount + 1, "root"⟩]
  have body : (do
      let scope ← observe (newScope "root")
      compileSchema runner number [scope] (.map raw)).run
        (ready.withReactor (.inScope (some group))) = _ :=
    (run_bind_of_ok rooted).trans (entered.trans compiled)
  have ends := compiles deeper
    ([⟨ready.memory.scopeCount + 1, "root"⟩] ++ [(ready.rooted group).nextScope])
  rw [← body] at ends
  unfold compileIn
  refine (concludes_within ends).bind ?_
  rintro _ _ ⟨last, ⟨⟨content, rfl, yields⟩, refs, onward⟩, rfl⟩
  have quiet : last.reactor.activeEffect = none := onward.running.trans calm
  have outside : (last.withReactor (.inScope ready.reactor.activeScope)).reactor.activeEffect =
    none := quiet
  obtain ⟨logs, ended⟩ := run_nameCompiled outside onward.rest id group number
    (.node none (.str tag) .nothing content)
  have size : last.closures.size = ready.closures.size := congrArg Array.size onward.closures
  rw [ended]
  apply Concludes.well
  constructor
  case named => exact congrArg (Value.handle .closure) size
  case names =>
    refine ⟨content, last.memory.refs, ?_, yields, fun _ _ _ found => found⟩
    rw [← size]
    exact Array.getElem?_push_size
  case views => exact congrArg (·.modify id View.counted) onward.views
  case refs => exact refs
  case unread => exact onward.unread
  case rest => exact congrArg (fun memory : Memory => { memory with logs }) onward.rest

end Act

/-! ## Passes -/

/-- A pass over an element with a text inside. -/
theorem concludes_evaluatePass_leaf {memory : Memory} {content : Thunk} {refs : Array RefCell}
    (yields : content.Yields root refs text) (keeps : KeepsCells root refs memory)
    (checked : Bool) (tag : String) :
    Concludes (Unwritten text) (fun value after => ∃ written id, text = some written ∧
      value = .node id ∧ after.HoldsLeaf id tag written)
        ((evaluatePass checked (Thunk.node none (.str tag) .nothing content).run).run memory) := by
  have inside := yields (memory.inPass (some .fresh)) keeps rfl
  have counted : Concludes (Unwritten text) (fun pair after => ∃ written id, text = some written ∧
      pair = (Value.node id, 0) ∧ after.HoldsLeaf id tag written)
      ((do
        let output ← (Thunk.node none (.str tag) .nothing content).run
        return (output, ← frameDepth)).run (memory.inPass (some .fresh))) := by
    refine (inside.node tag).bind ?_
    rintro _ after ⟨same, written, id, known, rfl, holds⟩
    have depth : frameDepth.run after = (.ok 0, after) := by
      rw [run_frameDepth, same]
      rfl
    rw [run_bind_of_ok depth]
    exact .well ⟨written, id, known, rfl, holds⟩
  have pass := counted.mapLast (·.inPass memory.context)
  rw [← run_withFreshContext] at pass
  unfold evaluatePass
  refine pass.bind ?_
  rintro _ _ ⟨last, ⟨written, id, known, rfl, holds⟩, rfl⟩
  cases checked <;> exact .well ⟨written, id, known, rfl, holds⟩

end ReactiveSchema
