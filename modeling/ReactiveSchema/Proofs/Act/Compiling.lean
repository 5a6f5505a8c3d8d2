import ReactiveSchema.Proofs.Act.Along
import ReactiveSchema.Proofs.Observe.SchemaLooks
import ReactiveSchema.Schema.Compile

/-!
# What compiling is made of

A compiler looks at memory, counts nodes, makes cells that follow tokens and binds
names in its store.  A property of computations that these have, and that is closed
under going on, is one that all compiling has.
-/

namespace ReactiveSchema

/-- What a property of computations needs so that all compiling has it. -/
structure Compiles (runner : Runner) (id : CompilerId) (Fit : Compiler → Prop)
    (P : (α : Type) → Act α → Prop) : Prop where
  pure {α : Type} (value : α) : P α (Pure.pure value)
  throw {α : Type} {fault : Fault} : fault.isFrameFault = false → P α (MonadExcept.throw fault)
  bind {α β : Type} {first : Act α} {next : α → Act β} :
    P α first → (∀ value, P β (next value)) → P β (first >>= next)
  look {α : Type} {look : Observe α} : look.IsLook → P α (Act.observe look)
  /-- What is read of the world lies beside the effects. -/
  reads {α : Type} {next : World → Act α} :
    (∀ world reactor, next { world with reactor } = next world) →
      (∀ world, P α (next world)) → P α (get >>= next)
  compiler {α : Type} {next : Compiler → Act α} :
    (∀ compiler, Fit compiler → P α (next compiler)) → P α (Act.compilerAt id >>= next)
  count : P Unit (Act.countNode id)
  resolve {compiler : Compiler} (fit : Fit compiler) (scopes : ScopePath) (token : String) :
    P RefId (Act.resolve runner compiler.data compiler.store scopes token)
  binding {compiler : Compiler} (fit : Fit compiler) (scopes : ScopePath) (bindings : Value) :
    P Unit (Act.bind runner compiler.store scopes (Observe.copyMap bindings))

namespace Compiles

variable {runner : Runner} {id : CompilerId} {Fit : Compiler → Prop}
  {P : (α : Type) → Act α → Prop} {α β γ : Type} {compiler : Compiler}

/-- Two ways on to the same rest. -/
theorem branch (compiles : Compiles runner id Fit P) {test : Prop} [Decidable test]
    {body otherwise : Act α} {next : α → Act β} (yes : P α body) (no : P α otherwise)
    (rest : ∀ value, P β (next value)) :
    P β (if test then body >>= next else otherwise >>= next) := by
  split
  · exact compiles.bind yes rest
  · exact compiles.bind no rest

/-! ## Expressions -/

theorem resolveAll (compiles : Compiles runner id Fit P) (fit : Fit compiler)
    (scopes : ScopePath) (tokens : List String) :
    P _ (Act.resolveAll runner compiler scopes tokens) := by
  induction tokens with
  | nil => exact compiles.pure _
  | cons token rest ih =>
      refine compiles.bind (compiles.resolve fit scopes token) fun cell => ?_
      exact compiles.bind ih fun _ => compiles.pure _

theorem expression (compiles : Compiles runner id Fit P) (scopes : ScopePath)
    (source : String) : P _ (Act.compileExpression runner id scopes source) := by
  refine compiles.bind (compiles.look fun _ looks => looks.compileSource source) fun expression => ?_
  refine compiles.compiler fun compiler fit => ?_
  exact compiles.bind (compiles.resolveAll fit scopes _) fun _ => compiles.pure _

theorem condition (compiles : Compiles runner id Fit P) (scopes : ScopePath)
    (condition : Value) : P _ (Act.compileCondition runner id scopes condition) := by
  unfold Act.compileCondition
  split
  · exact compiles.expression scopes _
  · exact compiles.pure _

/-! ## Attributes -/

theorem choice (compiles : Compiles runner id Fit P) (scopes : ScopePath)
    {branch : Value → Act Thunk} (each : ∀ value, P _ (branch value)) (raw : Value)
    (otherwise : Thunk) : P _ (Act.compileChoice runner id scopes branch raw otherwise) := by
  refine compiles.bind (compiles.look fun _ looks => looks.getItem raw _) fun condition => ?_
  refine compiles.bind (compiles.condition scopes condition) fun condition => ?_
  refine compiles.bind (compiles.look fun _ looks => looks.getItem raw _) fun body => ?_
  refine compiles.bind (each body) fun body => ?_
  refine compiles.bind (compiles.look fun _ looks => looks.entryOf? raw _) fun other => ?_
  cases other with
  | none => exact compiles.pure _
  | some other => exact compiles.bind (each other) fun _ => compiles.pure _

theorem slots (compiles : Compiles runner id Fit P) {slot : Value → Act Thunk}
    (each : ∀ value, P _ (slot value)) (entries : List (Value × Value)) :
    P _ (Act.compileSlots slot entries) := by
  induction entries with
  | nil => exact compiles.pure _
  | cons entry rest ih =>
      unfold Act.compileSlots
      dsimp only
      split
      · refine compiles.bind (each _) fun part => ?_
        exact compiles.bind ih fun _ => compiles.pure _
      · refine compiles.bind (compiles.pure _) fun part => ?_
        exact compiles.bind ih fun _ => compiles.pure _

theorem slotMap (compiles : Compiles runner id Fit P) (scopes : ScopePath)
    {slot : Value → Act Thunk} (each : ∀ value, P _ (slot value)) (raw : Value) :
    P _ (Act.compileMap runner id scopes slot raw) := by
  refine compiles.bind (compiles.look fun _ looks => looks.isConditional raw) fun conditional => ?_
  split
  · exact compiles.choice scopes each raw _
  · refine compiles.bind (compiles.look fun _ looks => looks.entriesOf raw) fun entries => ?_
    exact compiles.bind (compiles.slots each entries) fun _ => compiles.pure _

theorem slotStep (compiles : Compiles runner id Fit P) (scopes : ScopePath)
    {deeper : Value → Act Thunk} (each : ∀ value, P _ (deeper value)) (value : Value) :
    P _ (Act.compileSlotStep runner id scopes deeper value) := by
  unfold Act.compileSlotStep
  split
  · split
    · exact compiles.expression scopes _
    · exact compiles.pure _
  · refine compiles.bind (compiles.look fun _ looks => looks.isConditional value)
      fun conditional => ?_
    split
    · exact compiles.choice scopes each value _
    · split
      · exact compiles.slotMap scopes each value
      · exact compiles.pure _

theorem slotWithin (compiles : Compiles runner id Fit P) (scopes : ScopePath) (depth : Nat)
    (value : Value) : P _ (Act.compileSlotWithin runner id scopes depth value) := by
  induction depth generalizing value with
  | zero => exact compiles.throw rfl
  | succ depth ih => exact compiles.slotStep scopes ih value

theorem attributes (compiles : Compiles runner id Fit P) (scopes : ScopePath) (raw : Value) :
    P _ (Act.compileAttributes runner id scopes raw) := by
  unfold Act.compileAttributes
  split
  · refine compiles.reads (fun _ _ => rfl) fun world => ?_
    exact compiles.slotMap scopes (compiles.slotWithin scopes _) raw
  · exact compiles.pure _

/-! ## Nodes -/

theorem componentOf (compiles : Compiles runner id Fit P) (compiler : Compiler)
    (name : String) : P _ (Act.componentOf compiler name) := by
  unfold Act.componentOf
  split
  · exact compiles.pure _
  · refine compiles.reads (fun _ _ => rfl) fun world => ?_
    dsimp only
    split
    · exact compiles.bind (compiles.look fun _ looks => looks.log _) fun _ => compiles.pure _
    · exact compiles.pure _

theorem elementOf (compiles : Compiles runner id Fit P) (compiler : Compiler) (ref : Value) :
    P _ (Act.elementOf compiler ref) := by
  unfold Act.elementOf
  split
  · exact compiles.componentOf compiler _
  · exact compiles.pure _

section Deeper

variable {deeper : Act.CompileSchema}

theorem conditional (compiles : Compiles runner id Fit P)
    (each : ∀ scopes schema, P _ (deeper scopes schema)) (scopes : ScopePath)
    (condition body : Value) (otherwise : Option Value) :
    P _ (Act.compileConditional runner id deeper scopes condition body otherwise) := by
  refine compiles.bind (compiles.condition scopes condition) fun condition => ?_
  refine compiles.bind (each scopes body) fun body => ?_
  split
  · exact compiles.pure _
  · exact compiles.pure _
  · exact compiles.bind (each scopes _) fun _ => compiles.pure _

theorem mappedChildren (compiles : Compiles runner id Fit P)
    (each : ∀ scopes schema, P _ (deeper scopes schema)) (scopes : ScopePath)
    (children : Value) : P _ (Act.compileMappedChildren runner id deeper scopes children) := by
  refine compiles.bind (compiles.look fun _ looks => looks.isConditional children)
    fun conditional => ?_
  refine compiles.branch (compiles.look fun _ looks => looks.parseNode children)
    (compiles.pure _) fun node => ?_
  dsimp only
  split
  · exact compiles.bind (compiles.conditional each scopes _ _ _) fun _ => compiles.pure _
  · exact each scopes children

theorem children (compiles : Compiles runner id Fit P)
    (each : ∀ scopes schema, P _ (deeper scopes schema)) (scopes : ScopePath)
    (children : Value) : P _ (Act.compileChildren runner id deeper scopes children) := by
  unfold Act.compileChildren
  split
  · split
    · exact compiles.bind (compiles.expression scopes _) fun _ => compiles.pure _
    · exact compiles.pure _
  · exact each scopes _
  · exact each scopes _
  · exact compiles.mappedChildren each scopes _
  · exact compiles.mappedChildren each scopes _
  · exact compiles.bind (compiles.look fun _ looks => looks.stringify _) fun _ => compiles.pure _

theorem loop (compiles : Compiles runner id Fit P) (scopes : ScopePath) (loop : Loop) :
    P _ (Act.compileLoop runner id scopes loop) := by
  unfold Act.compileLoop
  dsimp only
  split
  · exact compiles.branch (compiles.expression scopes _) (compiles.pure _)
      fun _ => compiles.pure _
  · exact compiles.bind (compiles.pure _) fun _ => compiles.pure _

theorem given (compiles : Compiles runner id Fit P) {compile : β → Act γ}
    (each : ∀ given, P _ (compile given)) (given : Option β) :
    P _ (Act.compileGiven compile given) := by
  cases given with
  | none => exact compiles.pure _
  | some given => exact compiles.bind (each given) fun _ => compiles.pure _

theorem parts (compiles : Compiles runner id Fit P)
    (each : ∀ scopes schema, P _ (deeper scopes schema)) (scopes : ScopePath)
    (element : Value) (attributes : Thunk) (parts : NodeParts) :
    P _ (Act.compileParts runner id deeper scopes element attributes parts) := by
  refine compiles.bind (compiles.given (compiles.condition scopes) _) fun condition => ?_
  refine compiles.compiler fun compiler fit => ?_
  have last (children : Option Thunk) : P _ (do
      let loop ← Act.compileGiven (Act.compileLoop runner id scopes) parts.loop
      return (⟨condition, some element, attributes, children, none, scopes, loop⟩ :
        CompiledNode) : Act CompiledNode) :=
    compiles.bind (compiles.given (compiles.loop scopes) _) fun _ => compiles.pure _
  have rest (first : Act Unit) (bound : P _ first) : P _ (do
      first
      let children ←
        if ← Act.observe (Observe.isTrue parts.children) then
          Pure.pure (some (← Act.compileChildren runner id deeper scopes parts.children))
        else Pure.pure none
      let loop ← Act.compileGiven (Act.compileLoop runner id scopes) parts.loop
      return (⟨condition, some element, attributes, children, none, scopes, loop⟩ :
        CompiledNode) : Act CompiledNode) := by
    refine compiles.bind bound fun _ => ?_
    refine compiles.bind (compiles.look fun _ looks => looks.isTrue _) fun given => ?_
    dsimp only
    split
    · refine compiles.bind (compiles.children each scopes _) fun children => ?_
      exact compiles.bind (compiles.pure _) last
    · exact compiles.bind (compiles.pure _) last
  dsimp only
  split
  · exact rest (Pure.pure ()) (compiles.pure _)
  · exact rest _ (compiles.binding fit scopes _)

theorem nodeAt (compiles : Compiles runner id Fit P)
    (each : ∀ scopes schema, P _ (deeper scopes schema)) (scopes : ScopePath)
    (node : SchemaNode) : P _ (Act.compileNodeAt runner id deeper scopes node) := by
  cases node with
  | text content =>
      exact compiles.bind (compiles.children each scopes _) fun _ => compiles.pure _
  | conditional condition body otherwise =>
      exact compiles.bind (compiles.conditional each scopes condition body otherwise)
        fun _ => compiles.pure _
  | element tag parts =>
      have rest (attributes : Thunk) := compiles.parts each scopes (.str tag) attributes parts
      exact compiles.branch (compiles.pure _) (compiles.attributes scopes _) rest
  | component ref parts =>
      refine compiles.compiler fun compiler _ => ?_
      refine compiles.bind (compiles.elementOf compiler ref) fun element => ?_
      refine compiles.bind (compiles.attributes scopes _) fun attributes => ?_
      exact compiles.parts each scopes _ _ parts

theorem node? (compiles : Compiles runner id Fit P)
    (each : ∀ scopes schema, P _ (deeper scopes schema)) (around : ScopePath) (raw : Value)
    (node : Option SchemaNode) : P _ (Act.compileNode? runner id deeper around raw node) := by
  cases node with
  | none =>
      refine compiles.reads (fun _ _ => rfl) fun world => ?_
      exact compiles.bind (compiles.look fun _ looks => looks.log _) fun _ => compiles.pure _
  | some node =>
      refine compiles.bind compiles.count fun _ => ?_
      refine compiles.bind (compiles.look fun _ looks => looks.newScope _) fun scope => ?_
      exact compiles.bind (compiles.nodeAt each _ node) fun _ => compiles.pure _

theorem nodeThunk (compiles : Compiles runner id Fit P) (node : Option CompiledNode) :
    P _ (Act.nodeThunk id node) := by
  cases node with
  | none => exact compiles.pure _
  | some node => exact compiles.compiler fun _ _ => compiles.pure _

theorem raw (compiles : Compiles runner id Fit P)
    (each : ∀ scopes schema, P _ (deeper scopes schema)) (around : ScopePath) (raw : Value) :
    P _ (Act.compileRaw runner id deeper around raw) := by
  refine compiles.bind (compiles.look fun _ looks => looks.parseNode raw) fun node => ?_
  exact compiles.bind (compiles.node? each around raw node) fun node => compiles.nodeThunk node

theorem rawAll (compiles : Compiles runner id Fit P)
    (each : ∀ scopes schema, P _ (deeper scopes schema)) (around : ScopePath)
    (items : List Value) : P _ (Act.compileRawAll runner id deeper around items) := by
  induction items with
  | nil => exact compiles.pure _
  | cons raw rest ih =>
      refine compiles.bind (compiles.raw each around raw) fun first => ?_
      exact compiles.bind ih fun _ => compiles.pure _

end Deeper

/-- Schemas of whatever depth are compiled so. -/
theorem within (compiles : Compiles runner id Fit P) (depth : Nat) (around : ScopePath)
    (schema : Value) : P _ (Act.compileWithin runner id depth around schema) := by
  induction depth generalizing around schema with
  | zero => exact compiles.throw rfl
  | succ depth ih =>
      unfold Act.compileWithin
      dsimp only
      split
      · exact compiles.bind (compiles.rawAll ih around _) fun _ => compiles.pure _
      · refine compiles.reads (fun _ _ => rfl) fun world => ?_
        exact compiles.bind (compiles.rawAll ih around _) fun _ => compiles.pure _
      · exact compiles.raw ih around schema

/-- What is compiled the way of a compiler. -/
theorem compiling (compiles : Compiles runner id Fit P) {use : Act.CompileSchema → Act α}
    (rest : ∀ depth, P _ (use (Act.compileWithin runner id depth))) :
    P _ (Act.compiling runner id >>= use) := by
  simp only [Act.compiling, bind_assoc, pure_bind]
  exact compiles.reads (fun _ _ => rfl) fun world => rest _

theorem schema (compiles : Compiles runner id Fit P) (around : ScopePath) (schema : Value) :
    P _ (Act.compileSchema runner id around schema) :=
  compiles.compiling fun depth => compiles.within depth around schema

end Compiles

end ReactiveSchema
