import ReactiveSchema.Proofs.Act.RespectViews
import ReactiveSchema.Script.Session

/-!
# What programs respect

Every operation looks at memory, works effects by their handful of operations,
or changes what lies beside them.  So whole programs have what these have.
-/

namespace ReactiveSchema

open Observe

/-- Does an operation no more than look at memory and write? -/
def Operation.onlyWrites : Operation → Bool
  | .runEffect | .stop | .newEffectScope | .resolve | .pushFrame | .newCompiler
  | .newPlainCompiler | .compile | .compileNode | .compileAttributes | .compileCondition
  | .compileExpression | .parse | .call | .calls | .compilerState | .newEnvironment
  | .defaultEnvironment | .renderOnce | .viewRender | .viewState | .unmount | .leak
  | .registrySet | .registryDelete | .registryAt | .registryGet | .registryHas
  | .registryUpdate | .registryEntries | .registryMap => false
  | _ => true

namespace RespectedByWrites

variable {runner : Runner} {P : (α : Type) → Act α → Prop} {α : Type}

/-! ## Containers of either face -/

theorem setItem (respected : RespectedByWrites runner P) (container key value : Value) :
    P _ (Act.setItem runner container key value) := by
  unfold Act.setItem
  split
  · exact respected.observe (balanced_listSet _ _ _)
  · exact respected.observe (balanced_mapSet _ _ _)
  · exact respected.liveListSet _ key value
  · exact respected.liveMapSet _ key value
  · exact respected.fail rfl

theorem deleteItem (respected : RespectedByWrites runner P) (container key : Value) :
    P _ (Act.deleteItem runner container key) := by
  unfold Act.deleteItem
  split
  · exact respected.observe (balanced_listDelete _ _)
  · exact respected.observe (balanced_mapDelete _ _)
  · exact respected.liveListDelete _ key
  · exact respected.liveMapDelete _ key
  · exact respected.fail rfl

theorem setSlice (respected : RespectedByWrites runner P) (container start stop source : Value) :
    P _ (Act.setSlice runner container start stop source) := by
  unfold Act.setSlice
  split
  · exact respected.observe (balanced_closed.bind (looks_balanced.iterate source) fun _ =>
      balanced_listSetSlice _ _ _ _)
  · exact respected.liveListSetSlice _ start stop source
  · exact respected.fail rfl
  · exact respected.fail rfl
  · exact respected.fail rfl

theorem deleteSlice (respected : RespectedByWrites runner P) (container start stop : Value) :
    P _ (Act.deleteSlice runner container start stop) := by
  unfold Act.deleteSlice
  split
  · exact respected.observe (balanced_listSetSlice _ _ _ _)
  · exact respected.liveListDeleteSlice _ start stop
  · exact respected.fail rfl
  · exact respected.fail rfl
  · exact respected.fail rfl

theorem updateMap (respected : RespectedByWrites runner P) (container source : Value) :
    P _ (Act.updateMap runner container source) := by
  unfold Act.updateMap
  split
  · exact respected.observe (balanced_mapUpdate _ _)
  · exact respected.liveMapUpdate _ source
  · exact respected.observe (looks_balanced.unknown _ _)

theorem popItem (respected : RespectedByWrites runner P) (container : Value)
    (key otherwise : Option Value) :
    P _ (Act.popItem runner container key otherwise) := by
  unfold Act.popItem
  split
  · exact respected.observe (balanced_mapPop _ _ _)
  · exact respected.liveMapPop _ _ _
  · exact respected.observe (balanced_listPop _ _)
  · exact respected.liveListPop _ _
  · exact respected.fail rfl
  · exact respected.fail rfl
  · exact respected.fail rfl
  · exact respected.fail rfl
  · exact respected.observe (looks_balanced.unknown _ _)

theorem popEntry (respected : RespectedByWrites runner P) (container : Value) :
    P _ (Act.popEntry runner container) := by
  unfold Act.popEntry
  split
  · exact respected.observe (balanced_mapPopEntry _)
  · exact respected.liveMapPopEntry _
  · exact respected.observe (looks_balanced.unknown _ _)

theorem clear (respected : RespectedByWrites runner P) (container : Value) :
    P _ (Act.clear runner container) := by
  unfold Act.clear
  split
  · exact respected.observe (balanced_setList _ _)
  · exact respected.observe (balanced_setMap _ _)
  · exact respected.liveListClear _
  · exact respected.liveMapClear _
  · exact respected.clearStore _
  · exact respected.observe (looks_balanced.unknown _ _)

theorem setDefault (respected : RespectedByWrites runner P) (container key value : Value) :
    P _ (Act.setDefault runner container key value) := by
  unfold Act.setDefault
  split
  · exact respected.observe (balanced_mapSetDefault _ _ _)
  · exact respected.liveMapSetDefault _ key value
  · exact respected.observe (looks_balanced.unknown _ _)

theorem append (respected : RespectedByWrites runner P) (container value : Value) :
    P _ (Act.append runner container value) := by
  unfold Act.append
  split
  · exact respected.observe (balanced_listExtend _ _)
  · exact respected.liveListAppend _ value
  · exact respected.observe (looks_balanced.unknown _ _)

theorem insertItem (respected : RespectedByWrites runner P) (container index value : Value) :
    P _ (Act.insertItem runner container index value) := by
  unfold Act.insertItem
  split
  · exact respected.observe (balanced_listInsert _ _ _)
  · exact respected.liveListInsert _ index value
  · exact respected.observe (looks_balanced.unknown _ _)

theorem extend (respected : RespectedByWrites runner P) (container source : Value) :
    P _ (Act.extend runner container source) := by
  unfold Act.extend
  split
  · exact respected.observe (balanced_closed.bind (looks_balanced.iterate source) fun _ =>
      balanced_listExtend _ _)
  · exact respected.liveListExtend _ source
  · exact respected.observe (looks_balanced.unknown _ _)

theorem extendInPlace (respected : RespectedByWrites runner P) (container source : Value) :
    P _ (Act.extendInPlace runner container source) := by
  unfold Act.extendInPlace
  split
  · exact respected.extend _ source
  · exact respected.extend _ source
  · exact respected.bind (respected.observe (looks_balanced.sum _ _)) fun _ => respected.pure _

theorem removeItem (respected : RespectedByWrites runner P) (container value : Value) :
    P _ (Act.removeItem runner container value) := by
  unfold Act.removeItem
  split
  · exact respected.observe (balanced_listRemove _ _)
  · exact respected.liveListRemove _ value
  · exact respected.observe (looks_balanced.unknown _ _)

theorem reverseItems (respected : RespectedByWrites runner P) (container : Value) :
    P _ (Act.reverseItems runner container) := by
  unfold Act.reverseItems
  split
  · exact respected.observe (balanced_closed.bind balanced_closed.get fun _ => balanced_setList _ _)
  · exact respected.liveListReverse _
  · exact respected.observe (looks_balanced.unknown _ _)

/-! ## Cells and effects -/

theorem silently (respected : RespectedByWrites runner P) {action : Act Unit}
    (each : P _ action) : P _ (Act.silently action) :=
  respected.bind each fun _ => respected.pure _

theorem contentOf (respected : RespectedByWrites runner P) (value : Value) :
    P _ (Act.contentOf value) := by
  unfold Act.contentOf
  split
  · exact respected.observe (looks_balanced.refGet _)
  · exact respected.observe (looks_balanced.unknown _ _)

theorem setContent (respected : RespectedByWrites runner P) (target content : Value) :
    P _ (Act.setContent runner target content) := by
  unfold Act.setContent
  split
  · exact respected.refSet _ content
  · exact respected.observe (looks_balanced.unknown _ _)

theorem peekContent (respected : RespectedByWrites runner P) (value : Value) :
    P _ (Act.peekContent value) := by
  unfold Act.peekContent
  split
  · exact respected.observe (looks_balanced.refPeek _)
  · exact respected.observe (looks_balanced.unknown _ _)

theorem subscriberCount (respected : RespectedByWrites runner P) (value : Value) :
    P _ (Act.subscriberCount value) := by
  refine respected.bind respected.get fun world => ?_
  dsimp only
  split
  · exact respected.pure _
  · exact respected.pure _
  · exact respected.observe (looks_balanced.unknown _ _)

/-- A list of values that are looked up. -/
theorem listed (respected : RespectedByWrites runner P) {items : Observe (List Value)}
    (each : items.IsBalanced) : P _ (Act.listed items) :=
  respected.observe (balanced_closed.bind each looks_balanced.newList)

theorem effectState (respected : RespectedByWrites runner P) (value : Value) :
    P _ (Act.effectState value) := by
  unfold Act.effectState
  split
  · exact respected.bind respected.get fun world => respected.listed (balanced_closed.pure _)
  · exact respected.observe (looks_balanced.unknown _ _)

theorem effectScopeState (respected : RespectedByWrites runner P) (value : Value) :
    P _ (Act.effectScopeState value) := by
  unfold Act.effectScopeState
  split
  · refine respected.bind respected.get fun world => ?_
    refine respected.bind (respected.observe (looks_balanced.lengthOf _)) fun _ => ?_
    exact respected.listed (balanced_closed.pure _)
  · exact respected.observe (looks_balanced.unknown _ _)

/-! ## Scopes -/

theorem storeOf (respected : RespectedByWrites runner P) (value : Value) :
    P _ (Act.storeOf value) := by
  unfold Act.storeOf
  split
  · exact respected.pure _
  · exact respected.observe (looks_balanced.unknown _ _)

theorem bindValue (respected : RespectedByWrites runner P) (store scopes key value : Value) :
    P _ (Act.bindValue runner store scopes key value) :=
  respected.bind (respected.storeOf store) fun _ => respected.bindings _ _ <| by
    split
    · exact balanced_closed.pure _
    · exact looks_balanced.copyMap _

theorem storedBindings (respected : RespectedByWrites runner P) (store scope : Value) :
    P _ (Act.storedBindings store scope) := by
  refine respected.bind (respected.storeOf store) fun id => ?_
  split
  · exact respected.observe (balanced_closed.map (looks_balanced.bindingsOf id _) _)
  · exact respected.pure _

theorem isStored (respected : RespectedByWrites runner P) (store scope : Value) :
    P _ (Act.isStored store scope) :=
  respected.bind (respected.storeOf store) fun _ =>
    respected.observe (balanced_closed.map (looks_balanced.liveMapHas _ scope) _)

theorem contextState (respected : RespectedByWrites runner P) : P _ Act.contextState := by
  refine respected.bind respected.get fun world => ?_
  split
  · exact respected.pure _
  · exact respected.listed (balanced_closed.pure _)

theorem needContext (respected : RespectedByWrites runner P) (name : String) :
    P _ (Act.needContext name) := by
  refine respected.bind respected.get fun world => ?_
  split
  · exact respected.observe (looks_balanced.unknown _ _)
  · exact respected.pure _

theorem lookupToken (respected : RespectedByWrites runner P) (token : String) :
    P _ (Act.lookupToken token) := by
  refine respected.bind (respected.needContext _) fun _ => respected.observe ?_
  refine balanced_closed.bind looks_balanced.context? fun context => ?_
  split
  · exact balanced_closed.pure _
  · exact looks_balanced.lookupFrames _ token

/-! ## Views -/

theorem viewOf (respected : RespectedByWrites runner P) (value : Value) :
    P _ (Act.viewOf value) := by
  unfold Act.viewOf
  split
  · exact respected.pure _
  · exact respected.observe (looks_balanced.unknown _ _)

/-- Using the view that a value is. -/
theorem onView (respected : RespectedByWrites runner P) (value : Value) {use : ViewId → Act α}
    (each : ∀ id, P α (use id)) : P α (do use (← Act.viewOf value)) :=
  respected.bind (respected.viewOf value) each

/-! ## Parts of programs -/

theorem variableOf (respected : RespectedByWrites runner P) (name : String) :
    P _ (Act.variableOf name) := by
  refine respected.bind respected.get fun world => ?_
  split
  · exact respected.pure _
  · exact respected.fail rfl

/-- What is caught is told, unless the program cannot catch it. -/
theorem attempt (respected : RespectedByWrites runner P) {action : Act Value}
    (each : P _ action) : P _ (Act.attempt action) := by
  refine respected.tryCatch each fun fault again => ?_
  split
  · exact respected.observe
      (balanced_closed.bind (looks_balanced.reportFault fault) looks_balanced.build)
  · exact again

/-! ## Operations that look and write -/

theorem operate (respected : RespectedByWrites runner P) {operation : Operation}
    (writes : operation.onlyWrites = true) (operands : List Value) :
    P _ (Act.operate runner operation operands) := by
  cases operation
  case same | isLive => exact respected.pure _
  -- looks at values of any kind
  case equal => exact respected.observe (balanced_closed.map (looks_balanced.equal _ _) _)
  case add => exact respected.observe (looks_balanced.sum _ _)
  case multiply => exact respected.observe (looks_balanced.mul _ _)
  case less => exact respected.observe (balanced_closed.map (looks_balanced.less _ _) _)
  case shown => exact respected.observe (balanced_closed.map (looks_balanced.shown _) _)
  case text => exact respected.observe (balanced_closed.map (looks_balanced.textOf _) _)
  case truth => exact respected.observe (balanced_closed.map (looks_balanced.isTrue _) _)
  case raw => exact respected.bind respected.get fun _ => respected.pure _
  -- new cells and containers
  case newRef => exact respected.observe (balanced_closed.map (looks_balanced.newRef _) _)
  case makeLive => exact respected.observe (looks_balanced.makeLive _)
  case newLiveMap =>
    exact respected.observe
      (balanced_closed.bind (looks_balanced.newMap _) looks_balanced.makeLive)
  case newLiveList =>
    exact respected.observe
      (balanced_closed.bind (looks_balanced.newList _) looks_balanced.makeLive)
  -- cells
  case getRef => exact respected.contentOf _
  case setRef => exact respected.silently (respected.setContent _ _)
  case peekRef => exact respected.peekContent _
  case subscriberCount => exact respected.subscriberCount _
  -- looks at containers
  case «at» => exact respected.observe (looks_balanced.getPath _ _)
  case slice => exact respected.observe (looks_balanced.getSlice _ _ _ _)
  case has => exact respected.observe (balanced_closed.map (looks_balanced.contains _ _) _)
  case length => exact respected.observe (balanced_closed.map (looks_balanced.lengthOf _) _)
  case list => exact respected.listed (looks_balanced.iterate _)
  case reversed => exact respected.listed (looks_balanced.reversedItems _)
  case keys => exact respected.listed (looks_balanced.keysOf _)
  case values => exact respected.listed (looks_balanced.valuesOf _)
  case entries => exact respected.listed (looks_balanced.pairsOf _)
  case get => exact respected.observe (looks_balanced.getEntry _ _ _)
  case indexOf => exact respected.observe (balanced_closed.map (looks_balanced.firstPlace _ _) _)
  case count => exact respected.observe (balanced_closed.map (looks_balanced.countOf _ _) _)
  -- writes to containers
  case set => exact respected.silently (respected.setItem _ _ _)
  case delete => exact respected.silently (respected.deleteItem _ _)
  case setSlice => exact respected.silently (respected.setSlice _ _ _ _)
  case deleteSlice => exact respected.silently (respected.deleteSlice _ _ _)
  case update => exact respected.silently (respected.updateMap _ _)
  case pop => exact respected.popItem _ _ _
  case popEntry => exact respected.popEntry _
  case clear => exact respected.silently (respected.clear _)
  case setDefault => exact respected.setDefault _ _ _
  case append => exact respected.silently (respected.append _ _)
  case insert => exact respected.silently (respected.insertItem _ _ _)
  case extend => exact respected.silently (respected.extend _ _)
  case extendInPlace => exact respected.silently (respected.extendInPlace _ _)
  case remove => exact respected.silently (respected.removeItem _ _)
  case reverse => exact respected.silently (respected.reverseItems _)
  -- effects, scopes and frames
  case effectState => exact respected.effectState _
  case effectScopeState => exact respected.effectScopeState _
  case newScope => exact respected.observe (balanced_closed.map (looks_balanced.newScope _) _)
  case newStore => exact respected.bind respected.newStore fun _ => respected.pure _
  case bind => exact respected.silently (respected.bindValue _ _ _ _)
  case storeGet => exact respected.storedBindings _ _
  case storeHas => exact respected.isStored _ _
  case chain =>
    exact respected.bind (respected.storeOf _) fun _ =>
      respected.listed (looks_balanced.scopeChain _ _ _)
  case find =>
    exact respected.bind (respected.storeOf _) fun _ =>
      respected.observe (looks_balanced.findInScopes _ _ _ _)
  case contextState => exact respected.contextState
  case lookup => exact respected.lookupToken _
  case check => exact respected.observe (looks_balanced.checkScope _ _)
  -- views and nodes
  case viewData | viewOutput =>
    exact respected.onView _ fun id => respected.bind (respected.viewAt id)
      fun _ => respected.pure _
  case html => exact respected.observe (balanced_closed.map (looks_balanced.html _) _)
  case setSchema =>
    exact respected.onView _ fun id => respected.silently (respected.setSchema id _)
  case getSchema =>
    exact respected.onView _ fun id => respected.bind (respected.viewAt id)
      fun _ => respected.observe (looks_balanced.refPeek _)
  case findAll => exact respected.listed (looks_balanced.findAll _ _)
  case nodeText => exact respected.observe (looks_balanced.nodeText _)
  case nodeTypes => exact respected.listed (looks_balanced.nodeTypes _)
  all_goals exact absurd writes Bool.false_ne_true

end RespectedByWrites

/-! ## What programs may do -/

namespace Action

variable (allowed : Operation → Bool)

mutual

/-- Are all operations of an action allowed, those of its effects and listeners included? -/
def uses : Action → Bool
  | literal _ | named _ => true
  | group items => allUse items
  | assign _ value => uses value
  | log values => allUse values
  | sequence steps => allUse steps
  | choose test body otherwise => uses test && uses body && uses otherwise
  | raise message => uses message
  | attempt steps => allUse steps
  | operate operation operands => allowed operation && allUse operands
  | effect _ _ _ steps => allUse steps
  | within scope steps => uses scope && allUse steps
  | batch steps => allUse steps
  | untracked steps => allUse steps
  | freshContext steps => allUse steps
  | someContext steps => allUse steps
  | frame bindings steps => uses bindings && allUse steps
  | compileLoop _ _ raw => uses raw
  | compileConditional _ _ raw => uses raw
  | mount _ schema data environment library =>
      uses schema && uses data && uses environment && uses library
  | subscribe _ _ _ steps => allUse steps

/-- Are all operations of actions allowed? -/
def allUse : List Action → Bool
  | [] => true
  | action :: rest => uses action && allUse rest

end

theorem uses_of_mem {actions : List Action} {action : Action}
    (may : allUse allowed actions = true) (one : action ∈ actions) :
    action.uses allowed = true := by
  induction actions with
  | nil => cases one
  | cons first rest ih =>
      simp only [allUse, Bool.and_eq_true] at may
      rcases List.mem_cons.mp one with rfl | later
      · exact may.1
      · exact ih may.2 later

mutual

/-- Where everything is allowed, every action is. -/
theorem uses_any : ∀ action : Action, action.uses (fun _ => true) = true
  | literal _ | named _ => rfl
  | group items => allUse_any items
  | assign _ value => uses_any value
  | log values => allUse_any values
  | sequence steps => allUse_any steps
  | choose test body otherwise => by
      unfold uses
      rw [uses_any test, uses_any body, uses_any otherwise, Bool.and_self, Bool.and_self]
  | raise message => uses_any message
  | attempt steps => allUse_any steps
  | operate _ operands => allUse_any operands
  | effect _ _ _ steps => allUse_any steps
  | within scope steps => by
      unfold uses
      rw [uses_any scope, allUse_any steps, Bool.and_self]
  | batch steps => allUse_any steps
  | untracked steps => allUse_any steps
  | freshContext steps => allUse_any steps
  | someContext steps => allUse_any steps
  | frame bindings steps => by
      unfold uses
      rw [uses_any bindings, allUse_any steps, Bool.and_self]
  | compileLoop _ _ raw => uses_any raw
  | compileConditional _ _ raw => uses_any raw
  | mount _ schema data environment library => by
      unfold uses
      rw [uses_any schema, uses_any data, uses_any environment, uses_any library,
        Bool.and_self, Bool.and_self, Bool.and_self]
  | subscribe _ _ _ steps => allUse_any steps

/-- Where everything is allowed, all actions are. -/
theorem allUse_any : ∀ actions : List Action, allUse (fun _ => true) actions = true
  | [] => rfl
  | action :: rest => by
      unfold allUse
      rw [uses_any action, allUse_any rest, Bool.and_self]

end

end Action

/--
What a property of computations needs so that the programs have it that use allowed
operations only.
-/
structure RespectedByPrograms (runner : Runner) (allowed : Operation → Bool)
    (P : (α : Type) → Act α → Prop) : Prop
    extends RespectedByViews runner (fun steps => Action.allUse allowed steps = true) P where
  withContext (context : Option EvaluationContext) {body : Act Value} :
    P _ body → P _ (Act.withContext context body)
  insideFrame (bindings : Value) {body : Act Value} :
    P _ body → P _ (Act.insideFrame bindings body)
  /-- A frame that nobody closes. -/
  pushFrame : allowed .pushFrame = true → ∀ bindings,
    P _ (Act.observe (Observe.pushFrame bindings))
  /-- A root that leaves frames behind. -/
  leak : allowed .leak = true → ∀ value count, P _ (Act.leak value count)

namespace RespectedByPrograms

variable {runner : Runner} {allowed : Operation → Bool} {P : (α : Type) → Act α → Prop}
  {α : Type}

/-! ## Effects -/

theorem runHandle (respected : RespectedByPrograms runner allowed P) (value : Value) :
    P _ (Act.runHandle runner value) := by
  unfold Act.runHandle
  split
  · exact respected.runEffect _
  · exact respected.observe (looks_balanced.unknown _ _)

theorem stopHandle (respected : RespectedByPrograms runner allowed P) (value : Value) :
    P _ (Act.stopHandle value) := by
  unfold Act.stopHandle
  split
  · exact respected.stopEffect _
  · exact respected.stopEffectScope _
  · exact respected.observe (looks_balanced.unknown _ _)

/-! ## Compilers -/

theorem libraryOf (respected : RespectedByPrograms runner allowed P) (value : Value) :
    P _ (Act.libraryOf value) := by
  unfold Act.libraryOf
  split
  · exact respected.bind respected.get fun _ => respected.pure _
  · exact respected.pure _

theorem entriesOperand (respected : RespectedByPrograms runner allowed P) (value : Value) :
    P _ (Act.entriesOperand value) := by
  unfold Act.entriesOperand
  split
  · exact respected.bind respected.get fun _ => respected.pure _
  · exact respected.pure _

theorem recordingCompiler (respected : RespectedByPrograms runner allowed P)
    (data library components : Value) : P _ (Act.recordingCompiler data library components) := by
  refine respected.bind respected.newStore fun store => ?_
  refine respected.bind (respected.entriesOperand components) fun entries => ?_
  refine respected.bind (respected.newEnvironment entries true) fun environment => ?_
  refine respected.bind (respected.beside fun _ => .of_views rfl rfl rfl rfl) fun recorder => ?_
  refine respected.bind (respected.observe (looks_balanced.newScope _)) fun scope => ?_
  refine respected.bind (respected.libraryOf library) fun library => ?_
  exact respected.bind (respected.newCompiler _) fun _ => respected.pure _

theorem plainCompiler (respected : RespectedByPrograms runner allowed P) (data : Value) :
    P _ (Act.plainCompiler data) := by
  refine respected.bind respected.newStore fun store => ?_
  refine respected.bind (respected.newEnvironment [] true) fun environment => ?_
  exact respected.bind (respected.newCompiler _) fun _ => respected.pure _

theorem compilerOf (respected : RespectedByPrograms runner allowed P) (value : Value) :
    P _ (Act.compilerOf value) := by
  unfold Act.compilerOf
  split
  · exact respected.pure _
  · exact respected.observe (looks_balanced.unknown _ _)

theorem closureOf (respected : RespectedByPrograms runner allowed P) {part : Act Thunk}
    (each : P _ part) : P _ (Act.closureOf part) :=
  respected.bind each fun _ => respected.newClosure _

theorem compileOperand (respected : RespectedByPrograms runner allowed P)
    (compiler schema : Value) : P _ (Act.compileOperand runner compiler schema) := by
  refine respected.bind (respected.compilerOf compiler) fun id => respected.closureOf ?_
  exact respected.bind (respected.compilerAt id) fun _ => (respected.compiles id).schema _ schema

theorem compileNodeOperand (respected : RespectedByPrograms runner allowed P)
    (compiler raw : Value) : P _ (Act.compileNodeOperand runner compiler raw) := by
  refine respected.bind (respected.compilerOf compiler) fun id => ?_
  refine respected.bind (respected.observe (looks_balanced.parseNode raw)) fun node => ?_
  refine respected.closureOf ?_
  refine respected.bind (respected.compilerAt id) fun compiler => ?_
  have compiles := respected.compiles id
  refine compiles.compiling fun depth => ?_
  exact respected.bind (compiles.node? (compiles.within depth) _ .none node)
    fun node => compiles.nodeThunk node

theorem compileAttributesOperand (respected : RespectedByPrograms runner allowed P)
    (compiler raw : Value) : P _ (Act.compileAttributesOperand runner compiler raw) := by
  refine respected.bind (respected.compilerOf compiler) fun id => respected.closureOf ?_
  exact respected.bind (respected.compilerAt id) fun _ => (respected.compiles id).attributes _ raw

theorem compileConditionOperand (respected : RespectedByPrograms runner allowed P)
    (compiler condition : Value) :
    P _ (Act.compileConditionOperand runner compiler condition) := by
  refine respected.bind (respected.compilerOf compiler) fun id => respected.closureOf ?_
  exact respected.bind (respected.compilerAt id) fun _ =>
    (respected.compiles id).condition _ condition

theorem compileSourceOperand (respected : RespectedByPrograms runner allowed P)
    (compiler source : Value) : P _ (Act.compileSourceOperand runner compiler source) := by
  refine respected.bind (respected.compilerOf compiler) fun id => respected.closureOf ?_
  exact respected.bind (respected.compilerAt id) fun _ => (respected.compiles id).expression _ _

theorem compiledNodeState (respected : RespectedByPrograms runner allowed P)
    (node : CompiledNode) : P _ (Act.compiledNodeState node) := by
  refine respected.bind (respected.observe ?_) fun condition => ?_
  · split
    · exact balanced_closed.pure _
    · exact balanced_closed.bind (Thunk.balanced_run _) fun _ => looks_balanced.newList _
  refine respected.bind (respected.observe node.attributes.balanced_run) fun attributes => ?_
  refine respected.bind (respected.observe ?_) fun loop => ?_
  · split
    · exact balanced_closed.pure _
    · exact balanced_closed.bind (Thunk.balanced_run _) fun _ => looks_balanced.newList _
  exact respected.listed (balanced_closed.pure _)

theorem parseOperand (respected : RespectedByPrograms runner allowed P)
    (compiler raw : Value) : P _ (Act.parseOperand runner compiler raw) := by
  refine respected.bind (respected.compilerOf compiler) fun id => ?_
  refine respected.bind (respected.compilerAt id) fun compiler => ?_
  refine respected.bind (respected.observe (looks_balanced.parseNode raw)) fun node => ?_
  have compiles := respected.compiles id
  refine compiles.compiling fun depth => ?_
  refine respected.bind (compiles.node? (compiles.within depth) _ raw node) fun compiled => ?_
  split
  · exact respected.pure _
  · exact respected.compiledNodeState _

theorem callOperand (respected : RespectedByPrograms runner allowed P) (value : Value) :
    P _ (Act.callOperand runner value) := by
  unfold Act.callOperand
  split
  · exact respected.callClosure _
  · exact respected.runEffect _
  · exact respected.silently (respected.stopEffect _)
  · exact respected.silently (respected.stopEffectScope _)
  · exact respected.silently (respected.clearStore _)
  · exact respected.renderNow _
  · exact respected.silently (respected.unmount _)
  · split
    · exact respected.observe (looks_balanced.call _ [])
    · exact respected.fail rfl

theorem takeCalls (respected : RespectedByPrograms runner allowed P) (compiler : Value) :
    P _ (Act.takeCalls compiler) := by
  refine respected.bind (respected.compilerOf compiler) fun id => ?_
  refine respected.bind (respected.compilerAt id) fun found => ?_
  split
  · exact respected.observe (looks_balanced.unknown _ _)
  · refine respected.bind respected.get fun world => ?_
    refine respected.bind (respected.beside fun _ => .of_views rfl rfl rfl rfl) fun _ => ?_
    refine respected.listed ?_
    refine balanced_closed.mapM (fun call => ?_) _
    exact balanced_closed.bind (balanced_closed.mapM looks_balanced.build call)
      looks_balanced.newList

theorem compilerState (respected : RespectedByPrograms runner allowed P) (compiler : Value) :
    P _ (Act.compilerState compiler) := by
  refine respected.bind (respected.compilerOf compiler) fun id => ?_
  refine respected.bind (respected.compilerAt id) fun found => ?_
  refine respected.bind (respected.observe (looks_balanced.liveMapLength _)) fun _ => ?_
  exact respected.listed (balanced_closed.pure _)

/-! ## Views -/

theorem environmentOr (respected : RespectedByPrograms runner allowed P) (value : Value) :
    P _ (Act.environmentOr value) := by
  unfold Act.environmentOr
  split
  · exact respected.pure _
  · exact respected.newEnvironment [] true
  · exact respected.observe (looks_balanced.unknown _ _)

theorem mountOperands (respected : RespectedByPrograms runner allowed P)
    (schema data environment library : Value) :
    P _ (Act.mountOperands runner schema data environment library) := by
  refine respected.bind (respected.environmentOr environment) fun id => ?_
  exact respected.bind (respected.libraryOf library) fun _ => respected.mount id schema data _

theorem viewState (respected : RespectedByPrograms runner allowed P) (value : Value) :
    P _ (Act.viewState value) := by
  refine respected.bind (respected.viewOf value) fun id => ?_
  refine respected.bind (respected.viewAt id) fun view => ?_
  refine respected.bind (respected.isMounted id) fun mounted => ?_
  refine respected.bind (respected.observe (looks_balanced.liveMapLength _)) fun length => ?_
  refine respected.bind (respected.observe (looks_balanced.shown value)) fun text => ?_
  exact respected.listed (balanced_closed.pure _)

/-! ## Global components -/

theorem environmentOf (respected : RespectedByPrograms runner allowed P) (value : Value) :
    P _ (Act.environmentOf value) := by
  unfold Act.environmentOf
  split
  · exact respected.pure _
  · exact respected.observe (looks_balanced.unknown _ _)

theorem registryMap (respected : RespectedByPrograms runner allowed P) (environment : Value) :
    P _ (Act.registryMap environment) :=
  respected.bind (respected.environmentOf environment) fun id =>
    respected.bind (respected.componentsOf id) fun _ => respected.pure _

theorem changeRegistry (respected : RespectedByPrograms runner allowed P) (environment : Value)
    {change : MapId → Observe Unit} (each : ∀ map, (change map).IsBalanced) :
    P _ (Act.changeRegistry environment change) :=
  respected.bind (respected.environmentOf environment) fun id =>
    respected.changeComponents id each

theorem registryEntries (respected : RespectedByPrograms runner allowed P) (environment : Value) :
    P _ (Act.registryEntries environment) := by
  refine respected.bind (respected.registryMap environment) fun map => ?_
  refine respected.bind (respected.listed (looks_balanced.keysOf _)) fun keys => ?_
  refine respected.bind (respected.listed (looks_balanced.pairsOf _)) fun entries => ?_
  refine respected.bind (respected.observe (looks_balanced.lengthOf _)) fun size => ?_
  exact respected.listed (balanced_closed.pure _)

/-! ## All operations -/

/-- Using the map of the global components. -/
theorem onRegistry (respected : RespectedByPrograms runner allowed P) (environment : Value)
    {look : Value → Observe α} (each : ∀ map, (look map).IsBalanced) :
    P _ (do Act.observe (look (← Act.registryMap environment))) :=
  respected.bind (respected.registryMap environment) fun _ => respected.observe (each _)

theorem operate (respected : RespectedByPrograms runner allowed P) {operation : Operation}
    (may : allowed operation = true) (operands : List Value) :
    P _ (Act.operate runner operation operands) := by
  cases operation
  case runEffect => exact respected.runHandle _
  case stop => exact respected.silently (respected.stopHandle _)
  case newEffectScope => exact respected.bind respected.newEffectScope fun _ => respected.pure _
  case resolve =>
    refine respected.bind (respected.storeOf _) fun store => ?_
    exact respected.bind (respected.resolve _ store _ _) fun _ => respected.pure _
  case pushFrame =>
    exact respected.bind (respected.needContext _) fun _ =>
      respected.silently (respected.pushFrame may _)
  case newCompiler => exact respected.recordingCompiler _ _ _
  case newPlainCompiler => exact respected.plainCompiler _
  case compile => exact respected.compileOperand _ _
  case compileNode => exact respected.compileNodeOperand _ _
  case compileAttributes => exact respected.compileAttributesOperand _ _
  case compileCondition => exact respected.compileConditionOperand _ _
  case compileExpression => exact respected.compileSourceOperand _ _
  case parse => exact respected.parseOperand _ _
  case call => exact respected.callOperand _
  case calls => exact respected.takeCalls _
  case compilerState => exact respected.compilerState _
  case newEnvironment =>
    refine respected.bind (respected.entriesOperand _) fun entries => ?_
    exact respected.bind (respected.newEnvironment entries _) fun _ => respected.pure _
  case defaultEnvironment =>
    exact respected.bind respected.defaultEnvironment fun _ => respected.pure _
  case renderOnce =>
    refine respected.bind (respected.environmentOr _) fun environment => ?_
    exact respected.bind (respected.libraryOf _) fun _ => respected.renderOnce environment _ _ _
  case viewRender => exact respected.onView _ fun id => respected.renderNow id
  case viewState => exact respected.viewState _
  case unmount => exact respected.onView _ fun id => respected.silently (respected.unmount id)
  case leak => exact respected.leak may _ _
  case registrySet =>
    exact respected.silently (respected.changeRegistry _ fun map => balanced_mapSet map _ _)
  case registryDelete =>
    exact respected.silently (respected.changeRegistry _ fun map => balanced_mapDelete map _)
  case registryUpdate =>
    exact respected.silently (respected.changeRegistry _ fun map => balanced_mapUpdate map _)
  case registryAt => exact respected.onRegistry _ fun map => looks_balanced.getItem map _
  case registryGet => exact respected.onRegistry _ fun map => looks_balanced.getEntry map _ _
  case registryHas =>
    exact respected.onRegistry _ fun map => balanced_closed.map (looks_balanced.contains _ map) _
  case registryEntries => exact respected.registryEntries _
  case registryMap => exact respected.registryMap _
  all_goals exact respected.toRespectedByWrites.operate rfl operands

/-! ## Steps of programs -/

theorem assign (respected : RespectedByPrograms runner allowed P) (name : String) (value : Value) :
    P _ (Act.assign name value) :=
  respected.beside fun _ => .of_views rfl rfl rfl rfl

theorem addMounted (respected : RespectedByPrograms runner allowed P) (name : String)
    (id : ViewId) : P _ (Act.addMounted name id) :=
  respected.bind (respected.assign name _) fun _ => respected.beside fun _ => .of_views rfl rfl rfl rfl

theorem assignLoop (respected : RespectedByPrograms runner allowed P) (name : String)
    (compiler raw : Value) : P _ (Act.assignLoop runner name compiler raw) := by
  refine respected.bind (respected.compilerOf compiler) fun id => ?_
  refine respected.bind (respected.observe (looks_balanced.parseLoop raw)) fun loop => ?_
  split
  · exact respected.observe (looks_balanced.unknown _ _)
  · refine respected.bind (respected.compilerAt id) fun compiler => ?_
    refine respected.bind ((respected.compiles id).loop _ _) fun compiled => ?_
    refine respected.bind (respected.newClosure _) fun closure => ?_
    refine respected.bind (respected.assign name closure) fun _ => ?_
    exact respected.listed (balanced_closed.pure _)

theorem assignConditional (respected : RespectedByPrograms runner allowed P) (name : String)
    (compiler raw : Value) : P _ (Act.assignConditional runner name compiler raw) := by
  refine respected.bind (respected.compilerOf compiler) fun id => ?_
  refine respected.bind (respected.observe (looks_balanced.parseNode raw)) fun node => ?_
  split
  · refine respected.bind (respected.compilerAt id) fun compiler => ?_
    have compiles := respected.compiles id
    refine compiles.compiling fun depth => ?_
    have each := compiles.conditional (compiles.within depth)
    refine respected.bind (each _ _ _ _) fun parts => ?_
    refine respected.bind (respected.newClosure _) fun condition => ?_
    refine respected.bind (respected.assign _ condition) fun _ => ?_
    refine respected.bind (respected.newClosure _) fun body => ?_
    refine respected.bind (respected.assign _ body) fun _ => ?_
    split
    · exact respected.pure _
    · refine respected.bind (respected.newClosure _) fun other => ?_
      exact respected.bind (respected.assign _ other) fun _ => respected.pure _
  · exact respected.observe (looks_balanced.unknown _ _)

theorem addListener (respected : RespectedByPrograms runner allowed P) (view name : String)
    (times : Nat) {steps : List Action} (may : Action.allUse allowed steps = true) :
    P _ (Act.addListener view name times steps) := by
  refine respected.bind (respected.variableOf view) fun value => ?_
  refine respected.bind (respected.viewOf value) fun id => ?_
  refine respected.bind (respected.newListener ⟨name, times, steps⟩ may) fun listener => ?_
  exact respected.silently
    (respected.bind (respected.subscribe id listener) fun _ => respected.assign name _)

theorem addEffect (respected : RespectedByPrograms runner allowed P) (name : String)
    (timing : Timing) (started : Bool) {steps : List Action}
    (may : Action.allUse allowed steps = true) :
    P _ (Act.addEffect runner name timing started steps) := by
  have fits : (Body.program name steps).Runs (Action.allUse allowed · = true) := may
  refine respected.branch (respected.watch fits timing) (respected.newEffect timing fits)
    fun effect => ?_
  exact respected.silently (respected.assign name _)

/-! ## Programs -/

mutual

/-- An action has what its operations have; effects that it makes are of the same kind. -/
theorem performs (respected : RespectedByPrograms runner allowed P) :
    ∀ action : Action, action.uses allowed = true → P _ (action.perform runner)
  | .literal value, _ => respected.observe (looks_balanced.build value)
  | .named name, _ => respected.variableOf name
  | .group items, may =>
      respected.bind (respected.performsAll items may) fun _ => respected.pure _
  | .assign name value, may =>
      respected.bind (respected.performs value may) fun _ =>
        respected.silently (respected.assign name _)
  | .log values, may =>
      respected.bind (respected.performsShown values may) fun _ =>
        respected.silently (respected.beside fun _ => .of_views rfl rfl rfl rfl)
  | .sequence steps, may => respected.performsSteps .none steps may
  | .choose test body otherwise, may => by
      simp only [Action.uses, Bool.and_eq_true] at may
      refine respected.bind (respected.performs test may.1.1) fun value => ?_
      refine respected.bind (respected.observe (looks_balanced.isTrue value)) fun holds => ?_
      split
      · exact respected.performs body may.1.2
      · exact respected.performs otherwise may.2
  | .raise message, may =>
      respected.bind (respected.performs message may) fun value =>
        respected.bind (respected.observe (looks_balanced.textOf value)) fun _ =>
          respected.fail rfl
  | .attempt steps, may => respected.attempt (respected.performsSteps .none steps may)
  | .operate operation operands, may => by
      simp only [Action.uses, Bool.and_eq_true] at may
      exact respected.bind (respected.performsAll operands may.2) fun values =>
        respected.operate may.1 values
  | .effect name timing started steps, may => respected.addEffect name timing started may
  | .within scope steps, may => by
      simp only [Action.uses, Bool.and_eq_true] at may
      refine respected.bind (respected.performs scope may.1) fun value => ?_
      split
      · exact respected.within _ (respected.performsSteps .none steps may.2)
      · exact respected.observe (looks_balanced.unknown _ _)
  | .batch steps, may => respected.batch (respected.performsSteps .none steps may)
  | .untracked steps, may => respected.untracked (respected.performsSteps .none steps may)
  | .freshContext steps, may =>
      respected.withContext _ (respected.performsSteps .none steps may)
  | .someContext steps, may => by
      refine respected.bind respected.get fun world => ?_
      split
      · exact respected.withContext _ (respected.performsSteps .none steps may)
      · exact respected.performsSteps .none steps may
  | .frame bindings steps, may => by
      simp only [Action.uses, Bool.and_eq_true] at may
      exact respected.bind (respected.needContext _) fun _ =>
        respected.bind (respected.performs bindings may.1) fun _ =>
          respected.insideFrame _ (respected.performsSteps .none steps may.2)
  | .compileLoop name compiler raw, may =>
      respected.bind (respected.variableOf compiler) fun _ =>
        respected.bind (respected.performs raw may) fun _ => respected.assignLoop name _ _
  | .compileConditional name compiler raw, may =>
      respected.bind (respected.variableOf compiler) fun _ =>
        respected.bind (respected.performs raw may) fun _ => respected.assignConditional name _ _
  | .mount name schema data environment library, may => by
      simp only [Action.uses, Bool.and_eq_true] at may
      obtain ⟨⟨⟨ofSchema, ofData⟩, ofEnvironment⟩, ofLibrary⟩ := may
      exact respected.bind (respected.performs schema ofSchema) fun _ =>
        respected.bind (respected.performs data ofData) fun _ =>
          respected.bind (respected.performs environment ofEnvironment) fun _ =>
            respected.bind (respected.performs library ofLibrary) fun _ =>
              respected.silently (respected.bind (respected.mountOperands _ _ _ _)
                fun _ => respected.addMounted name _)
  | .subscribe view name times steps, may => respected.addListener view name times may

theorem performsAll (respected : RespectedByPrograms runner allowed P) :
    ∀ actions : List Action, Action.allUse allowed actions = true →
      P _ (Action.perform.performAll runner actions)
  | [], _ => respected.pure _
  | action :: rest, may => by
      simp only [Action.allUse, Bool.and_eq_true] at may
      exact respected.bind (respected.performs action may.1) fun _ =>
        respected.bind (respected.performsAll rest may.2) fun _ => respected.pure _

theorem performsShown (respected : RespectedByPrograms runner allowed P) :
    ∀ actions : List Action, Action.allUse allowed actions = true →
      P _ (Action.perform.performShown runner actions)
  | [], _ => respected.pure _
  | action :: rest, may => by
      simp only [Action.allUse, Bool.and_eq_true] at may
      exact respected.bind (respected.performs action may.1) fun value =>
        respected.bind (respected.observe (looks_balanced.snapshot value)) fun _ =>
          respected.bind (respected.performsShown rest may.2) fun _ => respected.pure _

theorem performsSteps (respected : RespectedByPrograms runner allowed P) (last : Value) :
    ∀ actions : List Action, Action.allUse allowed actions = true →
      P _ (Action.perform.performSteps runner last actions)
  | [], _ => respected.pure _
  | action :: rest, may => by
      simp only [Action.allUse, Bool.and_eq_true] at may
      exact respected.bind (respected.performs action may.1) fun value =>
        respected.performsSteps value rest may.2

end

theorem carryOut (respected : RespectedByPrograms runner allowed P) {body : Body}
    (fits : body.Runs (Action.allUse allowed · = true))
    (shows : ∀ id output, body = .render id → P _ (modify (World.showing id output))) :
    P _ (body.carryOut runner) := by
  cases body with
  | resolve cell data store scopes path =>
      exact respected.silently (respected.updateCell cell data store scopes path)
  | compile view => exact respected.silently (respected.byCompiling.compileView view)
  | render view =>
      exact respected.silently (respected.byRendering.renderView fun output => shows view output rfl)
  | program name steps => exact respected.performsSteps .none steps fits

end RespectedByPrograms

end ReactiveSchema
