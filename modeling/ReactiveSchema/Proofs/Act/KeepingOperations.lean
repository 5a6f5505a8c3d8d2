import ReactiveSchema.Proofs.Act.KeepingViews
import ReactiveSchema.Script.Operate

/-!
# Operations that keep everything in reach

Whatever an operation does with operands that are there, every place that is
named in the world is there before and after.
-/

namespace ReactiveSchema

variable {extent small large : Extent}

/-- A pass, if one is under way, all of whose frames are there. -/
abbrev ContextKnown : Extent → Option EvaluationContext → Prop :=
  fun extent context => Option.Rel (ContextTwin .still extent) context context

theorem Tandem.leaveFrames {first : FirstLook} (count : Nat) :
    Tandem first extent Same (Act.leaveFrames count) (Act.leaveFrames count) := by
  induction count generalizing extent with
  | zero => exact pure fun _ _ => rfl
  | succ count ih =>
      refine bind (newMap .nil) fun _ _ _ _ same => ?_
      exact bind (pushFrame same) fun _ _ _ _ _ => ih

namespace Keeps

variable {runner : Runner} {container key value other : Value} {operands : List Value}

/-! ## Values of operations -/

theorem silently {action : Act Unit} (each : Keeps extent Anything action) :
    Keeps extent Known (Act.silently action) :=
  bind each fun _ _ _ _ => pure fun _ _ => .none

theorem listed {items : Observe (List Value)} (each : Keeps extent AllKnown items) :
    Keeps extent Known (Act.listed items) :=
  observe (bind each fun _ _ _ all => newList all)

/-- What is looked up and then given as a value of some kind. -/
theorem giving {α : Type} {look : Observe α} (each : Keeps extent Anything look) {give : α → Value}
    (known : ∀ large a, Known large (give a)) :
    Keeps extent Known (Act.observe (do return give (← look))) :=
  observe (bind each fun _ a _ _ => pure fun large _ => known large a)

section Containers

variable (keeps : runner.Keeps)
include keeps

/-! ## Containers of either face -/

theorem setItem (containers : Known extent container) (keys : Known extent key)
    (known : Known extent value) :
    Keeps extent Anything (Act.setItem runner container key value) := by
  cases containers
  case list => exact observe (listSet _ key known)
  case map => exact observe (mapSet _ keys known)
  case liveList => exact liveListSet keeps _ key known
  case liveMap => exact liveMapSet keeps _ keys known
  all_goals exact fail _

theorem deleteItem (containers : Known extent container) (keys : Known extent key) :
    Keeps extent Anything (Act.deleteItem runner container key) := by
  cases containers
  case list => exact observe (listDelete _ key)
  case map => exact observe (mapDelete _ key)
  case liveList => exact liveListDelete keeps _ key
  case liveMap => exact liveMapDelete keeps _ keys
  all_goals exact fail _

theorem setSlice (containers : Known extent container) (start stop : Value)
    (known : Known extent value) :
    Keeps extent Anything (Act.setSlice runner container start stop value) := by
  cases containers
  case list =>
    exact observe (bind (iterate known) fun _ _ _ added => listSetSlice _ start stop added)
  case liveList => exact liveListSetSlice keeps _ start stop known
  all_goals exact fail _

theorem deleteSlice (containers : Known extent container) (start stop : Value) :
    Keeps extent Anything (Act.deleteSlice runner container start stop) := by
  cases containers
  case list => exact observe (listSetSlice _ start stop .nil)
  case liveList => exact liveListDeleteSlice keeps _ start stop
  all_goals exact fail _

theorem updateMap (containers : Known extent container) (known : Known extent value) :
    Keeps extent Anything (Act.updateMap runner container value) := by
  cases containers
  case map => exact observe (mapUpdate _ known)
  case liveMap => exact liveMapUpdate keeps _ known
  all_goals exact observe (unknown _ _)

theorem popItem (containers : Known extent container) {key otherwise : Option Value}
    (keys : MaybeKnown extent key) (instead : MaybeKnown extent otherwise) :
    Keeps extent Known (Act.popItem runner container key otherwise) := by
  have index : Known extent (key.getD (.int (-1))) := by
    cases key with
    | none => exact .int _
    | some key => exact keys key rfl
  cases containers
  case map =>
    cases key with
    | none => cases otherwise <;> exact fail _
    | some key => exact observe (mapPop _ key instead)
  case liveMap there =>
    cases key with
    | none => cases otherwise <;> exact fail _
    | some key => exact liveMapPop keeps there (keys key rfl) instead
  case list =>
    cases otherwise with
    | none => exact observe (listPop _ _)
    | some other => cases key <;> exact fail _
  case liveList there =>
    cases otherwise with
    | none => exact liveListPop keeps there index
    | some other => cases key <;> exact fail _
  all_goals exact observe (unknown _ _)

theorem popEntry (containers : Known extent container) :
    Keeps extent Known (Act.popEntry runner container) := by
  cases containers
  case map => exact observe (mapPopEntry _)
  case liveMap there => exact liveMapPopEntry keeps there
  all_goals exact observe (unknown _ _)

theorem clear (containers : Known extent container) :
    Keeps extent Anything (Act.clear runner container) := by
  cases containers
  case list => exact observe (setList _ .nil)
  case map => exact observe (setMap _ .nil)
  case liveList there => exact liveListClear keeps there
  case liveMap there => exact liveMapClear keeps there
  case handle kind _ held =>
    cases kind
    case store => exact clearStore keeps held
    all_goals exact observe (unknown _ _)
  all_goals exact observe (unknown _ _)

theorem setDefault (containers : Known extent container) (keys : Known extent key)
    (known : Known extent value) :
    Keeps extent Known (Act.setDefault runner container key value) := by
  cases containers
  case map => exact observe (mapSetDefault _ keys known)
  case liveMap there => exact liveMapSetDefault keeps there keys known
  all_goals exact observe (unknown _ _)

theorem append (containers : Known extent container) (known : Known extent value) :
    Keeps extent Anything (Act.append runner container value) := by
  cases containers
  case list => exact observe (listExtend _ (.cons known .nil))
  case liveList there => exact liveListAppend keeps there known
  all_goals exact observe (unknown _ _)

theorem insertItem (containers : Known extent container) (index : Value)
    (known : Known extent value) :
    Keeps extent Anything (Act.insertItem runner container index value) := by
  cases containers
  case list => exact observe (listInsert _ index known)
  case liveList => exact liveListInsert keeps _ index known
  all_goals exact observe (unknown _ _)

theorem extend (containers : Known extent container) (known : Known extent value) :
    Keeps extent Anything (Act.extend runner container value) := by
  cases containers
  case list => exact observe (bind (iterate known) fun _ _ _ added => listExtend _ added)
  case liveList => exact liveListExtend keeps _ known
  all_goals exact observe (unknown _ _)

theorem extendInPlace (containers : Known extent container) (known : Known extent value) :
    Keeps extent Anything (Act.extendInPlace runner container value) := by
  have added : Keeps extent Anything (do
      let _ ← Act.observe (Observe.sum container value) : Act Unit) :=
    bind (observe (sum containers known)) fun _ _ _ _ => done
  have extended := extend keeps containers known
  cases containers
  case list | liveList => exact extended
  all_goals exact added

theorem removeItem (containers : Known extent container) (known : Known extent value) :
    Keeps extent Anything (Act.removeItem runner container value) := by
  cases containers
  case list => exact observe (listRemove _ known)
  case liveList there => exact liveListRemove keeps there known
  all_goals exact observe (unknown _ _)

theorem reverseItems (containers : Known extent container) :
    Keeps extent Anything (Act.reverseItems runner container) := by
  cases containers
  case list =>
    exact observe (listChange _ List.reverse fun _ _ _ all =>
      allKnown_of_subset all fun _ => List.mem_reverse.mp)
  case liveList there => exact liveListReverse keeps there
  all_goals exact observe (unknown _ _)

end Containers

/-! ## Cells and effects -/

theorem contentOf (value : Value) : Keeps extent Known (Act.contentOf value) := by
  unfold Act.contentOf
  split
  · exact observe (refGet _)
  · exact observe (unknown _ _)

theorem setContent (keeps : runner.Keeps) (target : Value) (known : Known extent value) :
    Keeps extent Anything (Act.setContent runner target value) := by
  unfold Act.setContent
  split
  · exact refSet keeps _ known
  · exact observe (unknown _ _)

theorem peekContent (value : Value) : Keeps extent Known (Act.peekContent value) := by
  unfold Act.peekContent
  split
  · exact observe (refPeek _)
  · exact observe (unknown _ _)

theorem subscriberCount (value : Value) : Keeps extent Known (Act.subscriberCount value) := by
  refine bind get fun _ _ _ _ => ?_
  dsimp only
  split
  · exact pure fun _ _ => .int _
  · exact pure fun _ _ => .int _
  · exact observe (unknown _ _)

theorem runHandle (keeps : runner.Keeps) (value : Value) :
    Keeps extent Known (Act.runHandle runner value) := by
  unfold Act.runHandle
  split
  · exact runEffect keeps _
  · exact observe (unknown _ _)

theorem stopHandle (value : Value) : Keeps extent Anything (Act.stopHandle value) := by
  unfold Act.stopHandle
  split
  · exact stopEffect _
  · exact stopEffectScope _
  · exact observe (unknown _ _)

theorem effectState (value : Value) : Keeps extent Known (Act.effectState value) := by
  unfold Act.effectState
  split
  · refine bind get fun _ _ _ _ => listed (pure fun _ _ => ?_)
    exact .cons (.bool _) (.cons (.int _) (.cons (.int _) .nil))
  · exact observe (unknown _ _)

theorem effectScopeState (known : Known extent value) :
    Keeps extent Known (Act.effectScopeState value) := by
  unfold Act.effectScopeState
  split
  · refine bind get fun _ _ fits _ => ?_
    refine bind (observe (lengthOf (known.mono fits))) fun _ _ _ _ => listed (pure fun _ _ => ?_)
    exact .cons (.bool _) (.cons (.int _) .nil)
  · exact observe (unknown _ _)

/-! ## Scopes -/

theorem storeOf (known : Known extent value) :
    Keeps extent (fun large store => store < large.liveMaps) (Act.storeOf value) := by
  unfold Act.storeOf
  split
  · cases known with
    | handle there => exact pure fun _ fits => Nat.lt_of_lt_of_le there fits.liveMaps
  · exact observe (unknown _ _)

theorem bindValue (keeps : runner.Keeps) {store : Value} (stores : Known extent store)
    (scopes : Value) (keys : Known extent key) (known : Known extent value) :
    Keeps extent Anything (Act.bindValue runner store scopes key value) := by
  refine bind (storeOf stores) fun _ _ fits there => bindings keeps there _ fun _ more => ?_
  have keys := keys.mono (fits.trans more)
  split
  · exact pure fun _ last => .cons ⟨keys.mono last, known.mono ((fits.trans more).trans last)⟩ .nil
  · exact copyMap keys

theorem bindingsOf {store : LiveMapId} (there : store < extent.liveMaps) (scope : ScopeId) :
    Keeps extent MaybeKnown (Observe.bindingsOf store scope) := by
  refine Tandem.keeps (fun _ fits =>
    Tandem.bindingsOf (Nat.lt_of_lt_of_le there fits.liveMaps) scope) ?_
  intro _ _ _ same value found
  subst found
  cases same with
  | some same => exact same.within

theorem storedBindings {store : Value} (stores : Known extent store) (scope : Value) :
    Keeps extent Known (Act.storedBindings store scope) := by
  refine bind (storeOf stores) fun _ _ _ there => ?_
  split
  case h_1 scope =>
    refine observe (bind (bindingsOf there scope) fun _ found _ known => pure fun _ more => ?_)
    cases found with
    | none => exact .none
    | some bindings => exact (known bindings rfl).mono more
  case h_2 => exact pure fun _ _ => .none

theorem scopeChain {store : LiveMapId} (there : store < extent.liveMaps) (scopes : ScopePath)
    (known : Known extent value) :
    Keeps extent AllKnown (Observe.chain store scopes value) := by
  have same {large : Extent} (fits : extent.Fits large) :
      Twin FirstLook.idle.moves large value value := known.mono fits
  exact Tandem.keeps_all fun _ fits =>
    Tandem.scopeChain (Nat.lt_of_lt_of_le there fits.liveMaps) scopes (same fits)

theorem isStored {store scope : Value} (stores : Known extent store) (scopes : Known extent scope) :
    Keeps extent Known (Act.isStored store scope) :=
  bind (storeOf stores) fun _ _ fits there =>
    giving (liveMapHas there (scopes.mono fits)) fun _ found => .bool found

/-! ## Evaluation contexts -/

theorem contextState : Keeps extent Known Act.contextState := by
  refine bind get fun _ _ _ _ => ?_
  split
  · exact pure fun _ _ => .none
  · exact listed (pure fun _ _ => .cons (.int _) (.cons (.int _) .nil))

theorem needContext (name : String) : Keeps extent Anything (Act.needContext name) := by
  refine bind get fun _ _ _ _ => ?_
  split
  · exact observe (unknown _ _)
  · exact done

theorem context? : Keeps extent ContextKnown Observe.context? :=
  reading fun _ _ _ whole => whole.context

theorem lookupFrames {frames : List Value} (all : AllKnown extent frames) (token : String) :
    Keeps extent Known (Observe.lookupFrames frames token) := by
  have same {large : Extent} (fits : extent.Fits large) :
      Twins FirstLook.idle.moves large frames frames := AllKnown.mono all fits
  exact Tandem.keeps_value fun _ fits => Tandem.lookupFrames (same fits) token

theorem checkScope (known : Known extent value) (token : String) :
    Keeps extent Known (Observe.checkScope value token) := by
  have same {large : Extent} (fits : extent.Fits large) :
      Twin FirstLook.idle.moves large value value := known.mono fits
  exact Tandem.keeps_value fun _ fits => Tandem.checkScope (same fits) token

theorem lookupToken (token : String) : Keeps extent Known (Act.lookupToken token) := by
  refine bind (needContext _) fun _ _ _ _ => observe (bind context? fun _ context _ known => ?_)
  cases known with
  | none => exact pure fun _ _ => .missing
  | some known => exact lookupFrames known.frames token

/-! ## Compilers -/

theorem libraryOf (value : Value) : Keeps extent NamedKnown (Act.libraryOf value) := by
  unfold Act.libraryOf
  split
  case h_1 id =>
    refine bind get fun large world fits held => pure fun _ more => ?_
    intro entry has
    obtain ⟨⟨name, component⟩, among, found⟩ := List.mem_filterMap.mp has
    have known := (entriesKnown_iff.mp ((remembered held).1.maps id) _ among).2
    dsimp only at found
    split at found <;> cases found
    exact known.mono more
  case h_2 => exact pure fun _ _ => nofun

theorem entriesOperand (value : Value) : Keeps extent EntriesKnown (Act.entriesOperand value) := by
  unfold Act.entriesOperand
  split
  · exact bind get fun _ _ _ held => pure fun _ more =>
      EntriesKnown.mono ((remembered held).1.maps _) more
  · exact pure fun _ _ => .nil

/-- Nothing that is recorded is part of the world. -/
theorem recording {α : Type} (give : World → α)
    (change : Array (List RecordedCall) → Array (List RecordedCall)) :
    Keeps extent Anything (MonadState.modifyGet fun world : World => (give world,
      { world with memory := { world.memory with
          recordings := change world.memory.recordings } }) : Act α) := by
  refine modifyGet fun large world fits held reach => ?_
  change world.reach = large at reach
  subst reach
  obtain ⟨lists, maps, nodes, refs, objects, liveLists, liveMaps, context, outlook⟩ := held.memory
  exact ⟨held.remembering (.refl _)
    ⟨lists, maps, nodes, refs, objects, liveLists, liveMaps, context, outlook⟩ fun _ => rfl,
    .refl _, trivial⟩

theorem recordingCompiler {data : Value} (known : Known extent data) (library components : Value) :
    Keeps extent Known (Act.recordingCompiler data library components) := by
  refine bind newStore fun e₁ store f₁ stored => ?_
  refine bind (entriesOperand components) fun e₂ entries f₂ all => ?_
  refine bind (newEnvironment all true) fun e₃ environment f₃ chosen => ?_
  refine bind (recording _ fun old => old.push []) fun e₄ recorder f₄ _ => ?_
  refine bind (observe (newScope "root")) fun e₅ scope f₅ _ => ?_
  refine bind (libraryOf library) fun e₆ components f₆ libraries => ?_
  have since := f₄.trans (f₅.trans f₆)
  have compiler : Compiler.Within e₆
      ⟨data, store, components, environment, some recorder, [scope], 0⟩ :=
    ⟨known.mono ((f₁.trans (f₂.trans f₃)).trans since),
      Nat.lt_of_lt_of_le stored ((f₂.trans f₃).trans since).liveMaps, libraries,
      Nat.lt_of_lt_of_le chosen since.environments⟩
  exact bind (newCompiler compiler) fun _ _ _ made => pure fun _ last =>
    known_compiler (Nat.lt_of_lt_of_le made last.compilers)

theorem plainCompiler {data : Value} (known : Known extent data) :
    Keeps extent Known (Act.plainCompiler data) := by
  refine bind newStore fun e₁ store f₁ stored => ?_
  refine bind (newEnvironment .nil true) fun e₂ environment f₂ chosen => ?_
  have compiler : Compiler.Within e₂ ⟨data, store, [], environment, none, [], 0⟩ :=
    ⟨known.mono (f₁.trans f₂), Nat.lt_of_lt_of_le stored f₂.liveMaps, nofun, chosen⟩
  exact bind (newCompiler compiler) fun _ _ _ made => pure fun _ last =>
    known_compiler (Nat.lt_of_lt_of_le made last.compilers)

theorem compilerOf (known : Known extent value) :
    Keeps extent (fun large id => id < large.compilers) (Act.compilerOf value) := by
  unfold Act.compilerOf
  split
  · cases known with
    | handle there => exact pure fun _ fits => Nat.lt_of_lt_of_le there fits.compilers
  · exact observe (unknown _ _)

theorem closureOf {part : Act Thunk} (each : Keeps extent PartKnown part) :
    Keeps extent Known (Act.closureOf part) :=
  bind each fun _ _ _ known => newClosure known

section Compiling

variable (keeps : runner.Keeps)
include keeps

theorem compileOperand {compiler : Value} (compilers : Known extent compiler)
    (known : Known extent value) :
    Keeps extent Known (Act.compileOperand runner compiler value) := by
  refine bind (compilerOf compilers) fun _ id f₁ there => closureOf ?_
  refine bind (compilerAt there) fun _ _ f₂ _ => ?_
  exact compileSchema keeps (Nat.lt_of_lt_of_le there f₂.compilers) _ (known.mono (f₁.trans f₂))

theorem compileNodeOperand {compiler : Value} (compilers : Known extent compiler)
    (known : Known extent value) :
    Keeps extent Known (Act.compileNodeOperand runner compiler value) := by
  refine bind (compilerOf compilers) fun _ id f₁ there => ?_
  refine bind (observe (parseNode (known.mono f₁))) fun _ node f₂ nodes => closureOf ?_
  have there := Nat.lt_of_lt_of_le there f₂.compilers
  refine bind (compilerAt there) fun _ _ f₃ _ => ?_
  have there := Nat.lt_of_lt_of_le there f₃.compilers
  refine bind (compiling keeps there) fun _ deeper f₄ each => ?_
  have there := Nat.lt_of_lt_of_le there f₄.compilers
  have nodes : NodeKnown _ node := fun node found => (nodes node found).mono (f₃.trans f₄)
  refine bind (compileNode? keeps there each _ _ nodes) fun _ _ f₅ compiled => ?_
  exact nodeThunk (Nat.lt_of_lt_of_le there f₅.compilers) compiled

theorem compileAttributesOperand {compiler : Value} (compilers : Known extent compiler)
    (known : Known extent value) :
    Keeps extent Known (Act.compileAttributesOperand runner compiler value) := by
  refine bind (compilerOf compilers) fun _ id f₁ there => closureOf ?_
  refine bind (compilerAt there) fun _ _ f₂ _ => ?_
  exact compileAttributes keeps (Nat.lt_of_lt_of_le there f₂.compilers) _
    (known.mono (f₁.trans f₂))

theorem compileConditionOperand {compiler : Value} (compilers : Known extent compiler)
    (known : Known extent value) :
    Keeps extent Known (Act.compileConditionOperand runner compiler value) := by
  refine bind (compilerOf compilers) fun _ id f₁ there => closureOf ?_
  refine bind (compilerAt there) fun _ _ f₂ _ => ?_
  exact compileCondition keeps (Nat.lt_of_lt_of_le there f₂.compilers) _
    (known.mono (f₁.trans f₂))

theorem compileSourceOperand {compiler : Value} (compilers : Known extent compiler)
    (source : Value) : Keeps extent Known (Act.compileSourceOperand runner compiler source) := by
  refine bind (compilerOf compilers) fun _ id _ there => closureOf ?_
  refine bind (compilerAt there) fun _ _ f₂ _ => ?_
  exact compileExpression keeps (Nat.lt_of_lt_of_le there f₂.compilers) _ _

omit keeps in
theorem nameOrNone (name : Option String) : Known extent (Act.nameOrNone name) := by
  cases name with
  | none => exact .none
  | some name => exact .str name

omit keeps in
theorem compiledNodeState {node : CompiledNode} (known : node.Known extent) :
    Keeps extent Known (Act.compiledNodeState node) := by
  refine bind (R := Known) (observe ?asked) fun e₁ condition f₁ conditions => ?_
  case asked =>
    split
    · exact pure fun _ _ => .none
    case h_2 condition found =>
      exact bind (runPart (known.condition condition found)) fun _ _ _ value =>
        newList (.cons value .nil)
  refine bind (observe (runPart (known.mono f₁).attributes)) fun e₂ attributes f₂ props => ?_
  refine bind (R := Known) (observe ?looped) fun e₃ loop f₃ loops => ?_
  case looped =>
    split
    · exact pure fun _ _ => .none
    case h_2 loop found =>
      have parts : PartKnown e₂ loop.values := (known.mono (f₁.trans f₂)).loop loop found
      exact bind (runPart parts) fun _ _ _ values =>
        newList (.cons values (.cons (.str _) (.cons (nameOrNone _) .nil)))
  refine listed (pure fun large last => ?_)
  have element : Known large (node.element.getD .none) := by
    cases shown : node.element with
    | none => exact .none
    | some element =>
        exact Twin.mono ((f₁.trans f₂).trans (f₃.trans last)) (known.element element shown)
  exact .cons (conditions.mono (f₂.trans (f₃.trans last))) (.cons element
    (.cons (props.mono (f₃.trans last)) (.cons (.bool _) (.cons (.bool _) (.cons (.int _)
      (.cons (loops.mono last) .nil))))))

theorem parseOperand {compiler : Value} (compilers : Known extent compiler)
    (known : Known extent value) :
    Keeps extent Known (Act.parseOperand runner compiler value) := by
  refine bind (compilerOf compilers) fun _ id f₁ there => ?_
  refine bind (compilerAt there) fun _ _ f₂ _ => ?_
  refine bind (observe (parseNode (known.mono (f₁.trans f₂)))) fun _ node f₃ nodes => ?_
  have there := Nat.lt_of_lt_of_le there (f₂.trans f₃).compilers
  refine bind (compiling keeps there) fun _ deeper f₄ each => ?_
  have nodes : NodeKnown _ node := fun node found => (nodes node found).mono f₄
  refine bind (compileNode? keeps (Nat.lt_of_lt_of_le there f₄.compilers) each _ _ nodes) ?_
  intro _ compiled _ found
  cases compiled with
  | none => exact pure fun _ _ => .none
  | some node => exact compiledNodeState (found node rfl)

omit keeps in
theorem takeCalls {compiler : Value} (compilers : Known extent compiler) :
    Keeps extent Known (Act.takeCalls compiler) := by
  refine bind (compilerOf compilers) fun _ _ _ there => ?_
  refine bind (compilerAt there) fun _ compiler _ _ => ?_
  split
  · exact observe (unknown _ _)
  · refine bind get fun _ world _ _ => ?_
    refine bind (recording (fun _ => ()) fun old => old.modify _ fun _ => []) fun _ _ _ _ => ?_
    refine listed ((mapM abiding_known fun _ _ call _ => ?_).imp fun _ _ => allKnown_iff.mpr)
    exact bind ((mapM abiding_known fun _ _ datum _ => build datum).imp fun _ _ =>
      allKnown_iff.mpr) fun _ _ _ all => newList all

omit keeps in
theorem compilerState {compiler : Value} (compilers : Known extent compiler) :
    Keeps extent Known (Act.compilerState compiler) := by
  refine bind (compilerOf compilers) fun _ _ _ there => ?_
  refine bind (compilerAt there) fun _ compiler _ within => ?_
  refine bind (observe (liveMapLength within.store)) fun _ _ _ _ => ?_
  exact listed (pure fun _ _ => .cons (.int _) (.cons (.int _) .nil))

theorem callOperand (known : Known extent value) :
    Keeps extent Known (Act.callOperand runner value) := by
  unfold Act.callOperand
  split
  · exact callClosure _
  · exact runEffect keeps _
  · exact silently (stopEffect _)
  · exact silently (stopEffectScope _)
  · cases known with
    | method _ owner => cases owner with | handle there => exact silently (clearStore keeps there)
  · cases known with
    | method _ owner => cases owner with | handle there => exact renderNow there
  · cases known with
    | method _ owner => cases owner with | handle there => exact silently (unmount there)
  · split
    · exact observe (call known .nil)
    · exact fail _

end Compiling

/-! ## Views -/

theorem environmentOr (known : Known extent value) :
    Keeps extent (fun large id => id < large.environments) (Act.environmentOr value) := by
  unfold Act.environmentOr
  split
  · cases known with
    | handle there => exact pure fun _ fits => Nat.lt_of_lt_of_le there fits.environments
  · exact newEnvironment .nil true
  · exact observe (unknown _ _)

theorem environmentOf (known : Known extent value) :
    Keeps extent (fun large id => id < large.environments) (Act.environmentOf value) := by
  unfold Act.environmentOf
  split
  · cases known with
    | handle there => exact pure fun _ fits => Nat.lt_of_lt_of_le there fits.environments
  · exact observe (unknown _ _)

theorem viewOf (known : Known extent value) :
    Keeps extent (fun large id => id < large.views) (Act.viewOf value) := by
  unfold Act.viewOf
  split
  · cases known with
    | handle there => exact pure fun _ fits => lt_of_fits_views there fits
  · exact observe (unknown _ _)

theorem mountOperands (keeps : runner.Keeps) {schema data environment : Value}
    (schemas : Known extent schema) (known : Known extent data)
    (environments : Known extent environment) (library : Value) :
    Keeps extent (fun large id => id < large.views)
      (Act.mountOperands runner schema data environment library) := by
  refine bind (environmentOr environments) fun _ _ f₁ there => ?_
  refine bind (libraryOf library) fun _ _ f₂ libraries => ?_
  exact mount keeps (Nat.lt_of_lt_of_le there f₂.environments) (schemas.mono (f₁.trans f₂))
    (known.mono (f₁.trans f₂)) libraries

theorem viewState (known : Known extent value) : Keeps extent Known (Act.viewState value) := by
  refine bind (viewOf known) fun _ _ f₁ there => ?_
  refine bind (viewAt there) fun _ view f₂ within => ?_
  refine bind (isMounted (lt_of_fits_views there f₂)) fun _ _ f₃ _ => ?_
  refine bind (observe (liveMapLength (Nat.lt_of_lt_of_le within.store f₃.liveMaps))) ?_
  intro _ _ f₄ _
  have known := known.mono ((f₁.trans f₂).trans (f₃.trans f₄))
  refine bind (observe (shown known)) fun _ _ _ _ => listed (pure fun _ _ => ?_)
  exact .cons (.bool _) (.cons (.int _) (.cons (.int _) (.cons (.int _) (.cons (.str _) .nil))))

theorem leak (known : Known extent value) (count : Value) :
    Keeps extent Known (Act.leak value count) := by
  refine bind (viewOf known) fun _ _ _ there => ?_
  refine bind (viewAt there) fun _ view _ _ => ?_
  refine bind (isChecked view) fun _ checked _ _ => observe (evaluatePass checked fun _ _ => ?_)
  exact Tandem.bind (Tandem.leaveFrames _) fun _ _ _ _ _ => Tandem.pure fun _ _ => .text "leaky"

/-! ## Global components -/

theorem registryMap (known : Known extent value) : Keeps extent Known (Act.registryMap value) := by
  refine bind (environmentOf known) fun _ _ _ there => ?_
  exact bind (componentsOf there) fun _ _ _ made => pure fun _ last =>
    .map (Nat.lt_of_lt_of_le made last.maps) (Shift.move_still _)

theorem changeRegistry (known : Known extent value) {change : MapId → Observe Unit}
    (each : ∀ large map, extent.Fits large → Keeps large Anything (change map)) :
    Keeps extent Anything (Act.changeRegistry value change) :=
  bind (environmentOf known) fun _ _ fits there =>
    changeComponents there fun _ _ more => each _ _ (fits.trans more)

theorem registryEntries (known : Known extent value) :
    Keeps extent Known (Act.registryEntries value) := by
  refine bind (registryMap known) fun _ map _ maps => ?_
  refine bind (listed (keysOf maps)) fun _ keys f₁ listedKeys => ?_
  refine bind (listed (pairsOf (maps.mono f₁))) fun _ entries f₂ listedEntries => ?_
  refine bind (observe (lengthOf (maps.mono (f₁.trans f₂)))) fun _ size f₃ _ => ?_
  exact listed (pure fun _ last => .cons (.int _) (.cons (listedKeys.mono (f₂.trans (f₃.trans last)))
    (.cons (listedEntries.mono (f₃.trans last)) .nil)))

/-! ## All operations -/

/-- An operation on what is there keeps the world whole and gives what is there. -/
theorem operate (keeps : runner.Keeps) (operation : Operation) (all : AllKnown extent operands) :
    Keeps extent Known (Act.operate runner operation operands) := by
  have a : Known extent (Act.operand operands 0) := AllKnown.getD all 0
  have b : Known extent (Act.operand operands 1) := AllKnown.getD all 1
  have c : Known extent (Act.operand operands 2) := AllKnown.getD all 2
  have d : Known extent (Act.operand operands 3) := AllKnown.getD all 3
  have given (place : Nat) : MaybeKnown extent operands[place]? := fun value found =>
    allKnown_iff.mp all value (List.mem_of_getElem? found)
  cases operation
  case same | isLive => exact pure fun _ _ => .bool _
  -- looks at values of any kind
  case equal => exact giving (equal a b) fun _ answer => .bool answer
  case add => exact observe (sum a b)
  case multiply => exact observe (mul a b)
  case less => exact giving (less a b) fun _ answer => .bool answer
  case shown => exact giving (shown a) fun _ text => .str text
  case text => exact giving (textOf a) fun _ text => .str text
  case truth => exact giving (isTrue a) fun _ answer => .bool answer
  case raw =>
    exact bind get fun _ _ fits held => pure fun _ more =>
      (toRaw (remembered held) (a.mono fits)).mono more
  -- new cells and containers
  case newRef => exact giving (newRef a) fun _ id => .ref id
  case makeLive => exact observe (makeLive a)
  case newLiveMap => exact observe (bind (newMap .nil) fun _ _ _ => makeLive)
  case newLiveList => exact observe (bind (newList .nil) fun _ _ _ => makeLive)
  -- cells
  case getRef => exact contentOf _
  case setRef => exact silently (setContent keeps _ a)
  case peekRef => exact peekContent _
  case subscriberCount => exact subscriberCount _
  -- looks at containers
  case «at» =>
    refine observe (getPath a (allKnown_iff.mpr fun item has => ?_))
    exact allKnown_iff.mp all item (List.mem_of_mem_tail has)
  case slice => exact observe (getSlice a b c d)
  case has => exact giving (contains b a) fun _ answer => .bool answer
  case length => exact giving (lengthOf a) fun _ length => .int length
  case list => exact listed (iterate a)
  case reversed => exact listed (reversedItems a)
  case keys => exact listed (keysOf a)
  case values => exact listed (valuesOf a)
  case entries => exact listed (pairsOf a)
  case get => exact observe (getEntry a b c)
  case indexOf => exact giving (firstPlace a b) fun _ place => .int place
  case count => exact giving (countOf a b) fun _ count => .int count
  -- writes to containers
  case set => exact silently (setItem keeps b c a)
  case delete => exact silently (deleteItem keeps a b)
  case setSlice => exact silently (setSlice keeps b _ _ a)
  case deleteSlice => exact silently (deleteSlice keeps a _ _)
  case update => exact silently (updateMap keeps a b)
  case pop => exact popItem keeps a (given 1) (given 2)
  case popEntry => exact popEntry keeps a
  case clear => exact silently (clear keeps a)
  case setDefault => exact setDefault keeps a b c
  case append => exact silently (append keeps a b)
  case insert => exact silently (insertItem keeps a _ c)
  case extend => exact silently (extend keeps a b)
  case extendInPlace => exact silently (extendInPlace keeps a b)
  case remove => exact silently (removeItem keeps a b)
  case reverse => exact silently (reverseItems keeps a)
  -- effects
  case runEffect => exact runHandle keeps _
  case stop => exact silently (stopHandle _)
  case effectState => exact effectState _
  case newEffectScope => exact bind newEffectScope fun _ _ _ _ => pure fun _ _ => .handle trivial
  case effectScopeState => exact effectScopeState a
  -- scopes
  case newScope => exact giving (newScope _) fun _ id => .scope id
  case newStore =>
    exact bind newStore fun _ _ _ there => pure fun _ fits =>
      known_store (Nat.lt_of_lt_of_le there fits.liveMaps)
  case bind => exact silently (bindValue keeps a _ c d)
  case storeGet => exact storedBindings a _
  case storeHas => exact isStored a b
  case chain =>
    exact bind (storeOf a) fun _ _ fits there => listed (scopeChain there _ (c.mono fits))
  case find =>
    exact bind (storeOf a) fun _ _ fits there => observe (findInScopes there _ (c.mono fits) _)
  case resolve =>
    exact bind (storeOf a) fun _ _ fits there =>
      bind (resolve keeps there _ (c.mono fits) _) fun _ cell _ _ => pure fun _ _ => .ref cell
  -- evaluation contexts
  case pushFrame =>
    exact bind (needContext _) fun _ _ fits _ => silently (observe (pushFrame (a.mono fits)))
  case contextState => exact contextState
  case lookup => exact lookupToken _
  case check =>
    exact observe (checkScope a _)
  -- compilers
  case newCompiler => exact recordingCompiler a _ _
  case newPlainCompiler => exact plainCompiler a
  case compile => exact compileOperand keeps a b
  case compileNode => exact compileNodeOperand keeps a b
  case compileAttributes => exact compileAttributesOperand keeps a b
  case compileCondition => exact compileConditionOperand keeps a b
  case compileExpression => exact compileSourceOperand keeps a _
  case parse => exact parseOperand keeps a b
  case call => exact callOperand keeps a
  case calls => exact takeCalls a
  case compilerState => exact compilerState a
  -- views
  case newEnvironment =>
    exact bind (entriesOperand _) fun _ _ _ entries => bind (newEnvironment entries _)
      fun _ _ _ made => pure fun _ last =>
        known_environment (Nat.lt_of_lt_of_le made last.environments)
  case defaultEnvironment =>
    exact bind defaultEnvironment fun _ _ _ chosen => pure fun _ last =>
      known_environment (Nat.lt_of_lt_of_le chosen last.environments)
  case renderOnce =>
    refine bind (environmentOr c) fun _ _ f₁ there => ?_
    refine bind (libraryOf _) fun _ _ f₂ libraries => ?_
    exact renderOnce keeps (Nat.lt_of_lt_of_le there f₂.environments) (a.mono (f₁.trans f₂))
      (b.mono (f₁.trans f₂)) libraries
  case viewData =>
    exact bind (viewOf a) fun _ _ _ there => bind (viewAt there) fun _ _ _ within =>
      pure fun _ last => within.data.mono last
  case viewOutput =>
    exact bind (viewOf a) fun _ _ _ there => bind (viewAt there) fun _ _ _ within =>
      pure fun _ last => within.output.mono last
  case html => exact giving (html a) fun _ text => .str text
  case viewRender => exact bind (viewOf a) fun _ _ _ there => renderNow there
  case setSchema =>
    exact bind (viewOf a) fun _ _ fits there =>
      silently (setSchema keeps there (b.mono fits))
  case getSchema =>
    exact bind (viewOf a) fun _ _ _ there => bind (viewAt there) fun _ _ _ _ =>
      observe (refPeek _)
  case viewState => exact viewState a
  case unmount => exact bind (viewOf a) fun _ _ _ there => silently (unmount there)
  case leak => exact leak a _
  -- global components
  case registrySet =>
    exact silently (changeRegistry a fun _ map fits => mapSet map (b.mono fits) (c.mono fits))
  case registryDelete => exact silently (changeRegistry a fun _ map _ => mapDelete map _)
  case registryAt =>
    exact bind (registryMap a) fun _ _ fits maps => observe (getItem maps (b.mono fits))
  case registryGet =>
    exact bind (registryMap a) fun _ _ fits maps =>
      observe (getEntry maps (b.mono fits) (c.mono fits))
  case registryHas =>
    exact bind (registryMap a) fun _ _ fits maps =>
      giving (contains maps (b.mono fits)) fun _ answer => .bool answer
  case registryUpdate =>
    exact silently (changeRegistry a fun _ map fits => mapUpdate map (b.mono fits))
  case registryEntries => exact registryEntries a
  case registryMap => exact registryMap a
  -- nodes
  case findAll => exact listed (findAll a b)
  case nodeText => exact observe (Tandem.keeps_value fun _ fits => Tandem.nodeText (a.mono fits))
  case nodeTypes => exact listed (nodeTypes a)

end Keeps

end ReactiveSchema
