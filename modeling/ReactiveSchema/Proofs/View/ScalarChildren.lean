import ReactiveSchema.Proofs.View.LeafViews

/-!
# Scalars inside of elements

An element with a scalar inside is rendered once, given as a literal or by a token that the data
has the scalar for.  Both are written the same, but for zeros: as literals these are taken for
nothing inside.
-/

namespace ReactiveSchema

open Observe Text

variable {world : World} {tag : String} {value child : Value} {raw : MapId} {id : ViewId}
  {view : View} {text : Option String} {entries data : Entries Value}

/-! ## What a new view compiles -/

theorem compiler_compiling (world : World) (id : ViewId) (view : View) :
    (world.compilingLeaf id view).compilers[world.compilers.size]? =
      some ⟨view.data, world.memory.newSite.store, view.library, view.environment, none, [],
        1⟩ := by
  refine Array.getElem?_modify.trans ((if_pos rfl).trans ?_)
  exact (congrArg (Option.map _) Array.getElem?_push_size).trans rfl

theorem Posed.offers {name : String} (posed : Posed world view tag child entries)
    (given : entries.find? (.str name) = some value) (scalar : value.isScalar = true)
    (id : ViewId) : ∃ face, view.data = .liveMap face ∧
      (world.compilingLeaf id view).memory.Offers world.memory.newSite.store face name value := by
  obtain ⟨face, live, data, found, unread, held⟩ := posed.data
  refine ⟨face, data, ⟨_, Array.getElem?_push_size, rfl, Array.getElem?_push_size⟩, ?_, scalar⟩
  exact ⟨live, entries, begins_push _ _ _ _ found, unread, begins_push _ _ _ _ held, given⟩

theorem subscribersOf_compiling (settled : world.reactor.Settled world.memory.depCount)
    {dep : DepId} (inside : dep < world.memory.depCount) (id : ViewId) (view : View) :
    ((world.looking dep).compilingLeaf id view).reactor.subscribersOf
      ((world.looking dep).compilingLeaf id view).memory.depCount = [] := by
  have apart : world.memory.depCount + 1 ≠ dep := Nat.ne_of_gt (Nat.lt_succ_of_lt inside)
  exact (Reactor.subscribersOf_track_of_ne apart).trans (settled.unread (Nat.le_succ _))

/-- A new view compiles what is inside of its element to what comes to a text. -/
def MountsTo (runner : Runner) (tag : String) (child : Value) (entries : Entries Value)
    (text : Option String) : Prop :=
  ∀ (world : World) (id : ViewId) (view : View) (dep : DepId),
    world.reactor.Settled world.memory.depCount → Posed world view tag child entries →
      dep < world.memory.depCount → Act.CompilesTo runner world.compilers.size tag child view.root
        text ((world.looking dep).compilingLeaf id view)

theorem mountsTo_of_literal (scalar : child.isScalar = true) (plain : child.isDynamic = false)
    (runner : Runner) (tag : String) (entries : Entries Value) :
    MountsTo runner tag child entries child.literalText? := by
  intro world id view dep _ _ _
  exact Act.compilesTo_literal runner rfl rfl (compiler_compiling (world.looking dep) id view) rfl
    scalar plain tag view.root

theorem mountsTo_of_token (given : entries.find? (.str "x") = some value)
    (scalar : value.isScalar = true) (limit nesting : Nat) (tag : String) :
    MountsTo (.bounded limit (nesting + 1)) tag (.str "$x") entries value.outputText? := by
  intro world id view dep settled posed inside
  obtain ⟨face, data, offers⟩ := ((posed.withReactor _).withReactor _).offers given scalar id
  obtain ⟨closure, rooted, root, -, -⟩ := posed.root
  exact Act.compilesTo_token limit nesting rfl rfl
    (compiler_compiling (world.looking dep) id view) rfl data offers
    (subscribersOf_compiling settled inside id view) tag (Array.getElem?_eq_some_iff.mp root).1

/-! ## Rendering once -/

/-- The world with one more map in memory. -/
def World.withMap (world : World) (entries : Entries Value) : World :=
  world.withMemory { world.memory with maps := world.memory.maps.push entries }.settled

/-- A new view has what it looks at. -/
theorem posed_mounting {memory : Memory} {face : LiveMapId} {live : LiveMap} (world : World)
    (environment : EnvironmentId) (library : List (String × Value)) (raw : MapId)
    (schema : memory.maps[raw]? = some (rawLeaf tag child))
    (found : memory.liveMaps[face]? = some live) (unread : live.deps = [])
    (given : memory.maps[live.raw]? = some entries) :
    Posed (world.mounting memory environment library (.liveMap face) (.map raw))
      ((View.new environment library (.liveMap face) memory (.map raw)).compiledBy
        world.reactor.effects.size) tag child entries where
  rest := rfl
  unheard := rfl
  schema := ⟨raw, memory.depCount, begins_push _ _ _ _ Array.getElem?_push_size,
    begins_push _ _ _ _ schema⟩
  root := by
    refine ⟨world.closures.size, memory.depCount + 1, Array.getElem?_push_size, ?_, ?_⟩
    · exact Nat.lt_of_lt_of_eq (Nat.lt_succ_self _) (Array.size_push ..).symm
    · exact Nat.lt_succ_of_lt (Nat.lt_succ_self _)
  data := ⟨face, live, rfl, begins_push _ _ _ _ found, unread, begins_push _ _ _ _ given⟩

namespace Act

/-- Markup of an element with something inside that is rendered once with data. -/
def renderedOnce (runner : Runner) (environment : EnvironmentId) (tag : String) (child : Value)
    (entries : Entries Value) : Act String := do
  let schema ← observe (newMap (rawLeaf tag child))
  let data ← observe (newMap entries)
  let output ← renderOnce runner environment schema data []
  observe (html output)

theorem run_newMap (calm : world.reactor.activeEffect = none) (entries : Entries Value) :
    (observe (newMap entries)).run world =
      (.ok (.map world.memory.maps.size), world.withMap entries) := by
  rw [run_observe_calm _ calm]
  rfl

theorem run_makeLive_map (calm : world.reactor.activeEffect = none) (raw : MapId) :
    (observe (makeLive (.map raw))).run world = (.ok (.liveMap world.memory.liveMaps.size),
      world.withMemory (world.memory.newFace (.map raw)).2.settled) := by
  rw [run_observe_calm _ calm, Observe.run_makeLive]
  rfl

theorem concludes_renderOnce_leaf {limit nesting : Nat} {data : MapId}
    (settled : world.reactor.Settled world.memory.depCount)
    (calm : world.reactor.activeEffect = none) (environment : EnvironmentId)
    (schema : world.memory.maps[raw]? = some (rawLeaf tag child))
    (given : world.memory.maps[data]? = some entries) (named : tag.isEmpty = false)
    (other : tag ≠ textTag)
    (compiles : MountsTo (.bounded limit nesting) tag child entries text) :
    Concludes (Unwritten text) (fun value after => ∃ written node, text = some written ∧
      value = .node node ∧ after.memory.HoldsLeaf node tag written)
        ((renderOnce (.bounded limit (nesting + 1)) environment (.map raw) (.map data) []).run
          world) := by
  have grown : Memory.Grows world.memory (world.memory.newFace (.map data)).2.settled :=
    (Memory.grows_newFace world.memory (.map data)).trans (Memory.grows_settled _)
  have kept : (world.memory.newFace (.map data)).2.settled.maps[raw]? = some (rawLeaf tag child) :=
    schema
  have face : (world.memory.newFace (.map data)).2.settled.liveMaps[world.memory.liveMaps.size]? =
      some ⟨data, [], world.memory.depCount, []⟩ := Array.getElem?_push_size
  have posed := posed_mounting world environment [] raw kept face rfl given
  have made := made_mounting grown environment [] (.liveMap world.memory.liveMaps.size) (.map raw)
  have mounted : (mount (.bounded limit (nesting + 1)) environment (.map raw) (.map data) []).run
      world = _ :=
    run_mount_live (.map data) calm (run_makeLive_map calm data) environment (.map raw) []
  generalize world.mounting (world.memory.newFace (.map data)).2.settled environment []
    (.liveMap world.memory.liveMaps.size) (.map raw) = begun at mounted made posed
  have ready := begun_of_made settled made
  have ends := concludes_bringUp_leaf settled made posed named other fun dep inside =>
    compiles (begun.begun world.reactor.effects.size) world.views.size _ dep ready.settled
      ((posed.withReactor _).withReactor _) inside
  rw [← mounted] at ends
  unfold renderOnce
  refine ends.bind ?_
  rintro _ last ⟨rfl, view, written, node, found, output, same, holds⟩
  rw [run_bind_of_ok (run_viewAt found), run_bind_of_ok (run_unmount found), output]
  exact .well ⟨written, node, same, rfl, holds⟩

theorem concludes_renderedOnce {limit nesting : Nat}
    (settled : world.reactor.Settled world.memory.depCount)
    (calm : world.reactor.activeEffect = none) (environment : EnvironmentId)
    (named : tag.isEmpty = false) (other : tag ≠ textTag)
    (compiles : MountsTo (.bounded limit nesting) tag child entries text) :
    Concludes (Unwritten text) (fun value _ => ∃ written, text = some written ∧
      value = leafMarkup tag written)
        ((renderedOnce (.bounded limit (nesting + 1)) environment tag child entries).run
          world) := by
  have schema := run_newMap calm (rawLeaf tag child)
  generalize made : world.withMap (rawLeaf tag child) = middle at schema
  have quiet : middle.reactor.activeEffect = none := made ▸ calm
  have filled := run_newMap quiet entries
  generalize full : middle.withMap entries = last at filled
  have ready : last.reactor.Settled last.memory.depCount := by
    rw [← full, ← made]
    exact ⟨settled.preQueue, settled.postQueue, settled.known⟩
  have kept : last.memory.maps[world.memory.maps.size]? = some (rawLeaf tag child) := by
    rw [← full, ← made]
    exact begins_push _ _ _ _ Array.getElem?_push_size
  have given : last.memory.maps[middle.memory.maps.size]? = some entries := by
    rw [← full]
    exact Array.getElem?_push_size
  have still : last.reactor.activeEffect = none := full ▸ quiet
  unfold renderedOnce
  rw [run_bind_of_ok schema, run_bind_of_ok filled]
  refine (concludes_renderOnce_leaf ready still environment kept given named other compiles).bind ?_
  rintro _ last ⟨written, node, same, rfl, holds⟩
  have seen : (last.memory.seeing last.outlook).HoldsLeaf node tag written := holds
  rw [run_observe, gives_html_leaf seen]
  exact .well ⟨written, same, rfl⟩

end Act

/-- What an element with a text inside is written as, or the failure of writing the text. -/
def leafOutcome (tag : String) : Option String → Except Fault String
  | some text => .ok (leafMarkup tag text)
  | none => .error (.failure .tooManyDigits)

theorem renderedOnce_eq {limit nesting : Nat}
    (settled : world.reactor.Settled world.memory.depCount)
    (calm : world.reactor.activeEffect = none) (environment : EnvironmentId)
    (named : tag.isEmpty = false) (other : tag ≠ textTag)
    (compiles : MountsTo (.bounded limit nesting) tag child entries text) :
    ((Act.renderedOnce (.bounded limit (nesting + 1)) environment tag child entries).run world).1 =
      leafOutcome tag text := by
  have ends := Act.concludes_renderedOnce settled calm environment named other compiles
  generalize (Act.renderedOnce (.bounded limit (nesting + 1)) environment tag child entries).run
    world = ran at ends
  cases ends with
  | well holds =>
      obtain ⟨written, rfl, rfl⟩ := holds
      rfl
  | badly unwritten =>
      obtain ⟨rfl, rfl⟩ := unwritten
      rfl

/--
An element with a scalar inside is rendered once while no effect runs or waits: with the token
inside whose value in the data is the scalar, and, whatever the data is, with the scalar itself,
which is no expression.  The former is written with the text of the scalar, or fails to write a
number of too many digits.  So is the latter, unless the scalar is a zero, which is left out.
-/
theorem literal_renders_as_data {limit nesting : Nat} {environment : EnvironmentId}
    (settled : world.reactor.Settled world.memory.depCount)
    (calm : world.reactor.activeEffect = none) (named : tag.isEmpty = false)
    (other : tag ≠ textTag) (scalar : value.isScalar = true) (plain : value.isDynamic = false)
    (given : data.find? (.str "x") = some value) :
    ((Act.renderedOnce (.bounded limit (nesting + 2)) environment tag (.str "$x") data).run
      world).1 = leafOutcome tag value.outputText? ∧
    ((Act.renderedOnce (.bounded limit (nesting + 2)) environment tag value entries).run world).1 =
      if value.isZero then .ok (leafMarkup tag "") else leafOutcome tag value.outputText? := by
  constructor
  · exact renderedOnce_eq settled calm environment named other
      (mountsTo_of_token given scalar limit nesting tag)
  · have literal : leafOutcome tag value.literalText? =
        if value.isZero then .ok (leafMarkup tag "") else leafOutcome tag value.outputText? := by
      unfold Value.literalText?
      split <;> rfl
    rw [← literal]
    exact renderedOnce_eq settled calm environment named other
      (mountsTo_of_literal scalar plain _ tag entries)

/-- A world with an environment and nothing else. -/
def blankWorld : World :=
  ((Act.newEnvironment [] true).run .empty).2

theorem literal_renders_as_data_zero :
    ((Act.renderedOnce (.bounded 8 2) 0 "p" (.str "$x") [(.str "x", .int 0)]).run blankWorld).1 =
      .ok "<p>0</p>" ∧
    ((Act.renderedOnce (.bounded 8 2) 0 "p" (.int 0) []).run blankWorld).1 = .ok "<p></p>" := by
  have settled : blankWorld.reactor.Settled blankWorld.memory.depCount := ⟨rfl, rfl, nofun⟩
  have named : "p".isEmpty = false := by decide
  have other : "p" ≠ textTag := by decide
  have zero : (Value.int 0).outputText? = some "0" := by decide +kernel
  have full : leafMarkup "p" "0" = "<p>0</p>" := by decide +kernel
  have bare : leafMarkup "p" "" = "<p></p>" := by decide +kernel
  obtain ⟨dynamic, literal⟩ := @literal_renders_as_data blankWorld "p" (.int 0) []
    [(.str "x", .int 0)] 8 0 0 settled rfl named other rfl rfl rfl
  rw [zero] at dynamic
  exact ⟨dynamic.trans (congrArg Except.ok full),
    (literal.trans (if_pos rfl)).trans (congrArg Except.ok bare)⟩

end ReactiveSchema
