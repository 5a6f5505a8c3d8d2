import ReactiveSchema.World

/-!
# What can be seen of handled things

Effects, groups of effects, stores, views, environments and compilers live
beside memory.  A program may put them into data all the same, where paths
lead to their attributes and text shows their state.
-/

namespace ReactiveSchema

namespace Outlook

/-- Attributes that are methods. -/
def methods (names : List String) : List (String × Attribute) :=
  names.map fun name => (name, .method)

/-- The word for the state of something that is active or was ended. -/
def stateWord (active : Bool) (running ended : String) : String :=
  if active then running else ended

/-- What an effect calls when it runs. -/
def functionOf : Body → Value
  | .compile view => .method (.handle .view view) "_compile"
  | .render view => .method (.handle .view view) "_rerender"
  | _ => .other "function"

/-- The word for when an effect runs. -/
def timingWord : Timing → String
  | .pre => "pre"
  | .post => "post"

/-- An effect. -/
def ofEffect (effect : Effect Body) : Outlook where
  shown := "<Effect " ++ effect.body.name ++ " " ++
    stateWord effect.active "active" "stopped" ++ " runs=" ++ toString effect.runs ++ ">"
  size := none
  attributes :=
    [("active", .plain (.bool effect.active)),
      ("dependency_count", .plain (.int effect.deps.length)),
      ("flush", .plain (.str (timingWord effect.timing))),
      ("fn", .plain (functionOf effect.body)),
      ("runs", .plain (.int effect.runs))] ++ methods ["run", "stop"]

/-- A group of effects. -/
def ofGroup (group : EffectScope) : Outlook where
  shown := (unseen .effectScope).shown
  size := some group.effects.length
  attributes :=
    [("active", .plain (.bool group.active)),
      ("effects", .group (group.effects.map (.handle .effect)))] ++
      methods ["activate", "stop"]

/-- A store of bindings, whose size memory knows. -/
def ofStore : Outlook where
  shown := (unseen .store).shown
  size := none
  attributes := methods ["bind", "chain", "clear", "get"]

/-- A view, given whether it is mounted. -/
def ofView (view : View) (mounted : Bool) : Outlook where
  shown := "<SchemaView " ++ stateWord mounted "mounted" "unmounted" ++
    " renders=" ++ toString view.renderCount ++ ">"
  size := none
  attributes :=
    [("data", .plain view.data), ("output", .plain view.output),
      ("render_count", .plain (.int view.renderCount)),
      ("compile_count", .plain (.int view.compileCount)),
      ("schema", .content view.schema), ("store", .plain (.handle .store view.store)),
      ("mounted", .plain (.bool mounted))] ++ methods ["render", "subscribe", "unmount"]

/-- An environment. -/
def ofEnvironment (environment : Environment) : Outlook where
  shown := (unseen .environment).shown
  size := none
  attributes :=
    [("components", .plain (.other "ComponentRegistry")),
      ("debug", .plain (.bool environment.debug)),
      ("expressions", .plain (.other "ExpressionCompiler")),
      ("renderer", .plain (.other "VNodeRenderer"))] ++
      methods ["add_component", "compiler", "mount", "render"]

/-- A compiler. -/
def ofCompiler (compiler : Compiler) : Outlook where
  shown := (unseen .compiler).shown
  size := none
  attributes :=
    [("store", .plain (.handle .store compiler.store)),
      ("node_count", .plain (.int compiler.nodeCount))] ++
      methods ["compile", "compile_attrs", "compile_condition", "compile_conditional",
        "compile_expression", "compile_loop", "compile_node", "create_element", "parse"]

end Outlook

/-- What can be seen of a handled thing. -/
def outlookOf (reactor : Reactor Body) (views : Array View)
    (environments : Array Environment) (compilers : Array Compiler)
    (kind : HandleKind) (id : Nat) : Outlook :=
  let found : Option Outlook := match kind with
    | .effect => reactor.effects[id]?.map .ofEffect
    | .effectScope => reactor.scopes[id]?.map .ofGroup
    | .store => some .ofStore
    | .view => views[id]?.map fun view => .ofView view (reactor.isActive view.renderEffect)
    | .environment => environments[id]?.map .ofEnvironment
    | .compiler => compilers[id]?.map .ofCompiler
    | .closure => none
  found.getD (.unseen kind)

/-- What can be seen of the handled things of a world. -/
def World.outlook (world : World) : HandleKind → Nat → Outlook :=
  outlookOf world.reactor world.views world.environments world.compilers

end ReactiveSchema
