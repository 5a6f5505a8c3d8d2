import ReactiveSchema.Script.Run

/-!
# Sessions

A session runs the steps of a program one by one from an empty world, and
reports on each: its value or fault, what was logged meanwhile, and the views
as they are then.
-/

namespace ReactiveSchema

/-- A mounted view: how often it was rendered and compiled, and its markup. -/
structure ViewReport where
  name : String
  renderCount : Nat
  compileCount : Nat
  markup : Datum

/-- What there is to say after a step. -/
structure StepReport where
  /-- The value, or the fault. -/
  outcome : Except Datum Datum
  /-- The entries that were logged, oldest first. -/
  entries : List (List Datum)
  views : List ViewReport

namespace Session

/-- The markup of a value, or the fault of writing it. -/
def reportMarkup (value : Value) (world : World) : Datum × World :=
  let (result, world) := (Act.observe (Observe.html value)).run world
  match result with
  | .ok text => (.str text, world)
  | .error fault => (world.memory.tellFault fault, world)

/-- Reports on views, in the order they were mounted. -/
def reportViews : List (String × ViewId) → World → List ViewReport × World
  | [], world => ([], world)
  | (name, id) :: rest, world =>
      match world.views[id]? with
      | none => reportViews rest world
      | some view =>
          let (markup, world) := reportMarkup view.output world
          let (reports, world) := reportViews rest world
          (⟨name, view.renderCount, view.compileCount, markup⟩ :: reports, world)

/--
What an action has come to.  A value that cannot be told is a fault of the
action; a fault that cannot be told ends the session.
-/
def outcomeOf (result : Except Fault Value) (memory : Memory) :
    Except Cause (Except Datum Datum) :=
  let told : Except Fault Datum := do
    let value ← result
    (memory.report value).mapError .failure
  match told with
  | .ok value => .ok (.ok value)
  | .error fault => (memory.reportFault fault).map .error

/-- Run one step. -/
def step (runner : Runner) (action : Action) (world : World) :
    Except Cause StepReport × World :=
  let (result, world) := (action.perform runner).run { world with entries := [] }
  match outcomeOf result world.memory with
  | .error cause => (.error cause, world)
  | .ok outcome =>
      let entries := world.entries.reverse.map fun entry => entry.map Datum.report
      let (views, world) := reportViews world.mounted world
      (.ok ⟨outcome, entries, views⟩, world)

/-- Run steps one after another. -/
def steps (runner : Runner) : List Action → World → Except Cause (List StepReport) × World
  | [], world => (.ok [], world)
  | action :: rest, world =>
      match step runner action world with
      | (.error cause, world) => (.error cause, world)
      | (.ok report, world) =>
          let (reports, world) := steps runner rest world
          (reports.map (report :: ·), world)

/--
Run a program from an empty world: the reports, or the failure that ended the
session, and the log records.
-/
def run (program : List Action) : Except Datum (List StepReport) × List String :=
  let (reports, world) := steps .standard program .empty
  (reports.mapError fun cause => .map (Fault.failure cause).heading,
    world.memory.logs.reverse)

end Session

end ReactiveSchema
