import ReactiveSchema.Proofs.Observe.Reports

/-!
# Failing within a pass

Running a part of a schema leads to the expressions in it, through loops inside loops, each with
the frames of the iterations around it.  Where one of them fails, so do all parts around it, with
the report that was made in those frames, though they are closed by the time it gets out.
-/

namespace ReactiveSchema

open Observe

/-- Memory in the pass that is under way, or else in a new one. -/
def Memory.inSomePass (memory : Memory) : Memory :=
  match memory.context with
  | some _ => memory
  | none => memory.inPass (some .fresh)

/-- Memory with one more frame open. -/
def Memory.inFrame (memory : Memory) (bindings : Value) : Memory :=
  memory.inPass (memory.context.map (·.inside bindings))

namespace Thunk

/--
Running a part from one memory comes to evaluating an expression in it in another one.  `opened`
are the frames that are opened on the way, innermost first.
-/
inductive Reaches : List Value → Thunk → Memory → BoundExpression → Memory → Prop where
  | here (bound : BoundExpression) (memory : Memory) :
      Reaches [] (.expression bound) memory bound memory
  | text {opened : List Value} {part : Thunk} {memory inner : Memory} {bound : BoundExpression} :
      Reaches opened part memory bound inner → Reaches opened (.text part) memory bound inner
  | slot {opened : List Value} {early late : List (Value × Thunk)} {key : Value} {part : Thunk}
      {memory middle inner : Memory} {bound : BoundExpression} {entries : Entries Value} :
      (run.runSlots early).run memory = (.ok entries, middle) →
        Reaches opened part middle bound inner →
          Reaches opened (.attributes (early ++ (key, part) :: late)) memory bound inner
  | condition {opened : List Value} {condition body otherwise : Thunk} {memory inner : Memory}
      {bound : BoundExpression} : Reaches opened condition memory bound inner →
        Reaches opened (.choose condition body otherwise) memory bound inner
  | chosen {opened : List Value} {condition body otherwise : Thunk}
      {memory middle inner : Memory} {bound : BoundExpression} {value : Value} :
      condition.run.run memory = (.ok value, middle) →
        Reaches opened (if value.isTruthy then body else otherwise) middle bound inner →
          Reaches opened (.choose condition body otherwise) memory bound inner
  | item {opened : List Value} {early late : List Thunk} {part : Thunk}
      {memory middle inner : Memory} {bound : BoundExpression} {values : List Value} :
      (run.runAll early).run memory = (.ok values, middle) →
        Reaches opened part middle bound inner →
          Reaches opened (.all (early ++ part :: late)) memory bound inner
  | content {opened : List Value} {recorder : Recorder} {content : Thunk}
      {memory inner : Memory} {bound : BoundExpression} :
      Reaches opened content memory bound inner →
        Reaches opened (.textNode recorder content) memory bound inner
  | properties {opened : List Value} {recorder : Recorder} {type : Value}
      {properties children : Thunk} {memory inner : Memory} {bound : BoundExpression} :
      Reaches opened properties memory bound inner →
        Reaches opened (.node recorder type properties children) memory bound inner
  | children {opened : List Value} {recorder : Recorder} {type value : Value}
      {properties children : Thunk} {memory middle inner : Memory} {bound : BoundExpression} :
      properties.run.run memory = (.ok value, middle) →
        Reaches opened children middle bound inner →
          Reaches opened (.node recorder type properties children) memory bound inner
  /-- What a loop goes over. -/
  | source {opened : List Value} {values body : Thunk} {valueName : String}
      {keyName : Option String} {memory inner : Memory} {bound : BoundExpression} :
      Reaches opened values memory.inSomePass bound inner →
        Reaches opened (.repeated values valueName keyName body) memory bound inner
  /-- The body of a loop, in the iteration after some others. -/
  | iteration {opened : List Value} {values body : Thunk} {valueName : String}
      {keyName : Option String} {memory given paired before framed inner : Memory}
      {bound : BoundExpression} {value key item frame : Value}
      {early late : List (Value × Value)} {rendered : List Value} :
      values.run.run memory.inSomePass = (.ok value, given) →
        (iterationPairs value).run given = (.ok (early ++ (key, item) :: late), paired) →
          (iterateFrames valueName keyName body.run early).run paired = (.ok rendered, before) →
            (iterationFrame valueName keyName key item).run before = (.ok frame, framed) →
              Reaches opened body (framed.inFrame frame) bound inner →
                Reaches (opened ++ [frame]) (.repeated values valueName keyName body) memory bound
                  inner

/-- The body of a loop, in its first iteration. -/
theorem Reaches.first {opened : List Value} {values body : Thunk} {valueName : String}
    {keyName : Option String} {memory given paired framed inner : Memory}
    {bound : BoundExpression} {value key item frame : Value} {late : List (Value × Value)}
    (inside : Reaches opened body (framed.inFrame frame) bound inner)
    (came : values.run.run memory.inSomePass = (.ok value, given))
    (pairs : (iterationPairs value).run given = (.ok ((key, item) :: late), paired))
    (opens : (iterationFrame valueName keyName key item).run paired = (.ok frame, framed)) :
    Reaches (opened ++ [frame]) (.repeated values valueName keyName body) memory bound inner := by
  rw [← List.nil_append ((key, item) :: late)] at pairs
  exact .iteration came pairs rfl opens inside

end Thunk

/-! ## What fails along with its parts -/

section Failing

variable {memory middle after : Memory} {fault : Fault}

theorem run_bind_error {σ α β : Type} {first : ExceptT Fault (StateM σ) α}
    {next : α → ExceptT Fault (StateM σ) β} {state last : σ}
    (failed : first.run state = (.error fault, last)) :
    (first >>= next).run state = (.error fault, last) := by
  rw [run_bind, failed]

theorem Thunk.run_runAll_of_fails {early late : List Thunk} {part : Thunk} {values : List Value}
    (begun : (run.runAll early).run memory = (.ok values, middle))
    (failed : part.run.run middle = (.error fault, after)) :
    (run.runAll (early ++ part :: late)).run memory = (.error fault, after) := by
  induction early generalizing memory values with
  | nil =>
      cases begun
      exact run_bind_error failed
  | cons first early ih =>
      obtain ⟨value, between, ran, begun⟩ := run_bind_ok begun
      obtain ⟨others, last, ended, done⟩ := run_bind_ok begun
      cases done
      exact (run_bind_of_ok ran).trans (run_bind_error (ih ended))

theorem Thunk.run_runSlots_of_fails {early late : List (Value × Thunk)} {key : Value}
    {part : Thunk} {entries : Entries Value}
    (begun : (run.runSlots early).run memory = (.ok entries, middle))
    (failed : part.run.run middle = (.error fault, after)) :
    (run.runSlots (early ++ (key, part) :: late)).run memory = (.error fault, after) := by
  induction early generalizing memory entries with
  | nil =>
      cases begun
      exact run_bind_error failed
  | cons first early ih =>
      obtain ⟨value, between, ran, begun⟩ := run_bind_ok begun
      obtain ⟨others, last, ended, done⟩ := run_bind_ok begun
      cases done
      exact (run_bind_of_ok ran).trans (run_bind_error (ih ended))

/-- A body fails in a frame, which is closed. -/
theorem Observe.run_withFrame_of_fails {frame : Value} {body : Observe Value}
    (balanced : body.IsBalanced) (failed : body.run (memory.inFrame frame) = (.error fault, after)) :
    ∃ last, (withFrame frame body).run memory = (.error fault, last) := by
  obtain ⟨last, ran, -⟩ := run_withFrame frame balanced memory
  rw [← Memory.inFrame, failed] at ran
  exact ⟨last, ran⟩

theorem Observe.run_iterateFrames_of_fails {valueName : String} {keyName : Option String}
    {body : Observe Value} (balanced : body.IsBalanced) {early late : List (Value × Value)}
    {key item frame : Value} {rendered : List Value} {framed : Memory}
    (begun : (iterateFrames valueName keyName body early).run memory = (.ok rendered, middle))
    (opened : (iterationFrame valueName keyName key item).run middle = (.ok frame, framed))
    (failed : body.run (framed.inFrame frame) = (.error fault, after)) :
    ∃ last, (iterateFrames valueName keyName body (early ++ (key, item) :: late)).run memory =
      (.error fault, last) := by
  induction early generalizing memory rendered with
  | nil =>
      cases begun
      obtain ⟨last, ran⟩ := run_withFrame_of_fails balanced failed
      exact ⟨last, (run_bind_of_ok opened).trans (run_bind_error ran)⟩
  | cons first early ih =>
      obtain ⟨own, between, ran, begun⟩ := run_bind_ok begun
      obtain ⟨value, still, inside, begun⟩ := run_bind_ok begun
      obtain ⟨others, last, ended, done⟩ := run_bind_ok begun
      cases done
      obtain ⟨last, stopped⟩ := ih ended
      exact ⟨last, (run_bind_of_ok ran).trans ((run_bind_of_ok inside).trans
        (run_bind_error stopped))⟩

theorem Observe.run_withSomeContext_of_fails {body : Observe Value}
    (failed : body.run memory.inSomePass = (.error fault, after)) :
    ∃ last, (withSomeContext body).run memory = (.error fault, last) := by
  unfold withSomeContext
  rw [run_bind_of_ok (run_context? memory)]
  unfold Memory.inSomePass at failed
  cases pass : memory.context with
  | none =>
      rw [pass] at failed
      dsimp only
      rw [run_withFreshContext, failed]
      exact ⟨_, rfl⟩
  | some context =>
      rw [pass] at failed
      exact ⟨after, failed⟩

end Failing

namespace Thunk.Reaches

variable {opened : List Value} {part : Thunk} {bound : BoundExpression}
  {memory inner after : Memory} {fault : Fault}

/-- A part fails as an expression does that running it leads to. -/
theorem fails (reached : Reaches opened part memory bound inner)
    (failed : bound.evaluate.run inner = (.error fault, after)) :
    ∃ last, part.run.run memory = (.error fault, last) := by
  induction reached with
  | here => exact ⟨after, failed⟩
  | text _ ih =>
      obtain ⟨last, ran⟩ := ih failed
      exact ⟨last, run_bind_error ran⟩
  | slot begun _ ih =>
      obtain ⟨last, ran⟩ := ih failed
      exact ⟨last, run_bind_error (run_runSlots_of_fails begun ran)⟩
  | condition _ ih =>
      obtain ⟨last, ran⟩ := ih failed
      exact ⟨last, run_bind_error ran⟩
  | @chosen _ _ _ _ _ _ _ _ value begun _ ih =>
      obtain ⟨last, ran⟩ := ih failed
      refine ⟨last, (run_bind_of_ok begun).trans ?_⟩
      rw [← ran]
      cases value.isTruthy <;> rfl
  | item begun _ ih =>
      obtain ⟨last, ran⟩ := ih failed
      exact ⟨last, run_bind_error (run_runAll_of_fails begun ran)⟩
  | content _ ih =>
      obtain ⟨last, ran⟩ := ih failed
      exact ⟨last, run_bind_error ran⟩
  | properties _ ih =>
      obtain ⟨last, ran⟩ := ih failed
      exact ⟨last, run_bind_error ran⟩
  | children begun _ ih =>
      obtain ⟨last, ran⟩ := ih failed
      exact ⟨last, (run_bind_of_ok begun).trans (run_bind_error ran)⟩
  | source _ ih =>
      obtain ⟨last, ran⟩ := ih failed
      exact run_withSomeContext_of_fails (run_bind_error ran)
  | @iteration _ _ body _ _ _ _ _ _ _ _ _ _ _ _ _ _ _ _ given paired rendered framed _ ih =>
      obtain ⟨last, ran⟩ := ih failed
      obtain ⟨last, ran⟩ := run_iterateFrames_of_fails body.balanced_run rendered framed ran
      exact run_withSomeContext_of_fails ((run_bind_of_ok given).trans
        ((run_bind_of_ok paired).trans (run_bind_error ran)))

/-- The frames that an expression is evaluated in are those around it, and those opened since. -/
theorem frames {outer : List Value} (reached : Reaches opened part memory bound inner)
    (pass : memory.context.map (·.frames) = some outer) :
    inner.context.map (·.frames) = some (opened ++ outer) := by
  have kept {α : Type} {look : Observe α} {before between : Memory} {value : α}
      {around : List Value} (balanced : look.IsBalanced)
      (ran : look.run before = (.ok value, between))
      (known : before.context.map (·.frames) = some around) :
      between.context.map (·.frames) = some around := by
    have same := (balanced before trivial).along.frames
    rw [ran] at same
    exact same.trans known
  have going {memory : Memory} {around : List Value}
      (known : memory.context.map (·.frames) = some around) : memory.inSomePass = memory := by
    unfold Memory.inSomePass
    obtain ⟨context, same, -⟩ := Option.map_eq_some_iff.mp known
    rw [same]
  induction reached generalizing outer with
  | here => exact pass
  | text _ ih => exact ih pass
  | slot begun _ ih => exact ih (kept (balanced_runSlots _) begun pass)
  | condition _ ih => exact ih pass
  | chosen begun _ ih => exact ih (kept (balanced_run _) begun pass)
  | item begun _ ih => exact ih (kept (balanced_runAll _) begun pass)
  | content _ ih => exact ih pass
  | properties _ ih => exact ih pass
  | children begun _ ih => exact ih (kept (balanced_run _) begun pass)
  | source _ ih =>
      rw [going pass] at ih
      exact ih pass
  | @iteration _ _ _ _ _ _ _ _ _ framed _ _ _ _ _ frame _ _ _ given paired rendered opening _ ih =>
      rw [going pass] at given
      have known := kept (balanced_run _) given pass
      have known := kept (looks_balanced.iterationPairs _) paired known
      have known := kept (balanced_iterateFrames _ _ (balanced_run _) _) rendered known
      have known := kept (looks_balanced.iterationFrame _ _ _ _) opening known
      have inside : (framed.inFrame frame).context.map (·.frames) = some (frame :: outer) := by
        obtain ⟨context, same, rfl⟩ := Option.map_eq_some_iff.mp known
        unfold Memory.inFrame Memory.inPass
        rw [same]
        rfl
      rw [List.append_assoc]
      exact ih inside

end Thunk.Reaches

theorem BoundExpression.grows_token (bound : BoundExpression) (index : Nat) :
    Along Memory.Grows (bound.token index) := by
  unfold token
  split
  · exact looks_grows.bind (looks_grows.refGet _) fun value => looks_grows.checkScope value _
  · exact looks_grows.pure _

/--
Wherever an expression fails in a render pass, however deep in loops inside loops, the pass fails,
with its own context closed.  What gets out is the fault itself, if it is one of the library, and
else the report of the failure: the source, and every token in order with what it gives in the
frames that were open around the expression, with nothing gone or changed since.  Only where a
token gives a whole number that cannot be written the failure of that gets out instead.
-/
theorem failing_expression_reported {opened : List Value} {part : Thunk} {start inner after : Memory}
    {bound : BoundExpression} {fault : Fault} (checked : Bool)
    (reached : part.Reaches opened (start.inPass (some .fresh)) bound inner)
    (failed : (bound.expression.body.evaluate bound.token).run inner = (.error fault, after)) :
    ∃ reported last, (evaluatePass checked part.run).run start = (.error reported, last) ∧
      last.context = start.context ∧ inner.context.map (·.frames) = some opened ∧
        Reports bound.expression bound.token inner fault reported := by
  obtain ⟨reported, last, ended, reports⟩ :=
    Expression.run_evaluate_of_fails bound.grows_token (balanced_token bound) failed
  obtain ⟨last, ran⟩ := reached.fails ended
  refine ⟨reported, last.inPass start.context, ?_, rfl, ?_, reports⟩
  · refine run_bind_error ?_
    rw [run_withFreshContext, run_bind_error ran]
  · have within := @Thunk.Reaches.frames _ _ _ _ _ [] reached rfl
    rwa [List.append_nil] at within

/-- A token and nothing cannot be added. -/
def plusNull : BoundExpression :=
  ⟨⟨"$x + null", ["x"], .arith .add (.token 0) (.constant .none)⟩, [0]⟩

/-- Memory with the cell of one token, which holds nothing. -/
def Memory.oneCell : Memory := { empty with refs := #[⟨.none, 0⟩] }

/-- A text that a failing expression gives, for each of the items, within another loop. -/
def nestedLoops (items : List Value) : Thunk :=
  .repeated (.constant (.tuple [.str "a"])) "y" none
    (.repeated (.constant (.tuple items)) "x" none (.textNode none (.expression plusNull)))

/-- The memory in the body of the outer loop. -/
def withinLoop : Memory :=
  { Memory.oneCell.inPass (some .fresh) with maps := #[[(.str "y", .str "a")]] }.inFrame (.map 0)

/-- The memory in the body of the inner loop, at its first item. -/
def withinLoops (item : Value) : Memory :=
  { withinLoop with maps := withinLoop.maps.push [(.str "x", item)] }.inFrame (.map 1)

theorem reaches_nestedLoops (item : Value) (late : List Value) :
    (nestedLoops (item :: late)).Reaches ([.map 1] ++ [.map 0])
      (Memory.oneCell.inPass (some .fresh)) plusNull (withinLoops item) := by
  have content : Thunk.Reaches [] (.textNode none (.expression plusNull)) (withinLoops item)
    plusNull (withinLoops item) := .content (.here _ _)
  have within : Thunk.Reaches ([] ++ [.map 1]) (.repeated (.constant (.tuple (item :: late))) "x"
    none (.textNode none (.expression plusNull))) withinLoop plusNull (withinLoops item) :=
    .first content rfl rfl rfl
  exact .first within rfl rfl rfl

theorem failing_expression_reported_nested :
    ∃ reported last, (evaluatePass true (nestedLoops [.int 1]).run).run .oneCell =
        (.error reported, last) ∧
      Reports plusNull.expression plusNull.token (withinLoops (.int 1))
        (.failure (.unsupportedOperands "+" "int" "NoneType")) reported := by
  have fails : ∃ after,
      (plusNull.expression.body.evaluate plusNull.token).run (withinLoops (.int 1)) =
        (.error (.failure (.unsupportedOperands "+" "int" "NoneType")), after) := ⟨_, rfl⟩
  obtain ⟨after, failed⟩ := fails
  obtain ⟨reported, last, ran, -, -, reports⟩ :=
    failing_expression_reported true (reaches_nestedLoops (.int 1) []) failed
  exact ⟨reported, last, ran, reports⟩

-- What cannot be written takes the place of the report.
example : (match ((evaluatePass true (nestedLoops [.int (10 ^ 5000)]).run).run .oneCell).1 with
    | .error (.failure cause) => some cause
    | _ => none) = some .tooManyDigits := by
  decide +kernel

end ReactiveSchema
