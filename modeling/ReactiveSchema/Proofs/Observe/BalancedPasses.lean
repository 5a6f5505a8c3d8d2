import ReactiveSchema.Proofs.Observe.Balanced

/-!
# Balanced passes

What is put on the stack of frames is what is taken off, so no iteration is out of order and
no render pass leaves a frame behind, wherever the parts of a schema fail.
-/

namespace ReactiveSchema

/-- A pass with one more frame, at which it is at least so deep. -/
def EvaluationContext.inside (bindings : Value) (context : EvaluationContext) :
    EvaluationContext :=
  ⟨bindings :: context.frames, max context.maxDepth (context.frames.length + 1)⟩

/-- Memory with another pass under way. -/
def Memory.inPass (memory : Memory) (context : Option EvaluationContext) : Memory :=
  { memory with context }

namespace Observe

variable {α : Type}

/-! ## Frames -/

theorem run_setContext (context : Option EvaluationContext) (memory : Memory) :
    (setContext context).run memory = (.ok (), memory.inPass context) := rfl

theorem run_context? (memory : Memory) :
    context?.run memory = (.ok memory.context, memory) := rfl

theorem run_frameDepth (memory : Memory) :
    frameDepth.run memory =
      (.ok ((memory.context.map (·.frames.length)).getD 0), memory) := rfl

/-- A frame is opened. -/
theorem run_openFrame (bindings : Value) (memory : Memory) :
    (do pushFrame bindings; noteDepth : Observe Unit).run memory =
      (.ok (), memory.inPass (memory.context.map (·.inside bindings))) := by
  cases memory with
  | mk _ _ _ _ _ _ _ _ _ _ _ context =>
      cases context with
      | none => rfl
      | some context => rfl

/-- A frame is closed in the pass that it was opened in. -/
theorem run_popFrame {bindings : Value} {memory after : Memory}
    (same : SamePass (memory.context.map (·.inside bindings)) after.context) :
    ∃ context, SamePass memory.context context ∧
      (popFrame bindings ((memory.context.map (·.frames.length)).getD 0)).run after =
        (.ok (), after.inPass context) := by
  unfold popFrame
  rw [run_bind_of_ok (run_context? after)]
  cases pass : memory.context with
  | none =>
      rw [pass] at same
      cases last : after.context with
      | some context =>
          rw [last] at same
          cases same
      | none =>
          refine ⟨none, .none, ?_⟩
          cases after
          cases last
          rfl
  | some context =>
      rw [pass] at same
      cases last : after.context with
      | none =>
          rw [last] at same
          cases same
      | some deepest =>
          rw [last] at same
          cases same with
          | @some _ _ deepest deeper =>
              refine ⟨some ⟨context.frames, deepest⟩, .some context.frames
                (Nat.le_trans (Nat.le_max_left _ _) deeper), ?_⟩
              have top : (bindings.identical bindings &&
                  context.frames.length == context.frames.length) = true := by
                rw [bindings.identical_self, beq_self_eq_true, Bool.and_self]
              dsimp only [Option.map_some, Option.getD_some]
              rw [run_bind, if_pos top]
              rfl

/-- A frame is closed on every way out of its iteration. -/
theorem run_withFrame (bindings : Value) {body : Observe α} (each : IsBalanced body)
    (memory : Memory) :
    ∃ last, (withFrame bindings body).run memory =
        ((body.run (memory.inPass (memory.context.map (·.inside bindings)))).1, last) ∧
      SamePass memory.context last.context := by
  have inner := each (memory.inPass (memory.context.map (·.inside bindings))) trivial
  obtain ⟨context, same, closed⟩ := run_popFrame inner.along
  have opened : (withFrame bindings body).run memory =
      (tryFinally body
        (popFrame bindings ((memory.context.map (·.frames.length)).getD 0))).run
          (memory.inPass (memory.context.map (·.inside bindings))) := by
    unfold withFrame
    rw [run_bind_of_ok (run_frameDepth memory), ← bind_assoc,
      run_bind_of_ok (run_openFrame bindings memory)]
  rw [opened, run_tryFinally, closed]
  exact ⟨_, rfl, same⟩

theorem balanced_withFrame (bindings : Value) {body : Observe α} (each : IsBalanced body) :
    IsBalanced (withFrame bindings body) := by
  intro memory _
  obtain ⟨last, ran, same⟩ := run_withFrame bindings each memory
  rw [ran]
  exact ⟨trivial, same, (each _ trivial).calm⟩

/-! ## Passes -/

theorem run_withFreshContext (body : Observe α) (memory : Memory) :
    (withFreshContext body).run memory =
      ((body.run (memory.inPass (some .fresh))).1,
        (body.run (memory.inPass (some .fresh))).2.inPass memory.context) := by
  unfold withFreshContext
  rw [run_bind_of_ok (run_context? memory), run_bind_of_ok (run_setContext _ memory),
    run_tryFinally, run_setContext]

/-- The pass that was under way goes on after another one, however that ended. -/
theorem balanced_withFreshContext {body : Observe α}
    (calm : ∀ memory fault, (body.run memory).1 = .error fault → fault.isFrameFault = false) :
    IsBalanced (withFreshContext body) := by
  intro memory _
  rw [run_withFreshContext]
  exact ⟨trivial, .refl _, calm _⟩

theorem balanced_withSomeContext {body : Observe α} (each : IsBalanced body) :
    IsBalanced (withSomeContext body) := by
  refine balanced_closed.bind (looks_balanced.context?) fun context => ?_
  cases context with
  | none => exact balanced_withFreshContext fun memory => (each memory trivial).calm
  | some context => exact each

/-- A render pass of balanced parts leaves no frame behind. -/
theorem balanced_evaluatePass (checked : Bool) {root : Observe Value} (each : IsBalanced root) :
    IsBalanced (evaluatePass checked root) := by
  intro memory _
  have inner := each (memory.inPass (some .fresh)) trivial
  have pass := inner.along.frames
  unfold evaluatePass
  rw [run_bind, run_withFreshContext, run_bind]
  rcases ran : root.run (memory.inPass (some .fresh)) with ⟨fault | output, after⟩ <;>
    rw [ran] at inner pass
  · exact ⟨trivial, .refl _, fun _ same => inner.calm _ (by cases same; rfl)⟩
  · have empty : (after.context.map (·.frames.length)).getD 0 = 0 := by
      have lengths := congrArg (Option.map List.length) pass
      rw [Option.map_map] at lengths
      exact congrArg (·.getD 0) lengths
    have none : ¬ (checked && (0 : Nat) != 0) = true := by simp
    dsimp only
    rw [run_bind, run_frameDepth, empty]
    change EndsWell _ _ memory ((if (checked && (0 : Nat) != 0) = true then throw (.unbalanced 0 0)
      else pure output : Observe Value).run (after.inPass memory.context))
    rw [if_neg none]
    exact ⟨trivial, .refl _, nofun⟩

/-! ## Compiled parts -/

theorem balanced_token (bound : BoundExpression) (index : Nat) :
    IsBalanced (bound.token index) := by
  unfold BoundExpression.token
  split
  · refine balanced_closed.bind (looks_balanced.refGet _) fun value => ?_
    exact looks_balanced.checkScope value _
  · exact balanced_closed.pure _

theorem balanced_record (recorder : Recorder) (call : List Value) :
    IsBalanced (record recorder call) := by
  cases recorder with
  | none => exact balanced_closed.pure _
  | some index =>
      refine balanced_closed.bind (balanced_closed.mapM looks_balanced.snapshot call) fun _ => ?_
      exact balanced_modify fun _ => rfl

theorem balanced_renderText (recorder : Recorder) (content : Value) :
    IsBalanced (renderText recorder content) := by
  refine balanced_closed.bind (looks_balanced.stringify content) fun text => ?_
  exact balanced_closed.bind (balanced_record recorder _) fun _ => balanced_closed.pure _

theorem balanced_renderNode (recorder : Recorder) (type attributes children : Value) :
    IsBalanced (renderNode recorder type attributes children) :=
  balanced_closed.bind (balanced_record recorder _) fun _ =>
    looks_balanced.makeNode type attributes children

theorem balanced_iterateFrames (valueName : String) (keyName : Option String)
    {body : Observe Value} (each : IsBalanced body) (pairs : List (Value × Value)) :
    IsBalanced (iterateFrames valueName keyName body pairs) := by
  induction pairs with
  | nil => exact balanced_closed.pure _
  | cons pair rest ih =>
      refine balanced_closed.bind (looks_balanced.iterationFrame valueName keyName _ _)
        fun frame => ?_
      refine balanced_closed.bind (balanced_withFrame frame each) fun first => ?_
      exact balanced_closed.map ih _

/-- A loop is balanced whose values and whose body are. -/
theorem balanced_renderLoop {values body : Observe Value} (valueName : String)
    (keyName : Option String) (given : IsBalanced values) (each : IsBalanced body) :
    IsBalanced (renderLoop values valueName keyName body) := by
  refine balanced_withSomeContext (balanced_closed.bind given fun value => ?_)
  refine balanced_closed.bind (looks_balanced.iterationPairs value) fun pairs => ?_
  refine balanced_closed.bind (balanced_iterateFrames valueName keyName each pairs) fun items => ?_
  exact looks_balanced.newList items

end Observe

open Observe

namespace Thunk

mutual

/-- Whatever a schema was compiled to is balanced, loops inside loops included. -/
theorem balanced_run : ∀ part : Thunk, IsBalanced part.run
  | constant _ => balanced_closed.pure _
  | expression bound => looks_balanced.evaluate (balanced_token bound) bound.expression
  | text part =>
      balanced_closed.bind part.balanced_run fun value =>
        balanced_closed.map (looks_balanced.stringify value) _
  | attributes slots =>
      balanced_closed.bind (balanced_runSlots slots) looks_balanced.newMap
  | choose condition body otherwise => by
      refine balanced_closed.bind condition.balanced_run fun value => ?_
      split
      · exact body.balanced_run
      · exact otherwise.balanced_run
  | all parts => balanced_closed.bind (balanced_runAll parts) looks_balanced.newList
  | textNode recorder content =>
      balanced_closed.bind content.balanced_run (balanced_renderText recorder)
  | node recorder type properties content =>
      balanced_closed.bind properties.balanced_run fun properties =>
        balanced_closed.bind content.balanced_run (balanced_renderNode recorder type properties)
  | repeated values valueName keyName body =>
      balanced_renderLoop valueName keyName values.balanced_run body.balanced_run

theorem balanced_runAll : ∀ parts, IsBalanced (run.runAll parts)
  | [] => balanced_closed.pure _
  | part :: rest =>
      balanced_closed.bind part.balanced_run fun _ => balanced_closed.map (balanced_runAll rest) _

theorem balanced_runSlots : ∀ slots, IsBalanced (run.runSlots slots)
  | [] => balanced_closed.pure _
  | (_, part) :: rest =>
      balanced_closed.bind part.balanced_run fun _ => balanced_closed.map (balanced_runSlots rest) _

end

end Thunk

end ReactiveSchema
