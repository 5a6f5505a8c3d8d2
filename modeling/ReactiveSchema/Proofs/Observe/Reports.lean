import ReactiveSchema.Proofs.Observe.BalancedPasses
import ReactiveSchema.Proofs.Observe.Faces

/-!
# What a failing expression reports

An expression that fails is reported with what its tokens give now, in the frames that it failed
in.  The report is a text as well, and a whole number with too many digits cannot be written:
where a token gives one, it is the failure of writing it that gets out.
-/

namespace ReactiveSchema

open Observe

variable {memory middle after : Memory} {token : Nat → Observe Value} {fault : Fault}

theorem Fault.eq_exhausted (uncatchable : fault.isCatchable = false) : fault = .exhausted := by
  cases fault <;> first | rfl | cases uncatchable

/-! ## Looking at tokens -/

/-- What tokens give, looked at one after another. -/
inductive Consulted (token : Nat → Observe Value) : List (String × Nat) → Memory →
    List (String × Except Fault Value) → Memory → Prop where
  | nil (memory : Memory) : Consulted token [] memory [] memory
  | cons {name : String} {index : Nat} {rest : List (String × Nat)} {memory middle last : Memory}
      {outcome : Except Fault Value} {values : List (String × Except Fault Value)} :
      (token index).run memory = (outcome, middle) →
        (∀ fault, outcome = .error fault → fault.isCatchable = true) →
          Consulted token rest middle values last →
            Consulted token ((name, index) :: rest) memory ((name, outcome) :: values) last

/-- What a token gives, be it a value or a fault. -/
def Observe.lookAt (token : Nat → Observe Value) (entry : String × Nat) :
    Observe (String × Except Fault Value) :=
  tryCatch (do return (entry.1, .ok (← token entry.2))) fun fault =>
    if fault.isCatchable then pure (entry.1, .error fault) else throw fault

theorem Expression.snapshot_eq (expression : Expression) (token : Nat → Observe Value) :
    expression.snapshot token = expression.tokens.zipIdx.mapM (lookAt token) := rfl

/-- A token is looked at, unless that exhausts the steps. -/
theorem run_lookAt (token : Nat → Observe Value) (entry : String × Nat) (memory : Memory) :
    (∃ outcome after, (token entry.2).run memory = (outcome, after) ∧
        (∀ fault, outcome = .error fault → fault.isCatchable = true) ∧
          (lookAt token entry).run memory = (.ok (entry.1, outcome), after)) ∨
      ∃ after, (token entry.2).run memory = (.error .exhausted, after) ∧
        (lookAt token entry).run memory = (.error .exhausted, after) := by
  unfold lookAt
  rw [run_tryCatch, run_bind]
  rcases (token entry.2).run memory with ⟨fault | value, after⟩
  · dsimp only
    cases catchable : fault.isCatchable with
    | true =>
        refine .inl ⟨.error fault, after, rfl, ?_, by rw [if_pos rfl]; rfl⟩
        rintro _ ⟨⟩
        exact catchable
    | false =>
        cases Fault.eq_exhausted catchable
        exact .inr ⟨after, rfl, rfl⟩
  · exact .inl ⟨.ok value, after, rfl, nofun, rfl⟩

theorem run_looks (token : Nat → Observe Value) (items : List (String × Nat)) (memory : Memory) :
    (∃ values last, Consulted token items memory values last ∧
        (items.mapM (lookAt token)).run memory = (.ok values, last)) ∨
      ∃ index before last, (token index).run before = (.error .exhausted, last) ∧
        (items.mapM (lookAt token)).run memory = (.error .exhausted, last) := by
  induction items generalizing memory with
  | nil => exact .inl ⟨[], memory, .nil memory, rfl⟩
  | cons entry rest ih =>
      simp only [List.mapM_cons]
      rcases run_lookAt token entry memory with
        ⟨outcome, middle, gave, catchable, ran⟩ | ⟨middle, gave, ran⟩
      · rw [run_bind_of_ok ran]
        rcases ih middle with ⟨values, last, consulted, done⟩ | ⟨index, before, last, gave, done⟩
        · exact .inl ⟨_, last, .cons gave catchable consulted, by rw [run_bind_of_ok done]; rfl⟩
        · exact .inr ⟨index, before, last, gave, by rw [run_bind, done]⟩
      · exact .inr ⟨entry.2, memory, middle, gave, by rw [run_bind, ran]⟩

namespace Consulted

variable {items : List (String × Nat)} {values : List (String × Except Fault Value)}

theorem names (consulted : Consulted token items memory values after) :
    values.map (·.1) = items.map (·.1) := by
  induction consulted with
  | nil => rfl
  | cons _ _ _ ih => rw [List.map_cons, List.map_cons, ih]

theorem grows (consulted : Consulted token items memory values after)
    (each : ∀ index, Along Memory.Grows (token index)) : Memory.Grows memory after := by
  induction consulted with
  | nil memory => exact .refl memory
  | @cons _ index _ memory _ _ _ _ ran _ _ ih =>
      have here := each index memory
      rw [ran] at here
      exact here.trans ih

/-- Each is looked at in a memory that has only grown, within the same frames. -/
theorem outcome (consulted : Consulted token items memory values after)
    (grows : ∀ index, Along Memory.Grows (token index))
    (balanced : ∀ index, (token index).IsBalanced) {place index : Nat} {name : String}
    (item : items[place]? = some (name, index)) :
    ∃ outcome before last, values[place]? = some (name, outcome) ∧
      (token index).run before = (outcome, last) ∧ Memory.Grows memory before ∧
        SamePass memory.context before.context := by
  induction consulted generalizing place with
  | nil => cases item
  | @cons name' index' rest memory middle last result values ran catchable _ ih =>
      cases place with
      | zero =>
          cases item
          exact ⟨result, memory, middle, rfl, ran, .refl memory, .refl _⟩
      | succ place =>
          obtain ⟨outcome, before, end', listed, consulted, grown, same⟩ := ih item
          have here := grows index' memory
          have pass := (balanced index' memory trivial).along
          rw [ran] at here pass
          exact ⟨outcome, before, end', listed, consulted, here.trans grown, pass.trans same⟩

end Consulted

/-! ## Writing the report -/

/-- The values of a report that can all be written. -/
def Memory.Writes (memory : Memory) (values : List (String × Except Fault Value)) : Prop :=
  ∀ entry ∈ values, ∀ value, entry.2 = .ok value → (memory.shown? value).isSome = true

theorem run_listedValue (entry : String × Except Fault Value) (memory : Memory) :
    (∃ listed, (listedValue entry.1 entry.2).run memory = (.ok listed, memory) ∧
        ∀ value, entry.2 = .ok value → (memory.shown? value).isSome = true) ∨
      ((listedValue entry.1 entry.2).run memory = (.error (.failure .tooManyDigits), memory) ∧
        ∃ value, entry.2 = .ok value ∧ memory.shown? value = none) := by
  obtain ⟨name, fault | value⟩ := entry
  · exact .inl ⟨_, rfl, nofun⟩
  · unfold listedValue shown
    cases known : memory.shown? value with
    | none =>
        refine .inr ⟨?_, value, rfl, known⟩
        dsimp only
        rw [bind_assoc, run_bind_of_ok (run_get memory), known]
        rfl
    | some text =>
        refine .inl ⟨⟨name, text, value.typeName⟩, ?_, fun other same => ?_⟩
        · dsimp only
          rw [bind_assoc, run_bind_of_ok (run_get memory), known]
          rfl
        · cases same
          rw [known]
          rfl

/-- Either all values of a report can be written, or the first that cannot fails. -/
theorem run_listValues (values : List (String × Except Fault Value)) (memory : Memory) :
    (memory.Writes values ∧ ∃ listed,
        (values.mapM fun (name, value) => listedValue name value).run memory =
          (.ok listed, memory)) ∨
      (¬ memory.Writes values ∧
        (values.mapM fun (name, value) => listedValue name value).run memory =
          (.error (.failure .tooManyDigits), memory)) := by
  induction values with
  | nil => exact .inl ⟨nofun, [], rfl⟩
  | cons entry rest ih =>
      simp only [List.mapM_cons]
      unfold Memory.Writes at ih ⊢
      rw [List.forall_mem_cons, run_bind]
      rcases run_listedValue entry memory with ⟨listed, ran, writes⟩ | ⟨ran, value, same, unshown⟩ <;>
        rw [ran] <;> dsimp only
      · rcases ih with ⟨all, others, done⟩ | ⟨not, failed⟩
        · exact .inl ⟨⟨writes, all⟩, listed :: others, by rw [run_bind_of_ok done]; rfl⟩
        · exact .inr ⟨fun both => not both.2, by rw [run_bind, failed]⟩
      · refine .inr ⟨fun both => ?_, rfl⟩
        have known := both.1 value same
        rw [unshown] at known
        cases known

/-! ## The fault that gets out -/

/--
The tokens of an expression are listed in order, each with what it gives within the same frames,
in a memory that has only grown since.
-/
structure Lists (expression : Expression) (token : Nat → Observe Value) (memory : Memory)
    (values : List (String × Except Fault Value)) : Prop where
  names : values.map (·.1) = expression.tokens
  outcome {index : Nat} {name : String} : expression.tokens[index]? = some name →
    ∃ outcome before last, values[index]? = some (name, outcome) ∧
      (token index).run before = (outcome, last) ∧ Memory.Grows memory before ∧
        SamePass memory.context before.context

/-- The fault that an expression ends in, evaluated in `memory`, whose body has failed. -/
inductive Reports (expression : Expression) (token : Nat → Observe Value) (memory : Memory)
    (fault : Fault) : Fault → Prop where
  /-- A fault of the library itself passes unchanged. -/
  | passes : fault.isSchemaFault = true → Reports expression token memory fault fault
  | lists {values : List (String × Except Fault Value)} {last : Memory} {text : String} :
      fault.isSchemaFault = false → Lists expression token memory values →
        Memory.Grows memory last → last.Writes values →
          Reports expression token memory fault
            (.evaluation expression.source values fault.name text)
  /-- Some token gives a whole number that cannot be written. -/
  | stumbles {values : List (String × Except Fault Value)} {last : Memory} :
      fault.isSchemaFault = false → Lists expression token memory values →
        Memory.Grows memory last → ¬ last.Writes values →
          Reports expression token memory fault (.failure .tooManyDigits)
  /-- The steps were exhausted, by the body or by looking at a token. -/
  | exhausts : (fault = .exhausted ∨
      ∃ index before last, (token index).run before = (.error .exhausted, last)) →
        Reports expression token memory fault .exhausted

theorem Consulted.lists {expression : Expression} {values : List (String × Except Fault Value)}
    (consulted : Consulted token expression.tokens.zipIdx memory values after)
    (grows : ∀ index, Along Memory.Grows (token index))
    (balanced : ∀ index, (token index).IsBalanced) : Lists expression token memory values where
  names := by rw [consulted.names, List.zipIdx_map_fst]
  outcome known := consulted.outcome grows balanced (by
    rw [List.getElem?_zipIdx, known]
    simp)

theorem Lists.since {expression : Expression} {values : List (String × Except Fault Value)}
    (lists : Lists expression token after values) (grows : Memory.Grows memory after)
    (same : SamePass memory.context after.context) : Lists expression token memory values where
  names := lists.names
  outcome known := by
    obtain ⟨outcome, before, last, listed, gave, grown, pass⟩ := lists.outcome known
    exact ⟨outcome, before, last, listed, gave, grows.trans grown, same.trans pass⟩

/-- An expression whose body fails ends in the report of that. -/
theorem Expression.run_evaluate_of_fails {expression : Expression}
    (grows : ∀ index, Along Memory.Grows (token index))
    (balanced : ∀ index, (token index).IsBalanced)
    (failed : (expression.body.evaluate token).run memory = (.error fault, after)) :
    ∃ reported last, (expression.evaluate token).run memory = (.error reported, last) ∧
      Reports expression token memory fault reported := by
  have grown := looks_grows.evaluateTree grows expression.body memory
  have same := (looks_balanced.evaluateTree balanced expression.body memory trivial).along
  rw [failed] at grown same
  unfold evaluate
  rw [run_tryCatch, failed]
  dsimp only
  by_cases passed : fault.isSchemaFault = true
  · exact ⟨fault, after, by rw [passed, Bool.true_or]; rfl, .passes passed⟩
  rw [Bool.not_eq_true] at passed
  cases catchable : fault.isCatchable with
  | false =>
      cases Fault.eq_exhausted catchable
      exact ⟨.exhausted, after, rfl, .exhausts (.inl rfl)⟩
  | true =>
      rw [passed, Bool.not_true, Bool.or_self, if_neg Bool.false_ne_true]
      unfold report
      simp only [bind_assoc, pure_bind, snapshot_eq]
      rcases run_looks token expression.tokens.zipIdx after with
        ⟨values, last, consulted, ran⟩ | ⟨index, before, last, gave, ran⟩
      · have lists := (consulted.lists grows balanced).since grown same
        have later := grown.trans (consulted.grows grows)
        rw [run_bind_of_ok ran]
        rcases run_listValues values last with ⟨writes, listed, done⟩ | ⟨stuck, stopped⟩
        · refine ⟨.evaluation expression.source values fault.name
            (evaluationText last.colors fault.text expression.source listed evaluationAdvice),
            last, ?_, .lists passed lists later writes⟩
          rw [run_bind_of_ok done, run_bind_of_ok (run_get last)]
          rfl
        · exact ⟨_, last, by rw [run_bind, stopped], .stumbles passed lists later stuck⟩
      · exact ⟨.exhausted, last, by rw [run_bind, ran],
          .exhausts (.inr ⟨index, before, last, gave⟩)⟩

end ReactiveSchema
