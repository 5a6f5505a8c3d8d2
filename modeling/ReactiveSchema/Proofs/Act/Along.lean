import ReactiveSchema.Fault

/-!
# Computations along a relation

A computation over a state ends in a state, be it with a value or with a
fault.  When the states it starts from and ends in are always related, the
computation goes along the relation; along a relation that can be composed,
whole programs go as soon as their parts do.
-/

namespace ReactiveSchema

variable {σ α β : Type}

/-! ## Running the parts of a computation -/

theorem run_get (state : σ) :
    (get : ExceptT Fault (StateM σ) σ).run state = (.ok state, state) := rfl

theorem run_modifyGet (change : σ → α × σ) (state : σ) :
    (modifyGet change : ExceptT Fault (StateM σ) α).run state =
      (.ok (change state).1, (change state).2) := rfl

theorem run_bind (first : ExceptT Fault (StateM σ) α)
    (next : α → ExceptT Fault (StateM σ) β) (state : σ) :
    (first >>= next).run state =
      match first.run state with
      | (.ok value, after) => (next value).run after
      | (.error fault, after) => (.error fault, after) := by
  simp only [bind, ExceptT.bind, ExceptT.run, ExceptT.mk, StateT.bind]
  rcases first state with ⟨fault | value, after⟩ <;> rfl

/-- Where its first part ends well, a computation is what comes after. -/
theorem run_bind_of_ok {first : ExceptT Fault (StateM σ) α}
    {next : α → ExceptT Fault (StateM σ) β} {state middle : σ} {value : α}
    (begun : first.run state = (.ok value, middle)) :
    (first >>= next).run state = (next value).run middle := by
  rw [run_bind, begun]

/-- A computation that ends well has gone on from where its first part ended. -/
theorem run_bind_ok {first : ExceptT Fault (StateM σ) α}
    {next : α → ExceptT Fault (StateM σ) β} {state last : σ} {value : β}
    (ran : (first >>= next).run state = (.ok value, last)) :
    ∃ between middle, first.run state = (.ok between, middle) ∧
      (next between).run middle = (.ok value, last) := by
  rw [run_bind] at ran
  rcases begun : first.run state with ⟨fault | between, middle⟩ <;> rw [begun] at ran
  · cases ran
  · exact ⟨between, middle, rfl, ran⟩

theorem exists_run_of_isOk {body : ExceptT Fault (StateM σ) α} {state : σ}
    (good : (body.run state).1.isOk = true) :
    ∃ value, body.run state = (.ok value, (body.run state).2) := by
  rcases ran : body.run state with ⟨fault | value, after⟩ <;> rw [ran] at good
  · cases good
  · exact ⟨value, rfl⟩

/-- A computation ends where its first part fails, or has gone on from where that ended. -/
theorem run_bind_cases {first : ExceptT Fault (StateM σ) α}
    {next : α → ExceptT Fault (StateM σ) β} {state last : σ} {result : Except Fault β}
    (ran : (first >>= next).run state = (result, last)) :
    (∃ fault, result = .error fault ∧ first.run state = (.error fault, last)) ∨
      ∃ value middle, first.run state = (.ok value, middle) ∧
        (next value).run middle = (result, last) := by
  rw [run_bind] at ran
  rcases begun : first.run state with ⟨fault | value, middle⟩ <;> rw [begun] at ran
  · obtain ⟨rfl, rfl⟩ := Prod.mk.inj ran
    exact .inl ⟨fault, rfl, rfl⟩
  · exact .inr ⟨value, middle, rfl, ran⟩

/-- What holds after a computation holds where its first part fails and after all that goes on. -/
theorem run_bind_after {P : σ → Prop} {first : ExceptT Fault (StateM σ) α}
    {next : α → ExceptT Fault (StateM σ) β} {state : σ} (begun : P (first.run state).2)
    (rest : ∀ value after, first.run state = (.ok value, after) → P after →
      P ((next value).run after).2) : P ((first >>= next).run state).2 := by
  rw [run_bind]
  rcases ran : first.run state with ⟨fault | value, after⟩ <;> rw [ran] at begun
  · exact begun
  · exact rest value after ran begun

theorem run_tryCatch (body : ExceptT Fault (StateM σ) α)
    (handle : Fault → ExceptT Fault (StateM σ) α) (state : σ) :
    (tryCatch body handle).run state =
      match body.run state with
      | (.ok value, after) => (.ok value, after)
      | (.error fault, after) => (handle fault).run after := by
  simp only [tryCatch, tryCatchThe, MonadExceptOf.tryCatch, ExceptT.tryCatch, ExceptT.run,
    ExceptT.mk, bind, StateT.bind]
  rcases body state with ⟨fault | value, after⟩ <;> rfl

theorem run_tryFinally (body : ExceptT Fault (StateM σ) α)
    (leave : ExceptT Fault (StateM σ) β) (state : σ) :
    (tryFinally body leave).run state =
      match leave.run (body.run state).2 with
      | (.ok _, last) => ((body.run state).1, last)
      | (.error fault, last) => (.error fault, last) := by
  simp only [tryFinally, tryFinally', ExceptT.run, ExceptT.mk, Functor.map, ExceptT.map, bind,
    StateT.bind, pure]
  rcases body state with ⟨fault | value, after⟩
  · dsimp only
    rcases leave after with ⟨other | left, last⟩ <;> rfl
  · dsimp only
    rcases leave after with ⟨other | left, last⟩ <;> rfl

/-! ## Going along a relation -/

/-- Whatever state a computation starts from, the relation leads to the one it ends in. -/
def Along (R : σ → σ → Prop) (body : ExceptT Fault (StateM σ) α) : Prop :=
  ∀ state, R state (body.run state).2

/-- Relations along which programs go as soon as their parts do. -/
structure Composable (R : σ → σ → Prop) : Prop where
  refl (state : σ) : R state state
  trans {first middle last : σ} : R first middle → R middle last → R first last

namespace Composable

variable {R : σ → σ → Prop}

theorem pure (path : Composable R) (value : α) :
    Along R (Pure.pure value : ExceptT Fault (StateM σ) α) :=
  fun state => path.refl state

theorem throw (path : Composable R) (fault : Fault) :
    Along R (MonadExcept.throw fault : ExceptT Fault (StateM σ) α) :=
  fun state => path.refl state

theorem get (path : Composable R) :
    Along R (MonadState.get : ExceptT Fault (StateM σ) σ) :=
  fun state => path.refl state

theorem bind (path : Composable R) {first : ExceptT Fault (StateM σ) α}
    {next : α → ExceptT Fault (StateM σ) β} (start : Along R first)
    (rest : ∀ value, Along R (next value)) : Along R (first >>= next) := by
  intro state
  have begun := start state
  rw [run_bind]
  rcases ran : first.run state with ⟨fault | value, after⟩ <;> rw [ran] at begun
  · exact begun
  · exact path.trans begun (rest value after)

theorem tryCatch (path : Composable R) {body : ExceptT Fault (StateM σ) α}
    {handle : Fault → ExceptT Fault (StateM σ) α} (start : Along R body)
    (rest : ∀ fault, Along R (handle fault)) :
    Along R (MonadExcept.tryCatch body handle) := by
  intro state
  have begun := start state
  rw [run_tryCatch]
  rcases ran : body.run state with ⟨fault | value, after⟩ <;> rw [ran] at begun
  · exact path.trans begun (rest fault after)
  · exact begun

end Composable

/-! ## Properties of computations -/

/-- Is a fault about iteration frames that were not closed as they were opened? -/
def Fault.isFrameFault : Fault → Bool
  | .unbalanced .. | .failure .frameOrder => true
  | _ => false

/--
A property of computations that programs have as soon as their parts do.  A handler needs to
have it for the faults only that a computation with the property may end in.
-/
structure Closed (P : (α : Type) → ExceptT Fault (StateM σ) α → Prop) : Prop where
  pure {α : Type} (value : α) : P α (Pure.pure value)
  get : P σ MonadState.get
  throw {α : Type} {fault : Fault} : fault.isFrameFault = false → P α (MonadExcept.throw fault)
  bind {α β : Type} {first : ExceptT Fault (StateM σ) α}
    {next : α → ExceptT Fault (StateM σ) β} :
    P α first → (∀ value, P β (next value)) → P β (first >>= next)
  tryCatch {α : Type} {body : ExceptT Fault (StateM σ) α}
    {handle : Fault → ExceptT Fault (StateM σ) α} :
    P α body → (∀ fault, P α (MonadExcept.throw fault) → P α (handle fault)) →
      P α (MonadExcept.tryCatch body handle)

namespace Closed

variable {P : (α : Type) → ExceptT Fault (StateM σ) α → Prop} {α β : Type}

theorem getting (closed : Closed P) (value : σ → α) :
    P α (do return value (← MonadState.get)) :=
  closed.bind closed.get fun _ => closed.pure _

theorem map (closed : Closed P) {body : ExceptT Fault (StateM σ) α} (each : P α body)
    (change : α → β) : P β (do return change (← body)) :=
  closed.bind each fun _ => closed.pure _

/-- Two ways on to the same rest. -/
theorem branch (closed : Closed P) {test : Prop} [Decidable test]
    {body otherwise : ExceptT Fault (StateM σ) α} {next : α → ExceptT Fault (StateM σ) β}
    (yes : P α body) (no : P α otherwise) (rest : ∀ value, P β (next value)) :
    P β (if test then body >>= next else otherwise >>= next) := by
  split
  · exact closed.bind yes rest
  · exact closed.bind no rest

theorem mapM (closed : Closed P) {step : α → ExceptT Fault (StateM σ) β}
    (each : ∀ item, P β (step item)) (items : List α) : P (List β) (items.mapM step) := by
  induction items with
  | nil => simpa using closed.pure _
  | cons item rest ih =>
      rw [List.mapM_cons]
      exact closed.bind (each item) fun _ => closed.bind ih fun _ => closed.pure _

theorem filterMapM (closed : Closed P) {step : α → ExceptT Fault (StateM σ) (Option β)}
    (each : ∀ item, P (Option β) (step item)) (items : List α) :
    P (List β) (items.filterMapM step) := by
  have go (kept : List β) : P (List β) (List.filterMapM.loop step items kept) := by
    induction items generalizing kept with
    | nil => exact closed.pure _
    | cons item rest ih =>
        unfold List.filterMapM.loop
        refine closed.bind (each item) fun result => ?_
        cases result with
        | none => exact ih kept
        | some found => exact ih (found :: kept)
  exact go []

theorem filterM (closed : Closed P) {test : α → ExceptT Fault (StateM σ) Bool}
    (each : ∀ item, P Bool (test item)) (items : List α) : P (List α) (items.filterM test) := by
  have go (kept : List α) : P (List α) (List.filterAuxM test items kept) := by
    induction items generalizing kept with
    | nil => exact closed.pure _
    | cons item rest ih =>
        unfold List.filterAuxM
        exact closed.bind (each item) fun _ => ih _
  exact closed.map (go []) _

end Closed

/-- Going along a relation that can be composed is closed. -/
theorem Composable.closed {R : σ → σ → Prop} (path : Composable R) :
    Closed fun _ => Along R where
  pure := path.pure
  get := path.get
  throw _ := path.throw _
  bind := path.bind
  tryCatch start rest := path.tryCatch start fun fault => rest fault (path.throw fault)

/-! ## Orderly computations -/

/-- An outcome where an invariant holds, to which a relation leads, and which is no frame fault. -/
structure EndsWell (I : σ → Prop) (R : σ → σ → Prop) (before : σ)
    (outcome : Except Fault α × σ) : Prop where
  keeps : I outcome.2
  along : R before outcome.2
  calm (fault : Fault) : outcome.1 = .error fault → fault.isFrameFault = false

/-- Wherever an invariant holds, a computation keeps it, goes along a relation and fails calmly. -/
def Orderly (I : σ → Prop) (R : σ → σ → Prop) (body : ExceptT Fault (StateM σ) α) : Prop :=
  ∀ state, I state → EndsWell I R state (body.run state)

theorem Orderly.along {I : σ → Prop} {R : σ → σ → Prop} {body : ExceptT Fault (StateM σ) α}
    (orderly : Orderly I R body) : Along (fun before after => I before → I after ∧ R before after)
      body :=
  fun state holds => ⟨(orderly state holds).keeps, (orderly state holds).along⟩

/-- Being orderly is closed, along a relation that can be composed. -/
theorem Composable.orderly {R : σ → σ → Prop} (path : Composable R) (I : σ → Prop) :
    Closed fun _ => Orderly I R where
  pure _ state holds := ⟨holds, path.refl state, nofun⟩
  get state holds := ⟨holds, path.refl state, nofun⟩
  throw other state holds := by
    refine ⟨holds, path.refl state, fun fault same => ?_⟩
    cases same
    exact other
  bind {_ _ first next} start rest state holds := by
    have begun := start state holds
    rw [run_bind]
    rcases ran : first.run state with ⟨fault | value, middle⟩ <;> rw [ran] at begun
    · exact ⟨begun.keeps, begun.along, fun _ same => begun.calm _ (by cases same; rfl)⟩
    · have done := rest value middle begun.keeps
      exact ⟨done.keeps, path.trans begun.along done.along, done.calm⟩
  tryCatch {_ body handle} start rest state holds := by
    have begun := start state holds
    rw [run_tryCatch]
    rcases ran : body.run state with ⟨fault | value, middle⟩ <;> rw [ran] at begun
    · have done := rest fault (fun _ held => ⟨held, path.refl _, fun _ same => ?_⟩) middle begun.keeps
      · exact ⟨done.keeps, path.trans begun.along done.along, done.calm⟩
      · cases same
        exact begun.calm _ rfl
    · exact begun

end ReactiveSchema
