import Mathlib.Data.List.Forall2
import ReactiveSchema.Memory
import ReactiveSchema.Proofs.Act.Along

/-!
# Looks that leave memory as it is

A computation that gives a value and leaves memory as it is can be put in the place of that
value: in sequences and loops these are followed step by step.
-/

namespace ReactiveSchema

variable {α β : Type} {memory : Memory}

/-- A computation gives a value and leaves memory as it is. -/
def Memory.Gives (memory : Memory) (look : Observe α) (value : α) : Prop :=
  look.run memory = (.ok value, memory)

namespace Memory.Gives

theorem pure (value : α) : memory.Gives (Pure.pure value) value := rfl

theorem get : memory.Gives MonadState.get memory := rfl

theorem bind {first : Observe α} {next : α → Observe β} {value : α} {result : β}
    (begun : memory.Gives first value) (rest : memory.Gives (next value) result) :
    memory.Gives (first >>= next) result :=
  (run_bind_of_ok begun).trans rest

/-- What is looked up in memory is known from the start. -/
theorem getting {next : Memory → Observe β} {result : β}
    (rest : memory.Gives (next memory) result) :
    memory.Gives (MonadState.get >>= next) result :=
  get.bind rest

theorem map {look : Observe α} {value : α} (begun : memory.Gives look value) (change : α → β) :
    memory.Gives (do return change (← look)) (change value) :=
  begun.bind (pure _)

theorem mapM {step : α → Observe β} {items : List α} {results : List β}
    (each : List.Forall₂ (fun item result => memory.Gives (step item) result) items results) :
    memory.Gives (items.mapM step) results := by
  induction each with
  | nil => rfl
  | cons head _ ih =>
      rw [List.mapM_cons]
      exact head.bind (ih.bind (pure _))

theorem mapM_map {step : α → Observe β} {change : α → β} {items : List α}
    (each : ∀ item ∈ items, memory.Gives (step item) (change item)) :
    memory.Gives (items.mapM step) (items.map change) :=
  mapM (List.forall₂_map_right_iff.mpr (List.forall₂_same.mpr each))

theorem filterM {test : α → Observe Bool} {accepts : α → Bool} {items : List α}
    (each : ∀ item ∈ items, memory.Gives (test item) (accepts item)) :
    memory.Gives (items.filterM test) (items.filter accepts) := by
  have go (kept : List α) : memory.Gives (List.filterAuxM test items kept)
      ((items.filter accepts).reverse ++ kept) := by
    induction items generalizing kept with
    | nil => rfl
    | cons item rest ih =>
        have inner := ih (fun other known => each other (List.mem_cons_of_mem _ known))
        refine (each item List.mem_cons_self).bind ?_
        cases accepted : accepts item with
        | true =>
            rw [List.filter_cons_of_pos accepted, List.reverse_cons, List.append_assoc]
            exact inner (item :: kept)
        | false =>
            rw [List.filter_cons_of_neg (by simp [accepted])]
            exact inner kept
  have whole := (go []).map List.reverse
  rw [List.append_nil, List.reverse_reverse] at whole
  exact whole

end Memory.Gives

end ReactiveSchema
