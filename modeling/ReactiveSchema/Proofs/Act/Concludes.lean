import ReactiveSchema.Proofs.Act.Steps
import ReactiveSchema.Proofs.Reactive.Readers

/-!
# How a computation ends

A computation ends well, so that what is wanted holds of its value and its last state, or with
one of the faults that it may end with.  A sequence ends so when its parts do.
-/

namespace ReactiveSchema

/-- A run ends well, so that what is wanted holds, or with a fault that it may end with. -/
inductive Concludes {α σ : Type} (may : Fault → Prop) (wanted : α → σ → Prop) :
    Except Fault α × σ → Prop where
  | well {value : α} {after : σ} : wanted value after → Concludes may wanted (.ok value, after)
  | badly {fault : Fault} {after : σ} : may fault → Concludes may wanted (.error fault, after)

namespace Concludes

variable {α β σ : Type} {may : Fault → Prop} {wanted : α → σ → Prop} {sought : β → σ → Prop}

theorem bind {first : ExceptT Fault (StateM σ) α} {next : α → ExceptT Fault (StateM σ) β}
    {state : σ} (begun : Concludes may wanted (first.run state))
    (rest : ∀ value after, wanted value after → Concludes may sought ((next value).run after)) :
    Concludes may sought ((first >>= next).run state) := by
  rw [run_bind]
  rcases ran : first.run state with ⟨fault | value, after⟩ <;> rw [ran] at begun
  · cases begun with
    | badly allowed => exact .badly allowed
  · cases begun with
    | well holds => exact rest value after holds

theorem mono {sought : α → σ → Prop} {ran : Except Fault α × σ} (ends : Concludes may wanted ran)
    (weaker : ∀ value after, wanted value after → sought value after) :
    Concludes may sought ran := by
  cases ends with
  | well holds => exact .well (weaker _ _ holds)
  | badly allowed => exact .badly allowed

/-- What is done to the last state alone is done where the run ends well. -/
theorem mapLast {ran : Except Fault α × σ} (ends : Concludes may wanted ran) (change : σ → σ) :
    Concludes may (fun value after => ∃ last, wanted value last ∧ after = change last)
      (ran.1, change ran.2) := by
  cases ends with
  | well holds => exact .well ⟨_, holds, rfl⟩
  | badly allowed => exact .badly allowed

end Concludes

namespace Act

variable {α : Type} {world : World} {may : Fault → Prop}

/-- Looking ends as its look does, on behalf of whoever runs. -/
theorem concludes_observe {wanted : α → Memory → Prop} {look : Observe α}
    (ends : Concludes may wanted (look.run (world.memory.seeing world.outlook))) :
    Concludes may (fun value after => ∃ memory reactor, wanted value memory ∧
      after = { world with memory := memory.settled, reactor }) ((observe look).run world) := by
  rw [run_observe]
  generalize look.run (world.memory.seeing world.outlook) = ran at ends
  cases ends with
  | well holds => exact .well ⟨_, _, holds, rfl⟩
  | badly allowed => exact .badly allowed

/-- What is done on behalf of another effect, or of none, ends with the effect back. -/
theorem concludes_withActiveEffect {wanted : α → World → Prop} {body : Act α}
    {effect : Option EffectId}
    (ends : Concludes may wanted (body.run (world.withReactor (.asEffect effect)))) :
    Concludes may (fun value after => ∃ last, wanted value last ∧
      after = last.withReactor (.asEffect world.reactor.activeEffect))
        ((withActiveEffect effect body).run world) := by
  rw [run_withActiveEffect]
  exact ends.mapLast _

/-- What is done within a group ends with the group of before back. -/
theorem concludes_within {wanted : α → World → Prop} {body : Act α} {group : EffectScopeId}
    (ends : Concludes may wanted (body.run (world.withReactor (.inScope (some group))))) :
    Concludes may (fun value after => ∃ last, wanted value last ∧
      after = last.withReactor (.inScope world.reactor.activeScope))
        ((within group body).run world) := by
  rw [run_within]
  exact ends.mapLast _

/-- A run of an active effect ends as its body does, with the effect of before back. -/
theorem concludes_runEffect {runner : Runner} {wanted : Value → World → Prop} {effect : EffectId}
    {cell : Effect Body} (found : world.reactor.effects[effect]? = some cell)
    (active : cell.active = true)
    (ends : Concludes may wanted ((runner.perform cell.body).run (world.begun effect))) :
    Concludes may (fun value after => ∃ last, wanted value last ∧
      after = last.withReactor (.asEffect (world.reactor.beginRun effect).activeEffect))
        ((runEffect runner effect).run world) := by
  rw [run_runEffect _ found, if_pos active]
  exact concludes_withActiveEffect ends

end Act

end ReactiveSchema
