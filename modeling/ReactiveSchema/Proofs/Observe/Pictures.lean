import ReactiveSchema.Proofs.Act.Along
import ReactiveSchema.Script.Report

/-!
# Why pictures fail

A value cannot be written out as a tree where it holds a whole number with too many digits or
a node without properties or children.  Nothing else goes wrong, and nothing about frames.
-/

namespace ReactiveSchema

variable {α β : Type}

/-- A result that is no failure about iteration frames. -/
def Tells (result : Except Cause α) : Prop :=
  ∀ cause, result = .error cause → (Fault.failure cause).isFrameFault = false

theorem tells_ok (value : α) : Tells (.ok value : Except Cause α) :=
  nofun

theorem tells_error {cause : Cause} (other : (Fault.failure cause).isFrameFault = false) :
    Tells (.error cause : Except Cause α) := by
  intro _ same
  cases same
  exact other

theorem Tells.bind {first : Except Cause α} {next : α → Except Cause β} (tells : Tells first)
    (rest : ∀ value, Tells (next value)) : Tells (first >>= next) := by
  cases first with
  | error cause => exact tells_error (tells cause rfl)
  | ok value => exact rest value

theorem Tells.map {result : Except Cause α} (tells : Tells result) (change : α → β) :
    Tells (do return change (← result)) :=
  tells.bind fun _ => tells_ok _

theorem Tells.mapM {step : α → Except Cause β} (each : ∀ item, Tells (step item))
    (items : List α) : Tells (items.mapM step) := by
  induction items with
  | nil => exact tells_ok []
  | cons item rest ih =>
      rw [List.mapM_cons]
      exact (each item).bind fun _ => ih.bind fun _ => tells_ok _

namespace Memory

variable {deeper : Value → Except Cause Datum}

theorem tells_snapshotEntries (memory : Memory) (each : ∀ value, Tells (deeper value))
    (value : Value) : Tells (memory.snapshotEntries deeper value) := by
  unfold snapshotEntries
  split
  · exact .mapM (fun _ => (each _).bind fun _ => (each _).map _) _
  · exact .mapM (fun _ => (each _).bind fun _ => (each _).map _) _
  · exact tells_error rfl

theorem tells_snapshotItems (memory : Memory) (each : ∀ value, Tells (deeper value))
    (value : Value) : Tells (memory.snapshotItems deeper value) := by
  unfold snapshotItems
  split
  · exact tells_ok _
  · exact .mapM each _
  · exact .mapM each _
  · exact .mapM each _
  · exact (Tells.mapM each _).map _
  · exact .mapM each _
  · exact tells_error rfl

mutual

theorem tells_snapshotStep (memory : Memory) (each : ∀ value, Tells (deeper value)) :
    ∀ value, Tells (memory.snapshotStep deeper value)
  | .none | .undefined | .missing | .ellipsis | .bool _ | .float _ | .nan _ | .complex _ _
  | .str _ | .text _ | .function _ | .component _ | .incomparable _ | .scope _ | .handle _ _
  | .method _ _ | .other _ => tells_ok _
  | .int _ => by
      unfold snapshotStep
      split
      · exact tells_error rfl
      · exact tells_ok _
  | .tuple items => (memory.tells_snapshotTuple each items).map _
  | .list _ => (Tells.mapM each _).map _
  | .map _ => (memory.tells_snapshotEntries each _).map _
  | .liveList _ | .liveMap _ | .ref _ => (each _).map _
  | .node _ =>
      (each _).bind fun _ => (memory.tells_snapshotEntries each _).bind fun _ =>
        (memory.tells_snapshotItems each _).map _
  | .object _ => (Tells.mapM (fun _ => (each _).map _) _).map _

theorem tells_snapshotTuple (memory : Memory) (each : ∀ value, Tells (deeper value)) :
    ∀ items, Tells (snapshotStep.snapshotTuple memory deeper items)
  | [] => tells_ok _
  | item :: rest =>
      (memory.tells_snapshotStep each item).bind fun _ => (memory.tells_snapshotTuple each rest).map _

end

theorem tells_snapshot (memory : Memory) (value : Value) : Tells (memory.snapshot value) := by
  have within (depth : Nat) : ∀ value, Tells (memory.snapshotWithin depth value) := by
    induction depth with
    | zero => exact fun _ => tells_ok _
    | succ depth ih => exact memory.tells_snapshotStep ih
  exact within _ value

theorem tells_report (memory : Memory) (value : Value) : Tells (memory.report value) := by
  intro cause failed
  unfold report at failed
  rcases taken : memory.snapshot value with other | datum
  · rw [taken] at failed
    cases failed
    exact memory.tells_snapshot value cause taken
  · rw [taken] at failed
    cases failed

mutual

theorem tells_reportFault (memory : Memory) : ∀ fault, Tells (memory.reportFault fault)
  | .syntaxError .. | .unbalanced .. | .failure _ | .exhausted => tells_ok _
  | .evaluation _ values _ _ => (memory.tells_reportValues values).map _

theorem tells_reportValues (memory : Memory) :
    ∀ values, Tells (reportFault.reportValues memory values)
  | [] => tells_ok _
  | (_, .ok value) :: rest =>
      (memory.tells_report value).bind fun _ => (memory.tells_reportValues rest).map _
  | (_, .error fault) :: rest =>
      (memory.tells_reportFault fault).bind fun _ => (memory.tells_reportValues rest).map _

end

end Memory

end ReactiveSchema
