import ReactiveSchema.Proofs.Memory.Whole
import ReactiveSchema.Script.Report

/-!
# Twins look alike

Values that are twins in memory that reads the same are shown by the same text
and have the same picture.
-/

namespace ReactiveSchema

variable {moved : Relocation} {extent : Extent} {memory other : Memory} {a b : Value}

/-- A loop over items gives the same as one over others that it treats alike. -/
theorem mapM_eq_of_forall₂ {m : Type → Type} [Monad m] [LawfulMonad m] {α β γ : Type}
    {step : α → m γ} {step' : β → m γ} {items : List α} {others : List β}
    (each : List.Forall₂ (fun a b => step a = step' b) items others) :
    items.mapM step = others.mapM step' := by
  induction each with
  | nil => rfl
  | cons head _ ih => rw [List.mapM_cons, List.mapM_cons, head, ih]

namespace Memory

theorem isOpen_twin {outer others : List Value} (around : Twins moved extent outer others)
    (same : Twin moved extent a b) : isOpen outer a = isOpen others b := by
  unfold isOpen
  induction around with
  | nil => rfl
  | cons head _ ih => rw [List.any_cons, List.any_cons, head.identical same, ih]

/-! ## Texts -/

/-- Values that are twins are shown alike inside containers that are twins. -/
def ShowsAlike (moved : Relocation) (extent : Extent)
    (deeper deeper' : List Value → Value → Option String) : Prop :=
  ∀ {outer others : List Value} {a b : Value}, Twins moved extent outer others →
    Twin moved extent a b → deeper outer a = deeper' others b

namespace Mirrors

variable {deeper deeper' : List Value → Value → Option String}

mutual

theorem showStep (mirrors : memory.Mirrors moved extent other)
    (each : ShowsAlike moved extent deeper deeper') :
    ∀ {a b : Value} {outer others : List Value}, Twins moved extent outer others →
      Twin moved extent a b → memory.showStep deeper outer a = other.showStep deeper' others b
  | .tuple xs, _, outer, others, around, .tuple same => by
      unfold Memory.showStep
      rw [isOpen_twin around (.tuple same), showTuple mirrors each (.cons (.tuple same) around) same]
  | .method _ _, _, _, _, around, .method name same => by
      unfold Memory.showStep
      rw [showStep mirrors each around same, same.typeName]
  | .list id, _, outer, others, around, .list there moves => by
      have same := Twin.list there moves
      have all := mirrors.lists there
      rw [moves] at all
      unfold Memory.showStep
      rw [isOpen_twin around same, mapM_eq_of_forall₂ (all.imp fun _ _ => each (.cons same around))]
  | .map id, _, outer, others, around, .map there moves => by
      have same := Twin.map there moves
      have all := mirrors.maps there
      rw [moves] at all
      unfold Memory.showStep
      rw [isOpen_twin around same]
      dsimp only
      rw [mapM_eq_of_forall₂ (all.imp fun _ _ pair => by
        rw [each (.cons same around) pair.1, each (.cons same around) pair.2])]
  | .liveList id, _, _, _, around, .liveList there => by
      obtain ⟨raw, moves⟩ := mirrors.rawLists there
      unfold Memory.showStep
      rw [each around (.list raw moves)]
  | .liveMap id, _, _, _, around, .liveMap there => by
      obtain ⟨raw, moves⟩ := mirrors.rawMaps there
      unfold Memory.showStep
      rw [each around (.map raw moves)]
  | .node id, _, outer, others, around, .node there moves => by
      have same := Twin.node there moves
      have parts := mirrors.nodes there
      rw [moves] at parts
      unfold Memory.showStep
      rw [isOpen_twin around same]
      dsimp only
      rw [each (.cons same around) parts.type, each (.cons same around) parts.props,
        each (.cons same around) parts.children]
  | .ref id, _, _, _, around, .ref _ => by
      unfold Memory.showStep
      rw [each around (mirrors.refAt id)]
  | .handle kind id, _, _, _, _, .handle _ => congrArg some (mirrors.outlook kind id).shown
  | .none, _, _, _, _, .none | .undefined, _, _, _, _, .undefined
  | .missing, _, _, _, _, .missing | .ellipsis, _, _, _, _, .ellipsis
  | .bool _, _, _, _, _, .bool _ | .int _, _, _, _, _, .int _
  | .float _, _, _, _, _, .float _ | .nan _, _, _, _, _, .nan _ _
  | .complex _ _, _, _, _, _, .complex _ _ | .str _, _, _, _, _, .str _
  | .text _, _, _, _, _, .text _ | .function _, _, _, _, _, .function _
  | .component _, _, _, _, _, .component _ | .object _, _, _, _, _, .object _
  | .incomparable _, _, _, _, _, .incomparable _ | .scope _, _, _, _, _, .scope _
  | .other _, _, _, _, _, .other _ => by
      unfold Memory.showStep
      rfl

theorem showTuple (mirrors : memory.Mirrors moved extent other)
    (each : ShowsAlike moved extent deeper deeper') :
    ∀ {xs ys outer others : List Value}, Twins moved extent outer others →
      Twins moved extent xs ys →
        Memory.showStep.showTuple memory deeper outer xs =
          Memory.showStep.showTuple other deeper' others ys
  | [], _, _, _, _, .nil => rfl
  | _ :: _, _, _, _, around, .cons first rest => by
      unfold Memory.showStep.showTuple
      rw [showStep mirrors each around first, showTuple mirrors each around rest]

end

theorem showWithin (mirrors : memory.Mirrors moved extent other) (depth : Nat) :
    ShowsAlike moved extent (memory.showWithin depth) (other.showWithin depth) := by
  induction depth with
  | zero => exact fun _ _ => rfl
  | succ depth ih => exact fun around same => mirrors.showStep ih around same

variable (mirrors : memory.Mirrors moved extent other)
include mirrors

theorem shown? (same : Twin moved extent a b) : memory.shown? a = other.shown? b := by
  unfold Memory.shown?
  rw [mirrors.levels]
  exact mirrors.showWithin _ .nil same

theorem textOf? (same : Twin moved extent a b) : memory.textOf? a = other.textOf? b := by
  have shown := mirrors.shown? same
  cases same <;> first | rfl | exact shown

theorem missingKey (same : Twin moved extent a b) :
    memory.missingKey a = other.missingKey b := by
  unfold Memory.missingKey
  rw [mirrors.shown? same]

/-! ## Pictures -/

theorem snapshotEntries {deeper deeper' : Value → Except Cause Datum}
    (each : ∀ {a b}, Twin moved extent a b → deeper a = deeper' b)
    (same : Twin moved extent a b) :
    memory.snapshotEntries deeper a = other.snapshotEntries deeper' b := by
  cases same
  case map there moves =>
    have all := mirrors.maps there
    rw [moves] at all
    exact mapM_eq_of_forall₂ (all.imp fun _ _ pair => by
      dsimp only
      rw [each pair.1, each pair.2])
  case liveMap there =>
    exact mapM_eq_of_forall₂ ((mirrors.liveEntries there).imp fun _ _ pair => by
      dsimp only
      rw [each pair.1, each pair.2])
  all_goals rfl

theorem snapshotItems {deeper deeper' : Value → Except Cause Datum}
    (each : ∀ {a b}, Twin moved extent a b → deeper a = deeper' b)
    (same : Twin moved extent a b) :
    memory.snapshotItems deeper a = other.snapshotItems deeper' b := by
  cases same
  case tuple same => exact mapM_eq_of_forall₂ (same.imp fun _ _ => each)
  case list there moves =>
    have all := mirrors.lists there
    rw [moves] at all
    exact mapM_eq_of_forall₂ (all.imp fun _ _ => each)
  case map there moves =>
    have all := mirrors.maps there
    rw [moves] at all
    exact mapM_eq_of_forall₂ (all.keys.imp fun _ _ => each)
  case liveList there =>
    unfold Memory.snapshotItems
    dsimp only
    rw [mapM_eq_of_forall₂ ((mirrors.liveItems there).imp fun _ _ => each)]
  case liveMap there =>
    exact mapM_eq_of_forall₂ ((mirrors.liveEntries there).keys.imp fun _ _ => each)
  all_goals rfl

omit mirrors in
mutual

theorem snapshotStep (mirrors : memory.Mirrors moved extent other)
    {deeper deeper' : Value → Except Cause Datum}
    (each : ∀ {a b}, Twin moved extent a b → deeper a = deeper' b) :
    ∀ {a b : Value}, Twin moved extent a b →
      memory.snapshotStep deeper a = other.snapshotStep deeper' b
  | .tuple _, _, .tuple same => by
      unfold Memory.snapshotStep
      rw [snapshotTuple mirrors each same]
  | .method _ _, _, .method _ _ => by
      unfold Memory.snapshotStep
      rfl
  | .list id, _, .list there moves => by
      have all := mirrors.lists there
      rw [moves] at all
      unfold Memory.snapshotStep
      rw [mapM_eq_of_forall₂ (all.imp fun _ _ => each)]
  | .map id, _, .map there moves => by
      unfold Memory.snapshotStep
      rw [mirrors.snapshotEntries each (.map there moves)]
  | .liveList id, _, .liveList there => by
      obtain ⟨raw, moves⟩ := mirrors.rawLists there
      unfold Memory.snapshotStep
      rw [each (.list raw moves)]
  | .liveMap id, _, .liveMap there => by
      obtain ⟨raw, moves⟩ := mirrors.rawMaps there
      unfold Memory.snapshotStep
      rw [each (.map raw moves)]
  | .node id, _, .node there moves => by
      have parts := mirrors.nodes there
      rw [moves] at parts
      unfold Memory.snapshotStep
      dsimp only
      rw [each parts.type, mirrors.snapshotEntries each parts.props,
        mirrors.snapshotItems each parts.children]
  | .object id, _, .object _ => by
      have all := mapM_eq_of_forall₂ ((mirrors.objects id).imp fun a b both =>
        show (do return (a.1, ← deeper a.2)) = (do return (b.1, ← deeper' b.2)) by
          rw [both.1, each both.2])
      unfold Memory.snapshotStep
      exact congrArg (fun told => told >>= fun attributes => pure (Datum.object attributes)) all
  | .ref id, _, .ref _ => by
      unfold Memory.snapshotStep
      rw [each (mirrors.refAt id)]
  | .none, _, .none | .undefined, _, .undefined | .missing, _, .missing
  | .ellipsis, _, .ellipsis | .bool _, _, .bool _ | .int _, _, .int _
  | .float _, _, .float _ | .nan _, _, .nan _ _ | .complex _ _, _, .complex _ _
  | .str _, _, .str _ | .text _, _, .text _ | .function _, _, .function _
  | .component _, _, .component _ | .incomparable _, _, .incomparable _
  | .scope _, _, .scope _ | .handle _ _, _, .handle _ | .other _, _, .other _ => by
      unfold Memory.snapshotStep
      rfl

theorem snapshotTuple (mirrors : memory.Mirrors moved extent other)
    {deeper deeper' : Value → Except Cause Datum}
    (each : ∀ {a b}, Twin moved extent a b → deeper a = deeper' b) :
    ∀ {xs ys : List Value}, Twins moved extent xs ys →
      Memory.snapshotStep.snapshotTuple memory deeper xs =
        Memory.snapshotStep.snapshotTuple other deeper' ys
  | [], _, .nil => rfl
  | _ :: _, _, .cons first rest => by
      unfold Memory.snapshotStep.snapshotTuple
      rw [snapshotStep mirrors each first, snapshotTuple mirrors each rest]

end

theorem snapshotWithin (depth : Nat) (same : Twin moved extent a b) :
    memory.snapshotWithin depth a = other.snapshotWithin depth b := by
  induction depth generalizing a b with
  | zero => rfl
  | succ depth ih => exact mirrors.snapshotStep ih same

theorem snapshot (same : Twin moved extent a b) : memory.snapshot a = other.snapshot b := by
  unfold Memory.snapshot
  rw [mirrors.levels]
  exact mirrors.snapshotWithin _ same

end Mirrors

end Memory

end ReactiveSchema
