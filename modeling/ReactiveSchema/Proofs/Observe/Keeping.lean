import ReactiveSchema.Proofs.Observe.TandemParts

/-!
# Keeping everything in reach

A state is whole when every place that is named in it is there.  A computation
that keeps it whole takes no place away, and what it comes to names only places
that are there by then.
-/

namespace ReactiveSchema

variable {σ α β γ : Type} {extent small large : Extent}

/-! ## States with places -/

/-- States with places, of which some are named in them. -/
class Bounded (σ : Type) where
  /-- Everything that a state holds is within an extent. -/
  Holds : σ → Extent → Prop
  /-- How many places there are; what lies beside the state is as given. -/
  bounds : σ → Extent → Extent
  bounds_bounds (before after : σ) (extent : Extent) :
    bounds after (bounds before extent) = bounds after extent

open Bounded

instance : Bounded Memory where
  Holds := Memory.Whole
  bounds := Memory.bounds
  bounds_bounds _ _ _ := rfl

/-! ## Faults -/

/-- All values that a fault lists are within an extent. -/
abbrev Fault.Within (extent : Extent) (fault : Fault) : Prop :=
  FaultTwin .still extent fault fault

mutual

theorem FaultTwin.within {moved : Relocation} : ∀ {f g : Fault}, FaultTwin moved extent f g →
    f.Within extent
  | .syntaxError .., _, .syntaxError message source column code text =>
      .syntaxError message source column code text
  | .evaluation .., _, .evaluation source cause text same =>
      .evaluation source cause text (FaultTwin.withinAll same)
  | .unbalanced .., _, .unbalanced depth expected => .unbalanced depth expected
  | .failure _, _, .failure cause => .failure cause
  | .exhausted, _, .exhausted => .exhausted

theorem FaultTwin.withinAll {moved : Relocation} :
    ∀ {xs ys : List (String × Except Fault Value)}, FindingTwins moved extent xs ys →
      FindingTwins .still extent xs xs
  | [], _, .nil => .nil
  | (_, .ok _) :: _, _, .value token same rest =>
      .value token same.within (FaultTwin.withinAll rest)
  | (_, .error _) :: _, _, .fault token same rest =>
      .fault token (FaultTwin.within same) (FaultTwin.withinAll rest)

end

/-! ## What is known -/

/-- Anything at all. -/
abbrev Anything : Extent → α → Prop :=
  fun _ _ => True

/-- A value all of whose places are there. -/
abbrev Known : Extent → Value → Prop :=
  fun extent value => value.Within extent

/-- Values all of whose places are there. -/
abbrev AllKnown : Extent → List Value → Prop :=
  fun extent items => Twins .still extent items items

/-- Entries all of whose places are there. -/
abbrev EntriesKnown : Extent → List (Value × Value) → Prop :=
  fun extent entries => EntryTwins .still extent entries entries

/-- A value, if there is one, all of whose places are there. -/
abbrev MaybeKnown : Extent → Option Value → Prop :=
  fun extent found => ∀ value, found = some value → value.Within extent

theorem allKnown_iff {items : List Value} :
    AllKnown extent items ↔ ∀ item ∈ items, item.Within extent :=
  List.forall₂_same

theorem entriesKnown_iff {entries : List (Value × Value)} :
    EntriesKnown extent entries ↔
      ∀ entry ∈ entries, entry.1.Within extent ∧ entry.2.Within extent :=
  List.forall₂_same

theorem AllKnown.mono {items : List Value} (known : AllKnown small items)
    (fits : small.Fits large) : AllKnown large items :=
  Twin.monoAll fits known

theorem AllKnown.getD {items : List Value} (known : AllKnown extent items) (place : Nat) :
    Known extent (items[place]?.getD .none) := by
  cases found : items[place]? with
  | none => exact .none
  | some item => exact allKnown_iff.mp known item (List.mem_of_getElem? found)

/-- What is known stays known when more places come. -/
def Abiding (R : Extent → α → Prop) : Prop :=
  ∀ ⦃small large : Extent⦄ ⦃a : α⦄, small.Fits large → R small a → R large a

theorem abiding_anything : Abiding (Anything (α := α)) :=
  fun _ _ _ _ _ => trivial

theorem abiding_known : Abiding Known :=
  fun _ _ _ fits known => known.mono fits

/-! ## Computations -/

/-- A result of some kind, or a fault all of whose values are there. -/
inductive Outcome (R : Extent → α → Prop) (extent : Extent) : Except Fault α → Prop
  | ok {a : α} : R extent a → Outcome R extent (.ok a)
  | error {fault : Fault} : fault.Within extent → Outcome R extent (.error fault)

theorem Outcome.imp {R S : Extent → α → Prop} {result : Except Fault α}
    (outcome : Outcome R extent result) (weaker : ∀ a, R extent a → S extent a) :
    Outcome S extent result := by
  cases outcome with
  | ok known => exact .ok (weaker _ known)
  | error within => exact .error within

theorem Outcome.mono {R : Extent → α → Prop} {result : Except Fault α} (abiding : Abiding R)
    (outcome : Outcome R small result) (fits : small.Fits large) : Outcome R large result := by
  cases outcome with
  | ok known => exact .ok (abiding fits known)
  | error within => exact .error (within.mono fits)

section Keeping

variable [Bounded σ]

/-- What a run has come to: a whole state with no fewer places, and a result within it. -/
structure Kept (extent : Extent) (R : Extent → α → Prop) (ran : Except Fault α × σ) : Prop where
  holds : Holds ran.2 (bounds ran.2 extent)
  fits : extent.Fits (bounds ran.2 extent)
  outcome : Outcome R (bounds ran.2 extent) ran.1

/-- Wherever all places of an extent are there, a computation keeps the state whole. -/
def Keeps (extent : Extent) (R : Extent → α → Prop) (body : ExceptT Fault (StateM σ) α) : Prop :=
  ∀ (large : Extent) (state : σ), extent.Fits large → Holds state large →
    bounds state large = large → Kept large R (body.run state)

namespace Keeps

variable {R S : Extent → α → Prop} {T : Extent → β → Prop}
  {body : ExceptT Fault (StateM σ) α}

/-- A computation goes on from where another one has ended. -/
theorem after {state : σ} (keeps : Keeps (bounds state extent) R body)
    (held : Holds state (bounds state extent)) :
    Holds (body.run state).2 (bounds (body.run state).2 extent) ∧
      (bounds state extent).Fits (bounds (body.run state).2 extent) ∧
      Outcome R (bounds (body.run state).2 extent) (body.run state).1 := by
  have ⟨holds, fits, outcome⟩ := keeps _ state (.refl _) held (bounds_bounds state state extent)
  rw [bounds_bounds] at holds fits outcome
  exact ⟨holds, fits, outcome⟩

/-- What goes on from where another computation has ended well keeps what that one has kept. -/
theorem onward {next : ExceptT Fault (StateM σ) β} {middle : σ} (fits : extent.Fits (bounds middle extent))
    (keeps : Keeps (bounds middle extent) T next) (held : Holds middle (bounds middle extent)) :
    Kept extent T (next.run middle) :=
  have ⟨holds, more, outcome⟩ := keeps.after held
  ⟨holds, fits.trans more, outcome⟩

/-- What leaves the state as it is. -/
theorem of_steady {result : σ → Except Fault α} (ran : ∀ state, body.run state = (result state, state))
    (each : ∀ (large : Extent) (state : σ), extent.Fits large → Holds state large →
      bounds state large = large → Outcome R large (result state)) : Keeps extent R body := by
  intro large state fits held reach
  have outcome := each large state fits held reach
  rw [ran]
  constructor
  all_goals dsimp only; rw [reach]
  · exact held
  · exact .refl _
  · exact outcome

theorem pure {a : α} (known : ∀ large, extent.Fits large → R large a) :
    Keeps extent R (Pure.pure a : ExceptT Fault (StateM σ) α) :=
  of_steady (fun _ => rfl) fun large _ fits _ _ => .ok (known large fits)

theorem done {a : α} : Keeps extent Anything (Pure.pure a : ExceptT Fault (StateM σ) α) :=
  pure fun _ _ => trivial

theorem throw {fault : Fault} (within : fault.Within extent) :
    Keeps extent R (MonadExcept.throw fault : ExceptT Fault (StateM σ) α) :=
  of_steady (fun _ => rfl) fun _ _ fits _ _ => .error (within.mono fits)

theorem get : Keeps extent (fun large (state : σ) => Holds state large ∧
    bounds state large = large) MonadState.get :=
  of_steady (fun _ => rfl) fun _ _ _ held reach => .ok ⟨held, reach⟩

theorem modifyGet {change : σ → α × σ}
    (each : ∀ (large : Extent) (state : σ), extent.Fits large → Holds state large →
      bounds state large = large → Holds (change state).2 (bounds (change state).2 large) ∧
        large.Fits (bounds (change state).2 large) ∧
        R (bounds (change state).2 large) (change state).1) :
    Keeps extent R (MonadState.modifyGet change) :=
  fun large state fits held reach =>
    have ⟨holds, more, known⟩ := each large state fits held reach
    ⟨holds, more, .ok known⟩

theorem imp (keeps : Keeps extent R body) (weaker : ∀ large a, R large a → S large a) :
    Keeps extent S body :=
  fun large state fits held reach =>
    have ⟨holds, more, outcome⟩ := keeps large state fits held reach
    ⟨holds, more, outcome.imp (weaker _)⟩

/-- What comes of it does not matter. -/
theorem ended (keeps : Keeps extent R body) : Keeps extent Anything body :=
  keeps.imp fun _ _ _ => trivial

theorem mono (keeps : Keeps small R body) (fits : small.Fits large) : Keeps large R body :=
  fun larger state more held reach => keeps larger state (fits.trans more) held reach

theorem bind {next : α → ExceptT Fault (StateM σ) β} (start : Keeps extent R body)
    (rest : ∀ large a, extent.Fits large → R large a → Keeps large T (next a)) :
    Keeps extent T (body >>= next) := by
  intro large state fits held reach
  have begun := start large state fits held reach
  rw [run_bind]
  rcases ran : body.run state with ⟨fault | value, middle⟩ <;> rw [ran] at begun
  · obtain ⟨holds, more, outcome⟩ := begun
    cases outcome with
    | error within => exact ⟨holds, more, .error within⟩
  · obtain ⟨holds, more, outcome⟩ := begun
    cases outcome with
    | ok known => exact onward more (rest _ value (fits.trans more) known) holds

/-- A choice of two runs, and what follows either. -/
theorem branch {test : Prop} [Decidable test] {otherwise : ExceptT Fault (StateM σ) α}
    {next : α → ExceptT Fault (StateM σ) β} (yes : Keeps extent R body)
    (no : Keeps extent R otherwise)
    (rest : ∀ large a, extent.Fits large → R large a → Keeps large T (next a)) :
    Keeps extent T (if test then body >>= next else otherwise >>= next) := by
  split
  · exact bind yes rest
  · exact bind no rest

/-- A run that may come first, and what follows whether it does or not. -/
theorem perhaps {test : Prop} [Decidable test] {step : ExceptT Fault (StateM σ) Unit}
    {next : Unit → ExceptT Fault (StateM σ) β} (start : Keeps extent Anything step)
    (rest : ∀ large, extent.Fits large → Keeps large T (next ())) :
    Keeps extent T (if test then step >>= next else next ()) := by
  split
  · exact bind start fun large _ fits _ => rest large fits
  · exact rest _ (.refl _)

theorem tryCatch {handle : Fault → ExceptT Fault (StateM σ) α} (start : Keeps extent R body)
    (rest : ∀ large fault, extent.Fits large → fault.Within large →
      Keeps large R (handle fault)) :
    Keeps extent R (MonadExcept.tryCatch body handle) := by
  intro large state fits held reach
  have begun := start large state fits held reach
  rw [run_tryCatch]
  rcases ran : body.run state with ⟨fault | value, middle⟩ <;> rw [ran] at begun
  · obtain ⟨holds, more, outcome⟩ := begun
    cases outcome with
    | error within => exact onward more (rest _ fault (fits.trans more) within) holds
  · exact begun

/-- A run, then another one on every way out, whose fault wins. -/
theorem closing (abiding : Abiding R) {leave : ExceptT Fault (StateM σ) β}
    {whole : ExceptT Fault (StateM σ) α} (start : Keeps extent R body)
    (close : ∀ large, extent.Fits large → Keeps large T leave)
    (ran : ∀ state, whole.run state = match leave.run (body.run state).2 with
      | (.ok _, last) => ((body.run state).1, last)
      | (.error fault, last) => (.error fault, last)) : Keeps extent R whole := by
  intro large state fits held reach
  have begun := start large state fits held reach
  have ended := (close _ (fits.trans begun.fits)).after begun.holds
  rw [ran]
  split
  case h_1 last left =>
    rw [left] at ended
    have ⟨holds, more, _⟩ := ended
    exact ⟨holds, begun.fits.trans more, begun.outcome.mono abiding more⟩
  case h_2 fault last left =>
    rw [left] at ended
    obtain ⟨holds, more, outcome⟩ := ended
    cases outcome with
    | error within => exact ⟨holds, begun.fits.trans more, .error within⟩

/-! ## Loops -/

theorem mapM {step : α → ExceptT Fault (StateM σ) β} (abiding : Abiding T) {items : List α}
    (each : ∀ large, extent.Fits large → ∀ item ∈ items, Keeps large T (step item)) :
    Keeps extent (fun large results => ∀ result ∈ results, T large result) (items.mapM step) := by
  induction items generalizing extent with
  | nil => exact pure fun _ _ => by simp
  | cons item items ih =>
      rw [List.mapM_cons]
      refine bind (each _ (.refl _) item (.head _)) fun large head fits known => ?_
      refine bind (ih fun larger more other has => each larger (fits.trans more) other (.tail _ has))
        fun larger rest more others => pure fun last most => ?_
      rw [List.forall_mem_cons]
      exact ⟨abiding (more.trans most) known, fun other has => abiding most (others other has)⟩

theorem filterMapM {step : α → ExceptT Fault (StateM σ) (Option β)} {items : List α}
    (each : ∀ large, extent.Fits large → ∀ item ∈ items, Keeps large Anything (step item)) :
    Keeps extent Anything (items.filterMapM step) := by
  have go (kept : List β) : Keeps extent Anything (List.filterMapM.loop step items kept) := by
    induction items generalizing extent kept with
    | nil => exact done
    | cons item items ih =>
        unfold List.filterMapM.loop
        refine bind (each _ (.refl _) item (.head _)) fun large found fits _ => ?_
        have later := fun larger more other has =>
          each larger (fits.trans more) other (List.mem_cons_of_mem item has)
        cases found with
        | none => exact ih later _
        | some found => exact ih later _
  exact go []

theorem filterM {test : α → ExceptT Fault (StateM σ) Bool} {items : List α}
    (each : ∀ large, extent.Fits large → ∀ item ∈ items, Keeps large Anything (test item)) :
    Keeps extent (fun _ kept => ∀ item ∈ kept, item ∈ items) (items.filterM test) := by
  have go (kept : List α) : Keeps extent (fun _ all => ∀ item ∈ all, item ∈ items ∨ item ∈ kept)
      (List.filterAuxM test items kept) := by
    induction items generalizing extent kept with
    | nil => exact pure fun _ _ item has => .inr has
    | cons item items ih =>
        unfold List.filterAuxM
        refine bind (each _ (.refl _) item (.head _)) fun large accepted fits _ => ?_
        have later := fun larger more other has =>
          each larger (fits.trans more) other (List.mem_cons_of_mem item has)
        refine (ih later _).imp fun _ all from_ other has => ?_
        obtain among | old := from_ other has
        · exact .inl (.tail _ among)
        · cases accepted with
          | true =>
              obtain rfl | old := List.mem_cons.mp old
              · exact .inl (.head _)
              · exact .inr old
          | false => exact .inr old
  refine bind (go []) fun _ all _ from_ => pure fun _ _ item has => ?_
  exact (from_ item (List.mem_reverse.mp has)).resolve_right List.not_mem_nil

end Keeps

end Keeping

/-! ## Looks -/

/-- A first look at nothing: no place moves. -/
def FirstLook.idle : FirstLook := ⟨.empty, .empty⟩

namespace Tandem

variable {R : Extent → α → β → Prop} {S : Extent → α → Prop} {look : Observe α} {twin : Observe β}

/-- What runs in tandem keeps memory whole. -/
theorem keeps (tandem : ∀ large, extent.Fits large → Tandem .idle large R look twin)
    (weaker : ∀ large a b, R large a b → S large a) : Keeps extent S look := by
  intro large memory fits held reach
  change memory.bounds large = large at reach
  have ready : memory.Ready large := ⟨by rw [reach]; exact held, by rw [reach]; exact .refl _⟩
  have lasts := (tandem large fits).lasts ready
  obtain ⟨_, same⟩ := (tandem large fits).result ready
  have ahead := lasts.fits
  rw [reach] at ahead
  refine ⟨lasts.whole, ahead, ?_⟩
  generalize (look.run memory).1 = result at same
  cases same with
  | ok related => exact .ok (weaker _ _ _ related)
  | error same => exact .error same.within

theorem keeps_done (tandem : ∀ large, extent.Fits large → Tandem .idle large R look twin) :
    Keeps extent Anything look :=
  keeps tandem fun _ _ _ _ => trivial

variable {make twin : Observe Value} {list others : Observe (List Value)}
  {map twins : Observe (List (Value × Value))}

theorem keeps_value
    (tandem : ∀ large, extent.Fits large → Tandem .idle large (Twin .still) make twin) :
    Keeps extent Known make :=
  keeps tandem fun _ _ _ same => same.within

theorem keeps_all
    (tandem : ∀ large, extent.Fits large → Tandem .idle large (Twins .still) list others) :
    Keeps extent AllKnown list :=
  keeps tandem fun large _ _ same =>
    Twin.unmovedAll (Relocation.spares_still large) (.refl _) same

theorem keeps_entries
    (tandem : ∀ large, extent.Fits large → Tandem .idle large (EntryTwins .still) map twins) :
    Keeps extent EntriesKnown map :=
  keeps tandem fun _ _ _ same => EntryTwins.within same

end Tandem

end ReactiveSchema
