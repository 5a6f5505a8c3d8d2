import ReactiveSchema.Proofs.Act.Keeping
import ReactiveSchema.Proofs.Act.Respect

/-!
# Writes of the world that keep everything in reach

Writes to cells and live containers, and to the store of bindings, with all the
effects that they lead to.
-/

namespace ReactiveSchema

variable {extent small large : Extent}

namespace Keeps

variable {runner : Runner} (keeps : runner.Keeps) {id : LiveMapId} {list : LiveListId}
  {key value : Value} {items : List Value}

/-- Memory that is part of a whole world. -/
theorem remembered {world : World}
    (held : Bounded.Holds world large ∧ Bounded.bounds world large = large) :
    world.memory.Whole large ∧ world.memory.bounds large = large := by
  obtain ⟨held, reach⟩ := held
  change world.reach = large at reach
  subst reach
  exact ⟨World.Within.memory held, rfl⟩

theorem fail {α : Type} {R : Extent → α → Prop} (cause : Cause) :
    Keeps extent R (Act.fail cause) :=
  throw (.failure cause)

section Telling

include keeps

/-! ## Cells -/

theorem refSet (id : RefId) (known : Known extent value) :
    Keeps extent Anything (Act.refSet runner id value) := by
  refine bind get fun large world fits held => ?_
  dsimp only
  split
  · exact done
  case h_2 cell found =>
    have old : Known large cell.content := (remembered held).1.refs found
    refine bind (observe (hasChanged old (known.mono fits))) fun larger changed more _ => ?_
    split
    · refine bind (observe (setRef id (known.mono (fits.trans more)))) fun _ _ _ _ => ?_
      exact trigger keeps _
    · exact done

/-! ## Live maps -/

theorem triggerKeys (id : LiveMapId) : Keeps extent Anything (Act.triggerKeys runner id) :=
  bind get fun _ _ _ _ => trigger keeps _

theorem triggerKey (id : LiveMapId) (known : Known extent key) :
    Keeps extent Anything (Act.triggerKey runner id key) :=
  bind (observe (Tandem.keeps_done fun _ fits => Tandem.keyDep id (known.mono fits)))
    fun _ _ _ _ => trigger keeps _

theorem tellWritten (id : LiveMapId) {old : Option Value} (keys : Known extent key)
    (known : Known extent value) (olds : MaybeKnown extent old) :
    Keeps extent Anything (Act.tellWritten runner id key value old) := by
  cases old with
  | none =>
      exact bind (triggerKeys keeps id) fun _ _ fits _ => triggerKey keeps id (keys.mono fits)
  | some old =>
      refine bind (observe (hasChanged (olds old rfl) known)) fun _ changed fits _ => ?_
      split
      · exact triggerKey keeps id (keys.mono fits)
      · exact done

theorem liveMapSet (id : LiveMapId) (keys : Known extent key) (known : Known extent value) :
    Keeps extent Anything (Act.liveMapSet runner id key value) := by
  rw [Act.liveMapSet_eq]
  refine bind get fun e₁ world f₁ held => ?_
  have keys := keys.mono f₁
  have known := toRaw (remembered held) (known.mono f₁)
  refine bind (observe (plainEntry id key)) fun e₂ old f₂ olds => ?_
  have keys := keys.mono f₂
  have known := known.mono f₂
  have written : Keeps e₂ Anything (do
      Observe.mapSet ((← MonadState.get).rawMap id) key (world.memory.toRaw value)
      Act.dropFace id key) :=
    bind get fun _ _ more _ => bind (mapSet _ (keys.mono more) (known.mono more)) fun _ _ _ _ =>
      dropFace id key
  refine bind (observe written) fun e₃ _ f₃ _ => batch keeps abiding_anything ?_
  exact tellWritten keeps id (keys.mono f₃) (known.mono f₃) (abiding_maybe f₃ olds)

theorem liveMapDelete (id : LiveMapId) (known : Known extent key) :
    Keeps extent Anything (Act.liveMapDelete runner id key) := by
  have erased : Keeps extent Anything (do
      Observe.mapDelete ((← MonadState.get).rawMap id) key
      Act.dropFace id key) :=
    bind get fun _ _ _ _ => bind (mapDelete _ key) fun _ _ _ _ => dropFace id key
  refine bind (observe erased) fun _ _ fits _ => batch keeps abiding_anything ?_
  exact bind (triggerKeys keeps id) fun _ _ more _ => triggerKey keeps id (known.mono (fits.trans more))

theorem liveMapPop (there : id < extent.liveMaps) (known : Known extent key)
    {otherwise : Option Value} (instead : MaybeKnown extent otherwise) :
    Keeps extent Known (Act.liveMapPop runner id key otherwise) := by
  refine bind (observe (foundEntry there known _)) fun _ found fits founds => ?_
  cases found with
  | none =>
      cases otherwise with
      | none => exact pure fun _ _ => .none
      | some other => exact pure fun _ more => (instead other rfl).mono (fits.trans more)
  | some value =>
      exact bind (liveMapDelete keeps id (known.mono fits)) fun _ _ more _ =>
        pure fun _ last => (founds value rfl).mono (more.trans last)

/-- A pair, if there is one, that is known. -/
abbrev MaybePairKnown : Extent → Option (Value × Value) → Prop :=
  fun large found => ∀ pair, found = some pair → PairKnown large pair

theorem liveMapPopPair (there : id < extent.liveMaps) :
    Keeps extent MaybePairKnown (Act.liveMapPopEntry? runner id) := by
  refine bind (observe (liveMapKeys there)) fun e₁ all f₁ known => ?_
  cases known with
  | nil => exact pure fun _ _ => nofun
  | cons first _ =>
      refine bind (observe (liveMapGet (Nat.lt_of_lt_of_le there f₁.liveMaps) first)) ?_
      refine fun e₂ value f₂ values => bind (liveMapDelete keeps id (first.mono f₂)) ?_
      exact fun _ _ f₃ _ => pure fun _ last _ same => by
        cases same
        exact ⟨first.mono (f₂.trans (f₃.trans last)), values.mono (f₃.trans last)⟩

theorem liveMapPopEntry (there : id < extent.liveMaps) :
    Keeps extent Known (Act.liveMapPopEntry runner id) := by
  refine bind (liveMapPopPair keeps there) fun _ entry _ known => ?_
  cases entry with
  | none => exact fail _
  | some entry =>
      obtain ⟨keys, values⟩ := known entry rfl
      exact pure fun _ fits => .tuple (.cons (keys.mono fits) (.cons (values.mono fits) .nil))

omit keeps in
theorem untilFailure (kind : FailureKind) {body : Act Unit}
    (each : ∀ large, extent.Fits large → Keeps large Anything body) (limit : Nat) :
    Keeps extent Anything (Act.untilFailure kind body limit) := by
  induction limit generalizing extent with
  | zero => exact throw .exhausted
  | succ limit ih =>
      refine bind (tryCatch (bind (each _ (.refl _)) fun _ _ _ _ => done) ?_) fun _ more fits _ => ?_
      · intro _ fault _ within
        split
        · exact done
        · exact throw within
      · split
        · exact ih fun _ ahead => each _ (fits.trans ahead)
        · exact done

theorem liveMapClear (there : id < extent.liveMaps) :
    Keeps extent Anything (Act.liveMapClear runner id) :=
  untilFailure .key (fun _ fits => bind
    (liveMapPopEntry keeps (Nat.lt_of_lt_of_le there fits.liveMaps)) fun _ _ _ _ => done) _

theorem liveMapCopyKeys (id : LiveMapId) (known : Known extent value)
    (all : AllKnown extent items) :
    Keeps extent Anything (Act.liveMapCopyKeys runner id value items) := by
  induction items generalizing extent with
  | nil => exact done
  | cons key rest ih =>
      cases all with
      | cons head tail =>
          refine bind (observe (getItem known head)) fun _ found f₁ founds => ?_
          refine bind (liveMapSet keeps id (head.mono f₁) founds) fun _ _ f₂ _ => ?_
          exact ih (known.mono (f₁.trans f₂)) (AllKnown.mono tail (f₁.trans f₂))

theorem liveMapWritePairs (id : LiveMapId) (all : AllKnown extent items) :
    Keeps extent Anything (Act.liveMapWritePairs runner id items) := by
  induction items generalizing extent with
  | nil => exact done
  | cons item rest ih =>
      cases all with
      | cons head tail =>
          refine bind (observe (pairOf head)) fun _ pair f₁ both => ?_
          refine bind (liveMapSet keeps id both.1 both.2) fun _ _ f₂ _ => ?_
          exact ih (AllKnown.mono tail (f₁.trans f₂))

theorem liveMapUpdate (id : LiveMapId) (known : Known extent value) :
    Keeps extent Anything (Act.liveMapUpdate runner id value) := by
  refine batch keeps abiding_anything ?_
  refine bind (observe (iterate known)) fun _ items fits all => ?_
  split
  · exact liveMapCopyKeys keeps id (known.mono fits) all
  · exact liveMapWritePairs keeps id all

theorem liveMapSetDefault (there : id < extent.liveMaps) (keys : Known extent key)
    (known : Known extent value) :
    Keeps extent Known (Act.liveMapSetDefault runner id key value) := by
  refine bind (observe (foundEntry there keys _)) fun _ found fits founds => ?_
  cases found with
  | none =>
      exact bind (liveMapSet keeps id (keys.mono fits) (known.mono fits)) fun _ _ more _ =>
        pure fun _ last => known.mono ((fits.trans more).trans last)
  | some found => exact pure fun _ more => (founds found rfl).mono more

/-! ## Live lists -/

theorem listChanged (list : LiveListId) :
    Keeps extent Anything (Act.listChanged runner list) := by
  refine bind (observe (modifyLiveList list (fun _ => rfl) nofun)) fun _ _ _ _ => ?_
  exact bind get fun _ _ _ _ => trigger keeps _

/-- A change of the plain list behind a live one, which is told. -/
theorem changingList (list : LiveListId) {change : ListId → Observe Unit}
    (each : ∀ large raw, extent.Fits large → Keeps large Anything (change raw)) :
    Keeps extent Anything (do
      Act.observe (change (← Act.plainList list))
      Act.listChanged runner list) := by
  refine bind (bind get fun _ _ _ _ => done) fun _ raw fits _ => ?_
  exact bind (observe (each _ raw fits)) fun _ _ _ _ => listChanged keeps list

theorem liveListSet (list : LiveListId) (index : Value) (known : Known extent value) :
    Keeps extent Anything (Act.liveListSet runner list index value) :=
  bind get fun _ _ fits held => changingList keeps list fun _ raw more =>
    listSet raw index ((toRaw (remembered held) (known.mono fits)).mono more)

theorem liveListDelete (list : LiveListId) (index : Value) :
    Keeps extent Anything (Act.liveListDelete runner list index) :=
  changingList keeps list fun _ raw _ => listDelete raw index

theorem liveListInsert (list : LiveListId) (index : Value) (known : Known extent value) :
    Keeps extent Anything (Act.liveListInsert runner list index value) :=
  bind get fun _ _ fits held => changingList keeps list fun _ raw more =>
    listInsert raw index ((toRaw (remembered held) (known.mono fits)).mono more)

theorem liveListAppend (there : list < extent.liveLists) (known : Known extent value) :
    Keeps extent Anything (Act.liveListAppend runner list value) :=
  bind (observe (liveListLength there)) fun _ _ fits _ =>
    liveListInsert keeps list _ (known.mono fits)

theorem liveListExtend (list : LiveListId) (known : Known extent value) :
    Keeps extent Anything (Act.liveListExtend runner list value) :=
  bind (observe (plainItems known)) fun _ _ _ added => changingList keeps list fun _ raw more =>
    listExtend raw (AllKnown.mono added more)

theorem liveListSetSlice (list : LiveListId) (start stop : Value) (known : Known extent value) :
    Keeps extent Anything (Act.liveListSetSlice runner list start stop value) :=
  bind (observe (plainItems known)) fun _ _ _ added => changingList keeps list fun _ raw more =>
    listSetSlice raw start stop (AllKnown.mono added more)

theorem liveListDeleteSlice (list : LiveListId) (start stop : Value) :
    Keeps extent Anything (Act.liveListDeleteSlice runner list start stop) :=
  changingList keeps list fun _ raw _ => listSetSlice raw start stop .nil

theorem liveListPop {index : Value} (there : list < extent.liveLists)
    (known : Known extent index) : Keeps extent Known (Act.liveListPop runner list index) :=
  bind (observe (liveListGet there known)) fun _ _ _ found =>
    bind (liveListDelete keeps list index) fun _ _ more _ =>
      pure fun _ last => found.mono (more.trans last)

theorem liveListClear (there : list < extent.liveLists) :
    Keeps extent Anything (Act.liveListClear runner list) :=
  untilFailure .index (fun _ fits => bind
    (liveListPop keeps (Nat.lt_of_lt_of_le there fits.liveLists) (.int _)) fun _ _ _ _ => done) _

theorem liveListSwap (there : list < extent.liveLists) (i j : Int) :
    Keeps extent Anything (Act.liveListSwap runner list i j) := by
  refine bind (observe (liveListGetAt there j)) fun _ last f₁ lasts => ?_
  refine bind (observe (liveListGetAt (Nat.lt_of_lt_of_le there f₁.liveLists) i)) ?_
  intro _ first f₂ firsts
  exact bind (liveListSet keeps list _ (lasts.mono f₂)) fun _ _ f₃ _ =>
    liveListSet keeps list _ (firsts.mono f₃)

theorem liveListReverseFrom (there : list < extent.liveLists) (length place count : Nat) :
    Keeps extent Anything (Act.liveListReverseFrom runner list length place count) := by
  induction count generalizing extent place with
  | zero => exact done
  | succ count ih =>
      exact bind (liveListSwap keeps there _ _) fun _ _ fits _ =>
        ih (Nat.lt_of_lt_of_le there fits.liveLists) _

theorem liveListReverse (there : list < extent.liveLists) :
    Keeps extent Anything (Act.liveListReverse runner list) :=
  bind (observe (liveListLength there)) fun _ _ fits _ =>
    liveListReverseFrom keeps (Nat.lt_of_lt_of_le there fits.liveLists) _ _ _

theorem liveListRemove (there : list < extent.liveLists) (known : Known extent value) :
    Keeps extent Anything (Act.liveListRemove runner list value) :=
  bind (observe (liveListFind there known)) fun _ _ _ _ => liveListDelete keeps list _

/-! ## The store of bindings -/

omit keeps in
theorem newStore : Keeps extent (fun large store => store < large.liveMaps) Act.newStore :=
  observe (bind (newMapId .nil) fun _ _ _ there => newLiveMapId there)

theorem bindings {store : LiveMapId} (there : store < extent.liveMaps) (scopes : ScopePath)
    {added : Observe (Entries Value)}
    (each : ∀ large, extent.Fits large → Keeps large EntriesKnown added) :
    Keeps extent Anything (Act.bind runner store scopes added) := by
  unfold Act.bind
  cases scopes.getLast? with
  | none => exact fail _
  | some scope =>
      have made : Keeps extent Known (do Observe.newMap (← added)) :=
        bind (each _ (.refl _)) fun _ _ _ all => newMap all
      refine bind (observe made) fun _ bindings f₁ bound => ?_
      have there := Nat.lt_of_lt_of_le there f₁.liveMaps
      refine bind (observe (liveMapHas there (.scope scope))) fun _ known f₂ _ => ?_
      have there := Nat.lt_of_lt_of_le there f₂.liveMaps
      have bound := bound.mono f₂
      split
      · refine bind (observe (liveMapGet there (.scope scope))) fun _ value f₃ _ => ?_
        split
        · exact liveMapUpdate keeps _ (bound.mono f₃)
        · exact fail _
      · exact liveMapSet keeps store (.scope scope) bound

theorem liveMapDeleteAll (id : LiveMapId) (all : AllKnown extent items) :
    Keeps extent Anything (Act.liveMapDeleteAll runner id items) := by
  induction items generalizing extent with
  | nil => exact done
  | cons key rest ih =>
      cases all with
      | cons head tail =>
          exact bind (liveMapDelete keeps id head) fun _ _ fits _ => ih (AllKnown.mono tail fits)

theorem clearStore {store : LiveMapId} (there : store < extent.liveMaps) :
    Keeps extent Anything (Act.clearStore runner store) :=
  bind (observe (liveMapKeys there)) fun _ _ _ all => liveMapDeleteAll keeps store all

omit keeps in
theorem findInScopes {store : LiveMapId} (there : store < extent.liveMaps) (scopes : ScopePath)
    (known : Known extent value) (path : List String) :
    Keeps extent Known (Observe.findInScopes store scopes value path) := by
  have same {large : Extent} (fits : extent.Fits large) :
      Twin FirstLook.idle.moves large value value := known.mono fits
  exact Tandem.keeps_value fun _ fits =>
    Tandem.findInScopes (Nat.lt_of_lt_of_le there fits.liveMaps) scopes (same fits) path

theorem updateCell (cell : RefId) {store : LiveMapId} (there : store < extent.liveMaps)
    (scopes : ScopePath) (known : Known extent value) (path : List String) :
    Keeps extent Anything (Act.updateCell runner cell value store scopes path) := by
  refine bind (observe (findInScopes there scopes known path)) fun _ found _ founds => ?_
  split
  · exact done
  · exact refSet keeps cell founds

theorem resolve {store : LiveMapId} (there : store < extent.liveMaps) (scopes : ScopePath)
    (known : Known extent value) (token : String) :
    Keeps extent Anything (Act.resolve runner value store scopes token) := by
  refine bind (observe (newRef .none)) fun _ cell fits _ => ?_
  have within {path : List String} : Body.Within _ (.resolve cell value store scopes path) :=
    ⟨known.mono fits, Nat.lt_of_lt_of_le there fits.liveMaps⟩
  exact bind (watch keeps within .pre) fun _ _ _ _ => done

end Telling

end Keeps

end ReactiveSchema
