import ReactiveSchema.Reactive.Timing
import ReactiveSchema.Value.Basic

/-!
# The graph of effects

Which effects there are, which tracked state each of them has read on its last
run, and which of them wait to run again.  A subscription is kept on both of
its sides: with the effect and with the state that it read.  What an effect
does is left open.
-/

namespace ReactiveSchema

/-- An effect, by number. -/
abbrev EffectId := Nat

/-- A group of effects, by number. -/
abbrev EffectScopeId := Nat

variable {β : Type}

/-- An effect: what it does, and what is known of its runs. -/
structure Effect (β : Type) where
  body : β
  timing : Timing
  active : Bool
  runs : Nat
  /-- The tracked state it has read since its last run began, in the order of first reads. -/
  deps : List DepId

/-- Effects that are stopped together. -/
structure EffectScope where
  effects : List EffectId
  active : Bool

/-- What happens to effects and to tracked state. -/
inductive Event where
  /-- A run of an effect begins. -/
  | began (effect : EffectId)
  /-- A running effect reads tracked state. -/
  | read (effect : EffectId) (dep : DepId)
  /-- Tracked state is told to have changed, while a given effect runs or none. -/
  | told (dep : DepId) (running : Option EffectId)
  /-- A fault ends the working off of the queues before its time. -/
  | cutShort
  deriving DecidableEq

/-- The effects and everything that decides when they run. -/
structure Reactor (β : Type) where
  effects : Array (Effect β)
  scopes : Array EffectScope
  /-- The effects that have read each piece of tracked state, in the order of first reads. -/
  subscribers : Array (List EffectId)
  /-- Effects that wait to derive values, in the order they were triggered. -/
  preQueue : List EffectId
  /-- Effects that wait to use values, in the order they were triggered. -/
  postQueue : List EffectId
  batchDepth : Nat
  flushing : Bool
  /-- The effect that is running. -/
  activeEffect : Option EffectId
  /-- The group that new effects join. -/
  activeScope : Option EffectScopeId
  /-- What has happened, newest first.  It is kept for telling only: nothing depends on it. -/
  history : List Event

namespace Reactor

/-- No effects. -/
def empty : Reactor β :=
  ⟨#[], #[], #[], [], [], 0, false, none, none, []⟩

/-- Note what happens. -/
def note (reactor : Reactor β) (event : Event) : Reactor β :=
  { reactor with history := event :: reactor.history }

/-! ## Effects -/

/-- May the effect run again? -/
def isActive (reactor : Reactor β) (effect : EffectId) : Bool :=
  reactor.effects[effect]?.any (·.active)

/-- The tracked state that an effect has read. -/
def depsOf (reactor : Reactor β) (effect : EffectId) : List DepId :=
  (reactor.effects[effect]?.map (·.deps)).getD []

/-- When an effect runs. -/
def timingOf (reactor : Reactor β) (effect : EffectId) : Timing :=
  (reactor.effects[effect]?.map (·.timing)).getD .pre

/-- Change an effect. -/
def modifyEffect (reactor : Reactor β) (effect : EffectId) (change : Effect β → Effect β) :
    Reactor β :=
  { reactor with effects := reactor.effects.modify effect change }

/-- Add an effect that has not run; it joins the group that is active. -/
def addEffect (reactor : Reactor β) (body : β) (timing : Timing) (joins : Bool) :
    EffectId × Reactor β :=
  let effect := reactor.effects.size
  let added := { reactor with effects := reactor.effects.push ⟨body, timing, true, 0, []⟩ }
  match joins, reactor.activeScope with
  | true, some scope =>
      let join (group : EffectScope) : EffectScope :=
        if group.active then { group with effects := group.effects ++ [effect] } else group
      (effect, { added with scopes := added.scopes.modify scope join })
  | _, _ => (effect, added)

/-! ## Subscriptions -/

/-- The effects that have read a piece of tracked state. -/
def subscribersOf (reactor : Reactor β) (dep : DepId) : List EffectId :=
  reactor.subscribers[dep]?.getD []

/-- Replace the subscribers of a piece of tracked state. -/
def setSubscribers (reactor : Reactor β) (dep : DepId) (subscribers : List EffectId) :
    Reactor β :=
  let missing := dep + 1 - reactor.subscribers.size
  let grown := reactor.subscribers ++ Array.replicate missing []
  { reactor with subscribers := grown.setIfInBounds dep subscribers }

/-- Add to a list what it does not hold. -/
def addNew (items : List Nat) (item : Nat) : List Nat :=
  if items.contains item then items else items ++ [item]

/-- Subscribe an effect to a piece of tracked state. -/
def subscribe (reactor : Reactor β) (effect : EffectId) (dep : DepId) : Reactor β :=
  (reactor.setSubscribers dep (addNew (reactor.subscribersOf dep) effect)).modifyEffect effect
    fun cell => { cell with deps := addNew cell.deps dep }

/-- Note that a piece of tracked state was read: the running effect subscribes to it. -/
def track (reactor : Reactor β) (dep : DepId) : Reactor β :=
  match reactor.activeEffect with
  | none => reactor
  | some effect =>
      if reactor.isActive effect then
        (reactor.subscribe effect dep).note (.read effect dep)
      else reactor

/-- Note that several pieces of tracked state were read. -/
def trackAll (reactor : Reactor β) (deps : List DepId) : Reactor β :=
  deps.foldl track reactor

/-- Take an effect off the subscribers of tracked state. -/
def dropSubscriber (effect : EffectId) (reactor : Reactor β) (dep : DepId) : Reactor β :=
  reactor.setSubscribers dep ((reactor.subscribersOf dep).filter (· != effect))

/-- End all subscriptions of an effect. -/
def unsubscribe (reactor : Reactor β) (effect : EffectId) : Reactor β :=
  ((reactor.depsOf effect).foldl (dropSubscriber effect) reactor).modifyEffect effect
    fun cell => { cell with deps := [] }

/-- Stop an effect: it runs no more. -/
def stop (reactor : Reactor β) (effect : EffectId) : Reactor β :=
  if reactor.isActive effect then
    (reactor.unsubscribe effect).modifyEffect effect fun cell => { cell with active := false }
  else reactor

/-- The effects of a group. -/
def membersOf (reactor : Reactor β) (scope : EffectScopeId) : List EffectId :=
  (reactor.scopes[scope]?.map (·.effects)).getD []

/-- Stop the effects of a group, which takes no further ones. -/
def stopScope (reactor : Reactor β) (scope : EffectScopeId) : Reactor β :=
  let stopped := (reactor.membersOf scope).foldl stop reactor
  { stopped with scopes := stopped.scopes.modify scope fun _ => ⟨[], false⟩ }

/-- Begin a run of an effect: what it read before no longer counts. -/
def beginRun (reactor : Reactor β) (effect : EffectId) : Reactor β :=
  ((reactor.unsubscribe effect).modifyEffect effect
    fun cell => { cell with runs := cell.runs + 1 }).note (.began effect)

/-! ## Queues -/

/-- Queue an effect, unless it waits already. -/
def enqueue (reactor : Reactor β) (effect : EffectId) : Reactor β :=
  if reactor.timingOf effect = .post then
    { reactor with postQueue := addNew reactor.postQueue effect }
  else { reactor with preQueue := addNew reactor.preQueue effect }

/-- Does an effect wait? -/
def pending (reactor : Reactor β) : Bool :=
  !reactor.preQueue.isEmpty || !reactor.postQueue.isEmpty

/-- May queued effects run now? -/
def idle (reactor : Reactor β) : Bool :=
  reactor.batchDepth == 0 && !reactor.flushing

/-- Take the next effect off the queues. -/
def next? (reactor : Reactor β) : Option (EffectId × Reactor β) :=
  match reactor.preQueue, reactor.postQueue with
  | effect :: rest, _ => some (effect, { reactor with preQueue := rest })
  | [], effect :: rest => some (effect, { reactor with postQueue := rest })
  | [], [] => none

end Reactor

end ReactiveSchema
