import ReactiveSchema.Reactive.Write
import ReactiveSchema.Scope.Path

/-!
# The store of bindings

A store keeps the bindings of each scope in a live map.  A token is looked up
in the bindings of the scopes around a place, nearest first, and then in the
data; a cell that holds the result follows every later change of these.
-/

namespace ReactiveSchema

namespace Observe

/-- The bindings of a scope, if it has some. -/
def bindingsOf (store : LiveMapId) (scope : ScopeId) : Observe (Option Value) := do
  if ← liveMapHas store (.scope scope) then
    let bindings ← liveMapGet store (.scope scope)
    if (← lengthOf bindings) != 0 then return some bindings else return none
  else return none

/-- What a token is looked up in: bindings of the scopes, nearest first, then the data. -/
def chain (store : LiveMapId) (scopes : ScopePath) (data : Value) : Observe (List Value) := do
  let bound ← scopes.reverse.filterMapM (bindingsOf store)
  return bound ++ [data]

/-- The value of a path in the scopes around a place. -/
def findInScopes (store : LiveMapId) (scopes : ScopePath) (data : Value) (path : List String) :
    Observe Value := do
  findValue (← chain store scopes data) path

end Observe

namespace Act

/-- A new store. -/
def newStore : Act LiveMapId :=
  observe do Observe.newLiveMapId (← Observe.newMapId [])

/-- Add bindings to the innermost of some scopes; later ones win. -/
def bind (runner : Runner) (store : LiveMapId) (scopes : ScopePath)
    (added : Observe (Entries Value)) : Act Unit := do
  match scopes.getLast? with
  | none => fail (.badValue "Cannot bind into an empty scope path")
  | some scope => do
      let bindings ← observe (do Observe.newMap (← added))
      let key := Value.scope scope
      if ← observe (Observe.liveMapHas store key) then
        match ← observe (Observe.liveMapGet store key) with
        | .liveMap id => liveMapUpdate runner id bindings
        | other => fail (.noAttribute other.typeName "update")
      else liveMapSet runner store key bindings

/-- Remove keys one after another. -/
def liveMapDeleteAll (runner : Runner) (id : LiveMapId) : List Value → Act Unit
  | [] => pure ()
  | key :: rest => do
      liveMapDelete runner id key
      liveMapDeleteAll runner id rest

/-- Remove all bindings, scope by scope. -/
def clearStore (runner : Runner) (store : LiveMapId) : Act Unit := do
  let scopes ← observe (Observe.liveMapKeys store)
  liveMapDeleteAll runner store scopes

/-- Bring a cell to the value of a path; where nothing owns the path the cell keeps its own. -/
def updateCell (runner : Runner) (cell : RefId) (data : Value) (store : LiveMapId)
    (scopes : ScopePath) (path : List String) : Act Unit := do
  match ← observe (Observe.findInScopes store scopes data path) with
  | .missing => return ()
  | found => refSet runner cell found

/-- A cell that follows the value of a token. -/
def resolve (runner : Runner) (data : Value) (store : LiveMapId) (scopes : ScopePath)
    (token : String) : Act RefId := do
  let cell ← observe (Observe.newRef .none)
  let _ ← watch runner (.resolve cell data store scopes (splitToken token)) .pre
  return cell

end Act

end ReactiveSchema
