import ReactiveSchema.Proofs.Observe.SchemaLooks
import ReactiveSchema.Scope.Frames
import ReactiveSchema.Scope.Store

/-!
# Looking tokens up

Following a path through what owns its segments looks at memory and does nothing
else, and so does looking a token up in the bindings around a place.
-/

namespace ReactiveSchema

namespace Looks

variable {P : (α : Type) → Observe α → Prop}

/-! ## Attributes -/

theorem joinTexts (looks : Looks P) (parts : List Value) : P _ (Observe.joinTexts parts) := by
  refine looks.bind (looks.mapM (fun part => ?_) parts) fun _ => looks.pure _
  split
  · exact looks.pure _
  · exact looks.fail rfl

theorem textWithin (looks : Looks P) (depth : Nat) (value : Value) :
    P _ (Observe.textWithin depth value) := by
  induction depth generalizing value with
  | zero => exact looks.throw rfl
  | succ depth ih =>
      cases value with
      | text content => exact looks.pure _
      | node node =>
          refine looks.bind looks.get fun memory => ?_
          refine looks.bind (looks.iterate _) fun children => ?_
          exact looks.bind (looks.mapM ih children) fun texts => looks.joinTexts texts
      | object object =>
          refine looks.bind looks.get fun memory => ?_
          refine looks.bind (looks.pure _) fun own => ?_
          cases own with
          | none => exact looks.fail rfl
          | some text => exact looks.pure _
      | _ =>
          refine looks.bind (looks.pure none) fun own => ?_
          cases own with
          | none => exact looks.fail rfl
          | some text => exact looks.pure _

theorem nodeText (looks : Looks P) (value : Value) : P _ (Observe.nodeText value) :=
  looks.bind looks.get fun _ => looks.textWithin _ value

theorem nodeText? (looks : Looks P) (node : Value) : P _ (Observe.nodeText? node) := by
  refine looks.tryCatch (looks.map (looks.nodeText node) _) fun fault again => ?_
  split
  · exact looks.pure _
  · exact again

theorem nodeAttribute? (looks : Looks P) (id : NodeId) (name : String) :
    P _ (Observe.nodeAttribute? id name) := by
  refine looks.bind looks.get fun memory => ?_
  split
  all_goals first | exact looks.pure _ | exact looks.nodeText? _

theorem refAttribute? (looks : Looks P) (id : RefId) (name : String) :
    P _ (Observe.refAttribute? id name) := by
  unfold Observe.refAttribute?
  split
  · exact looks.bind (looks.refGet id) fun _ => looks.pure _
  · exact looks.pure _
  · exact looks.pure _

theorem handleAttribute? (looks : Looks P) (kind : HandleKind) (id : Nat) (name : String) :
    P _ (Observe.handleAttribute? kind id name) := by
  refine looks.bind looks.get fun memory => ?_
  split
  · exact looks.pure _
  · exact looks.pure _
  · exact looks.bind (looks.refPeek _) fun _ => looks.pure _
  · exact looks.bind (looks.newList _) fun _ => looks.pure _
  · exact looks.pure _

theorem attribute? (looks : Looks P) (object : Value) (name : String) :
    P _ (Observe.attribute? object name) := by
  unfold Observe.attribute?
  split
  · exact looks.getting _
  · exact looks.pure _
  · exact looks.nodeAttribute? _ name
  · exact looks.refAttribute? _ name
  · split
    · exact looks.pure _
    · exact looks.pure _
    · exact looks.pure _
  · exact looks.handleAttribute? _ _ name
  · exact looks.pure _

/-! ## Paths -/

theorem ofSequence (looks : Looks P) (object : Value) (segment : String) :
    P _ (Observe.segment?.ofSequence object segment) := by
  unfold Observe.segment?.ofSequence
  split
  · exact looks.pure _
  · refine looks.bind (looks.lengthOf object) fun length => ?_
    split
    · exact looks.bind (looks.getItem object _) fun _ => looks.pure _
    · exact looks.pure _

theorem segment? (looks : Looks P) (object : Value) (segment : String) :
    P _ (Observe.segment? object segment) := by
  have other : P _ (if segment.toList.head? == some '_' then pure none
      else Observe.attribute? object segment) := by
    split
    · exact looks.pure _
    · exact looks.attribute? object segment
  unfold Observe.segment?
  split
  case h_1 => exact looks.getting _
  case h_2 id =>
    refine looks.bind (looks.liveMapHas id _) fun known => ?_
    split
    · exact looks.bind (looks.liveMapGet id _) fun _ => looks.pure _
    · exact looks.pure _
  case h_3 | h_4 | h_5 => exact looks.ofSequence _ segment
  all_goals first | exact looks.pure _ | exact other

theorem follow (looks : Looks P) (object : Value) (path : List String) :
    P _ (Observe.follow object path) := by
  induction path generalizing object with
  | nil => exact looks.pure _
  | cons segment rest ih =>
      refine looks.bind (looks.segment? object segment) fun next => ?_
      split
      · exact looks.pure _
      · split
        · exact looks.pure _
        · exact looks.pure _
      · exact ih _

theorem findValue (looks : Looks P) (candidates : List Value) (path : List String) :
    P _ (Observe.findValue candidates path) := by
  have search : P _ (Observe.findValue.search path candidates) := by
    induction candidates with
    | nil => exact looks.pure _
    | cons candidate rest ih =>
        refine looks.bind (looks.follow candidate path) fun found => ?_
        cases found with
        | none => exact ih
        | some value => exact looks.pure _
  cases path with
  | nil => exact looks.pure _
  | cons segment rest => exact search

/-! ## Bindings -/

theorem bindingsOf (looks : Looks P) (store : LiveMapId) (scope : ScopeId) :
    P _ (Observe.bindingsOf store scope) := by
  refine looks.bind (looks.liveMapHas store _) fun known => ?_
  split
  · refine looks.bind (looks.liveMapGet store _) fun bindings => ?_
    refine looks.bind (looks.lengthOf bindings) fun length => ?_
    split
    · exact looks.pure _
    · exact looks.pure _
  · exact looks.pure _

theorem scopeChain (looks : Looks P) (store : LiveMapId) (scopes : ScopePath) (data : Value) :
    P _ (Observe.chain store scopes data) :=
  looks.map (looks.filterMapM (looks.bindingsOf store) _) _

theorem findInScopes (looks : Looks P) (store : LiveMapId) (scopes : ScopePath) (data : Value)
    (path : List String) : P _ (Observe.findInScopes store scopes data path) :=
  looks.bind (looks.scopeChain store scopes data) fun candidates =>
    looks.findValue candidates path

/-! ## Frames -/

theorem context? (looks : Looks P) : P _ Observe.context? :=
  looks.getting _

theorem frameDepth (looks : Looks P) : P _ Observe.frameDepth :=
  looks.map looks.context? _

theorem lookupFrames (looks : Looks P) (frames : List Value) (token : String) :
    P _ (Observe.lookupFrames frames token) := by
  unfold Observe.lookupFrames
  split
  · exact looks.pure _
  · exact looks.findValue frames _

theorem checkScope (looks : Looks P) (value : Value) (token : String) :
    P _ (Observe.checkScope value token) := by
  refine looks.bind looks.context? fun context => ?_
  split
  · exact looks.pure _
  · refine looks.bind (looks.lookupFrames _ token) fun found => ?_
    split
    · exact looks.pure _
    · exact looks.pure _

end Looks

end ReactiveSchema
