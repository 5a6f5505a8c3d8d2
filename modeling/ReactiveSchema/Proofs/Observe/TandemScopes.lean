import ReactiveSchema.Proofs.Observe.ScopeLooks
import ReactiveSchema.Proofs.Observe.TandemAccess

/-!
# Looking tokens up in tandem

A path leads from twins to twins: segment by segment, candidate by candidate and
frame by frame.
-/

namespace ReactiveSchema

variable {extent : Extent} {first : FirstLook}

/-- Twin values, or none on either side. -/
abbrev MaybeTwin (moved : Relocation) (extent : Extent) : Option Value → Option Value → Prop :=
  Option.Rel (Twin moved extent)

theorem lasting_maybe {moved : Relocation} : Lasting (MaybeTwin moved) :=
  fun _ _ _ _ fits same => rel_imp (fun _ _ same => same.mono fits) same

theorem lookup_of_forall₂ {α β : Type} {S : α → β → Prop} {left : List (String × α)}
    {right : List (String × β)}
    (all : List.Forall₂ (fun p q => p.1 = q.1 ∧ S p.2 q.2) left right) (name : String) :
    Option.Rel S (left.lookup name) (right.lookup name) := by
  induction all with
  | nil => exact .none
  | cons both _ ih =>
      rw [List.lookup_cons, List.lookup_cons, both.1]
      split
      · exact .some both.2
      · exact ih

namespace Tandem

/-! ## Attributes -/

theorem joinTexts {parts others : List Value} (all : Twins first.moves extent parts others) :
    Tandem first extent (Twin first.moves) (Observe.joinTexts parts)
      (Observe.joinTexts others) := by
  refine bind_same (mapM_same (Each.of_forall₂ (R := Twin first.moves) lasting_twin all
    fun large part other fits same => ?_)) fun large texts fits => pure fun _ _ => .str _
  cases same
  case str s => exact pure fun _ _ => rfl
  all_goals exact fail _

theorem textWithin (depth : Nat) {value twin : Value} (same : Twin first.moves extent value twin) :
    Tandem first extent (Twin first.moves) (Observe.textWithin depth value)
      (Observe.textWithin depth twin) := by
  induction depth generalizing extent value twin with
  | zero => exact throw .exhausted
  | succ depth ih =>
      cases same
      case text content => exact pure fun _ _ => .str content
      case node there moves =>
        cases moves
        refine bind get fun large memory other fits mirrors => ?_
        have node := mirrors.nodes (Nat.lt_of_lt_of_le there fits.nodes)
        refine bind (iterate node.children) fun larger children _ more all => ?_
        refine bind (mapTwins lasting_twin all fun _ _ _ _ same => ih same) ?_
        exact fun _ _ _ _ texts => joinTexts texts
      case object id =>
        refine bind get fun large memory other fits mirrors => ?_
        have own := lookup_of_forall₂ (mirrors.objects id) "text"
        refine bind (pure fun _ more => lasting_maybe more own) fun larger text text' more found => ?_
        cases found with
        | none => exact fail _
        | some same => exact pure fun _ most => same.mono most
      all_goals exact fail _

theorem nodeText {value twin : Value} (same : Twin first.moves extent value twin) :
    Tandem first extent (Twin first.moves) (Observe.nodeText value) (Observe.nodeText twin) := by
  refine bind get fun large memory other fits mirrors => ?_
  rw [mirrors.levels]
  exact textWithin _ (same.mono fits)

theorem nodeText? {value twin : Value} (same : Twin first.moves extent value twin) :
    Tandem first extent (MaybeTwin first.moves) (Observe.nodeText? value)
      (Observe.nodeText? twin) := by
  refine tryCatch ?_ fun large f g fits fault => ?_
  · exact bind (nodeText same) fun _ _ _ _ same => pure fun _ more => .some (same.mono more)
  · rw [fault.isKind]
    split
    · exact pure fun _ _ => .none
    · exact throw fault

theorem nodeAttribute? {id other : NodeId} (same : Twin first.moves extent (.node id) (.node other))
    (name : String) :
    Tandem first extent (MaybeTwin first.moves) (Observe.nodeAttribute? id name)
      (Observe.nodeAttribute? other name) := by
  refine bind get fun large memory twin fits mirrors => ?_
  have node : NodeTwin first.moves large (memory.nodeAt id) (twin.nodeAt other) := by
    cases same with
    | node there moves =>
        cases moves
        exact mirrors.nodes (Nat.lt_of_lt_of_le there fits.nodes)
  dsimp only
  rw [node.type.isStr]
  split
  · exact pure fun _ more => .some (node.type.mono more)
  · exact pure fun _ more => .some (node.props.mono more)
  · exact pure fun _ more => .some (node.children.mono more)
  · exact pure fun _ more => .some (.bool _)
  · exact nodeText? (same.mono fits)
  · exact pure fun _ more => .some (.method _ (same.mono (fits.trans more)))
  · exact pure fun _ more => .some (.method _ (same.mono (fits.trans more)))
  · exact pure fun _ more => .none

theorem refAttribute? (id : RefId) (name : String) :
    Tandem first extent (MaybeTwin first.moves) (Observe.refAttribute? id name)
      (Observe.refAttribute? id name) := by
  unfold Observe.refAttribute?
  split
  · exact bind (refGet id) fun _ _ _ _ same => pure fun _ more => .some (same.mono more)
  · exact pure fun _ _ => .some (.method _ (.ref id))
  · exact pure fun _ _ => .none

theorem handleAttribute? {kind : HandleKind} {id : Nat} (held : extent.Holds kind id)
    (name : String) :
    Tandem first extent (MaybeTwin first.moves) (Observe.handleAttribute? kind id name)
      (Observe.handleAttribute? kind id name) := by
  refine bind get fun large memory other fits mirrors => ?_
  have found := lookup_of_forall₂ (mirrors.outlook kind id).attributes name
  generalize (memory.outlook kind id).attributes.lookup name = seen at found ⊢
  generalize (other.outlook kind id).attributes.lookup name = seen' at found ⊢
  cases found with
  | none => exact pure fun _ _ => .none
  | some same =>
      cases same with
      | plain same => exact pure fun _ more => .some (same.mono more)
      | content cell =>
          exact bind (refPeek cell) fun _ _ _ _ same => pure fun _ more => .some (same.mono more)
      | group all =>
          exact bind (newList all) fun _ _ _ _ same => pure fun _ more => .some (same.mono more)
      | method =>
          exact pure fun _ more => .some (.method _ (.handle ((fits.trans more).holds held)))

theorem attribute? {object twin : Value} (same : Twin first.moves extent object twin)
    (name : String) :
    Tandem first extent (MaybeTwin first.moves) (Observe.attribute? object name)
      (Observe.attribute? twin name) := by
  cases same
  case object id =>
    exact reading fun large memory other fits mirrors =>
      lookup_of_forall₂ (mirrors.objects id) name
  case text content =>
    unfold Observe.attribute?
    dsimp only
    split
    · exact pure fun _ _ => .some (.str _)
    · exact pure fun _ _ => .none
  case node there moves => exact nodeAttribute? (.node there moves) name
  case ref id => exact refAttribute? id name
  case scope id =>
    unfold Observe.attribute?
    dsimp only
    split
    · exact pure fun _ _ => .some (.str _)
    · exact pure fun _ _ => .some (.int _)
    · exact pure fun _ _ => .none
  case handle kind id held => exact handleAttribute? held name
  all_goals exact pure fun _ _ => .none

/-! ## Paths -/

theorem ofSequence {object twin : Value} (same : Twin first.moves extent object twin)
    (segment : String) :
    Tandem first extent (MaybeTwin first.moves) (Observe.segment?.ofSequence object segment)
      (Observe.segment?.ofSequence twin segment) := by
  unfold Observe.segment?.ofSequence
  split
  · exact pure fun _ _ => .none
  · refine bind_same (lengthOf same) fun large length fits => ?_
    split
    · exact bind (getItem (same.mono fits) (.int _)) fun _ _ _ _ same =>
        pure fun _ more => .some (same.mono more)
    · exact pure fun _ _ => .none

theorem segment? {object twin : Value} (same : Twin first.moves extent object twin)
    (segment : String) :
    Tandem first extent (MaybeTwin first.moves) (Observe.segment? object segment)
      (Observe.segment? twin segment) := by
  have other : Tandem first extent (MaybeTwin first.moves)
      (if segment.toList.head? == some '_' then Pure.pure none
        else Observe.attribute? object segment)
      (if segment.toList.head? == some '_' then Pure.pure none
        else Observe.attribute? twin segment) := by
    split
    · exact pure fun _ _ => .none
    · exact attribute? same segment
  have sequence := ofSequence same segment
  cases same
  case map there moves =>
    cases moves
    exact reading fun large memory other fits mirrors =>
      (mirrors.maps (Nat.lt_of_lt_of_le there fits.maps)).find? (.str segment)
  case liveMap there =>
    refine bind_same (liveMapHas there (.str segment)) fun large known fits => ?_
    split
    · have ahead := Nat.lt_of_lt_of_le there fits.liveMaps
      exact bind (liveMapGet ahead (.str segment)) fun _ _ _ _ same =>
        pure fun _ more => .some (same.mono more)
    · exact pure fun _ _ => .none
  case tuple | list | liveList => exact sequence
  case str | int | float | nan | complex | bool | none => exact pure fun _ _ => .none
  all_goals exact other

theorem follow {object twin : Value} (same : Twin first.moves extent object twin)
    (path : List String) :
    Tandem first extent (MaybeTwin first.moves) (Observe.follow object path)
      (Observe.follow twin path) := by
  induction path generalizing extent object twin with
  | nil => exact pure fun _ more => .some (same.mono more)
  | cons segment rest ih =>
      refine bind (segment? same segment) fun large next next' fits found => ?_
      cases found with
      | none => exact pure fun _ _ => .none
      | some same =>
          have later := ih same
          cases same
          case missing =>
            dsimp only
            split
            · exact pure fun _ _ => .some .missing
            · exact pure fun _ _ => .none
          all_goals exact later

theorem findValue {candidates others : List Value}
    (all : Twins first.moves extent candidates others) (path : List String) :
    Tandem first extent (Twin first.moves) (Observe.findValue candidates path)
      (Observe.findValue others path) := by
  have search : Tandem first extent (Twin first.moves)
      (Observe.findValue.search path candidates) (Observe.findValue.search path others) := by
    induction candidates generalizing extent others with
    | nil =>
        cases all
        exact pure fun _ _ => .missing
    | cons candidate candidates ih =>
        cases all with
        | cons head rest =>
            refine bind (follow head path) fun large found found' fits related => ?_
            cases related with
            | none => exact ih (Twin.monoAll fits rest)
            | some same => exact pure fun _ more => same.mono more
  cases path with
  | nil => exact pure fun _ _ => .missing
  | cons segment rest => exact search

/-! ## Bindings -/

theorem bindingsOf {store : LiveMapId} (there : store < extent.liveMaps) (scope : ScopeId) :
    Tandem first extent (MaybeTwin first.moves) (Observe.bindingsOf store scope)
      (Observe.bindingsOf store scope) := by
  refine bind_same (liveMapHas there (.scope scope)) fun large known fits => ?_
  split
  · have ahead := Nat.lt_of_lt_of_le there fits.liveMaps
    refine bind (liveMapGet ahead (.scope scope)) fun larger bindings _ more same => ?_
    refine bind_same (lengthOf same) fun largest length most => ?_
    split
    · exact pure fun _ last => .some (same.mono (most.trans last))
    · exact pure fun _ _ => .none
  · exact pure fun _ _ => .none

theorem scopeChain {store : LiveMapId} (there : store < extent.liveMaps) (scopes : ScopePath)
    {data twin : Value} (same : Twin first.moves extent data twin) :
    Tandem first extent (Twins first.moves) (Observe.chain store scopes data)
      (Observe.chain store scopes twin) := by
  refine bind (filterMapM (T := Twin first.moves) lasting_twin
    (List.forall₂_same.mpr fun scope _ large fits => ?_)) fun large bound _ fits all =>
      pure fun _ more => ?_
  · exact bindingsOf (Nat.lt_of_lt_of_le there fits.liveMaps) scope
  · exact List.rel_append (Twin.monoAll more all) (.cons (same.mono (fits.trans more)) .nil)

theorem findInScopes {store : LiveMapId} (there : store < extent.liveMaps) (scopes : ScopePath)
    {data twin : Value} (same : Twin first.moves extent data twin) (path : List String) :
    Tandem first extent (Twin first.moves) (Observe.findInScopes store scopes data path)
      (Observe.findInScopes store scopes twin path) :=
  bind (scopeChain there scopes same) fun _ _ _ _ all => findValue all path

/-! ## Frames -/

theorem context? : Tandem first extent (fun large => Option.Rel (ContextTwin first.moves large))
    Observe.context? Observe.context? :=
  reading fun _ _ _ _ mirrors => mirrors.context

theorem frameDepth : Tandem first extent Same Observe.frameDepth Observe.frameDepth := by
  refine bind context? fun large context context' fits same => ?_
  cases same with
  | none => exact pure fun _ _ => rfl
  | some same => exact pure fun _ _ => same.frames.length_eq

theorem lookupFrames {frames others : List Value} (all : Twins first.moves extent frames others)
    (token : String) :
    Tandem first extent (Twin first.moves) (Observe.lookupFrames frames token)
      (Observe.lookupFrames others token) := by
  unfold Observe.lookupFrames
  rw [isEmpty_of_forall₂ all]
  split
  · exact pure fun _ _ => .missing
  · exact findValue all _

theorem checkScope {value twin : Value} (same : Twin first.moves extent value twin)
    (token : String) :
    Tandem first extent (Twin first.moves) (Observe.checkScope value token)
      (Observe.checkScope twin token) := by
  refine bind context? fun large context context' fits contexts => ?_
  cases contexts with
  | none => exact pure fun _ more => same.mono (fits.trans more)
  | some contexts =>
      refine bind (lookupFrames contexts.frames token) fun larger found found' more related => ?_
      have known : Tandem first larger (Twin first.moves) (Pure.pure found) (Pure.pure found') :=
        pure fun _ most => related.mono most
      cases related
      case missing => exact pure fun _ most => same.mono ((fits.trans more).trans most)
      all_goals exact known

theorem pushFrame {bindings twin : Value} (same : Twin first.moves extent bindings twin) :
    Tandem first extent Same (Observe.pushFrame bindings) (Observe.pushFrame twin) := by
  refine bind context? fun large context context' fits contexts => ?_
  cases contexts with
  | none => exact pure fun _ _ => rfl
  | some contexts =>
      exact setContext (.some ⟨.cons (same.mono fits) contexts.frames, contexts.maxDepth⟩)

theorem noteDepth : Tandem first extent Same Observe.noteDepth Observe.noteDepth := by
  refine bind context? fun large context context' fits contexts => ?_
  cases contexts with
  | none => exact pure fun _ _ => rfl
  | some contexts =>
      refine setContext (.some ⟨contexts.frames, ?_⟩)
      dsimp only
      rw [contexts.maxDepth, contexts.frames.length_eq]

theorem popFrame {bindings twin : Value} (same : Twin first.moves extent bindings twin)
    (depth : Nat) :
    Tandem first extent Same (Observe.popFrame bindings depth) (Observe.popFrame twin depth) := by
  refine bind context? fun large context context' fits contexts => ?_
  cases contexts with
  | none => exact pure fun _ _ => rfl
  | @some context context' contexts =>
      obtain ⟨frames, deepest⟩ := context
      obtain ⟨frames', deepest'⟩ := context'
      obtain ⟨all, both⟩ := contexts
      cases all with
      | nil => exact fail _
      | cons head rest =>
          refine bind (setContext (.some ⟨rest, both⟩)) fun larger _ _ more _ => ?_
          rw [head.identical (same.mono fits), rest.length_eq]
          split
          · exact pure fun _ _ => rfl
          · exact fail _

section Passes

variable {α β : Type} {R : Extent → α → β → Prop} {body : Observe α} {twin : Observe β}

theorem withFrame (lasting : Lasting R) {bindings bindings' : Value}
    (same : Twin first.moves extent bindings bindings')
    (inside : ∀ large, extent.Fits large → Tandem first large R body twin) :
    Tandem first extent R (Observe.withFrame bindings body)
      (Observe.withFrame bindings' twin) := by
  refine bind_same frameDepth fun large depth fits => ?_
  refine bind (pushFrame (same.mono fits)) fun larger _ _ more _ => ?_
  refine bind noteDepth fun largest _ _ most _ => ?_
  have all := (fits.trans more).trans most
  exact tryFinally lasting (inside _ all) fun _ last => popFrame (same.mono (all.trans last)) depth

theorem withFreshContext (lasting : Lasting R)
    (inside : ∀ large, extent.Fits large → Tandem first large R body twin) :
    Tandem first extent R (Observe.withFreshContext body) (Observe.withFreshContext twin) := by
  refine bind context? fun large outer outer' fits around => ?_
  refine bind (setContext (.some ⟨.nil, rfl⟩)) fun larger _ _ more _ => ?_
  exact tryFinally lasting (inside _ (fits.trans more)) fun _ most =>
    setContext (context_mono (more.trans most) around)

theorem withSomeContext (lasting : Lasting R)
    (inside : ∀ large, extent.Fits large → Tandem first large R body twin) :
    Tandem first extent R (Observe.withSomeContext body) (Observe.withSomeContext twin) := by
  refine bind context? fun large outer outer' fits around => ?_
  cases around with
  | none => exact withFreshContext lasting fun _ more => inside _ (fits.trans more)
  | some => exact inside _ fits

end Passes

end Tandem

end ReactiveSchema
