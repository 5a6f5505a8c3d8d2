import ReactiveSchema.Proofs.Observe.BalancedPasses
import ReactiveSchema.Proofs.Observe.TandemExpressions

/-!
# Compiled parts in tandem

A part of a schema that is run a second time builds a twin of what it has built before.
-/

namespace ReactiveSchema

variable {extent small large : Extent} {moved : Relocation} {first : FirstLook}

namespace Tandem

/-! ## Building nodes -/

section Flatten

variable {deeper deeper' : Value → Observe (List Value)}

/-- Two ways of flattening take twins alike. -/
def FlattensAlike (first : FirstLook) (deeper deeper' : Value → Observe (List Value)) : Prop :=
  ∀ {extent : Extent} {value twin : Value}, Twin first.moves extent value twin →
    Tandem first extent (Twins first.moves) (deeper value) (deeper' twin)

theorem flattenFlat (each : FlattensAlike first deeper deeper') {value twin : Value}
    (same : Twin first.moves extent value twin) (flat : value.comparedAs ≠ .tuple) :
    Tandem first extent (Twins first.moves) (Observe.flattenStep deeper value)
      (Observe.flattenStep deeper' twin) := by
  have alone : Tandem first extent (Twins first.moves) (Pure.pure [value]) (Pure.pure [twin]) :=
    pure fun _ more => .cons (same.mono more) .nil
  cases same
  case none => exact pure fun _ _ => .nil
  case tuple => exact absurd rfl flat
  case list there moves =>
    cases moves
    refine bind get fun large memory other fits mirrors => ?_
    have items := mirrors.lists (Nat.lt_of_lt_of_le there fits.lists)
    exact bind (mapTwins lasting_twin.all items fun _ _ _ _ same => each same) fun _ _ _ _ lists =>
      pure fun _ more => Twin.monoAll more (List.rel_flatten lists)
  all_goals exact alone

mutual

theorem flattenStep (each : FlattensAlike first deeper deeper') :
    ∀ {extent : Extent} {value twin : Value}, Twin first.moves extent value twin →
      Tandem first extent (Twins first.moves) (Observe.flattenStep deeper value)
        (Observe.flattenStep deeper' twin)
  | _, .tuple _, _, .tuple all => flattenTuple each all
  | _, .none, _, same | _, .undefined, _, same | _, .missing, _, same | _, .ellipsis, _, same
  | _, .bool _, _, same | _, .int _, _, same | _, .float _, _, same | _, .nan _, _, same
  | _, .complex _ _, _, same | _, .str _, _, same | _, .list _, _, same | _, .map _, _, same
  | _, .liveList _, _, same | _, .liveMap _, _, same | _, .text _, _, same
  | _, .node _, _, same | _, .function _, _, same | _, .component _, _, same
  | _, .object _, _, same | _, .incomparable _, _, same | _, .ref _, _, same
  | _, .scope _, _, same | _, .handle _ _, _, same | _, .method _ _, _, same
  | _, .other _, _, same => flattenFlat each same nofun

theorem flattenTuple (each : FlattensAlike first deeper deeper') :
    ∀ {extent : Extent} {items others : List Value}, Twins first.moves extent items others →
      Tandem first extent (Twins first.moves) (Observe.flattenStep.flattenTuple deeper items)
        (Observe.flattenStep.flattenTuple deeper' others)
  | _, [], _, .nil => pure fun _ _ => .nil
  | _, _ :: _, _, .cons head rest =>
      bind (flattenStep each head) fun _ _ _ fits heads =>
        bind (flattenTuple each (Twin.monoAll fits rest)) fun _ _ _ more rests =>
          pure fun _ most => List.rel_append (Twin.monoAll (more.trans most) heads)
            (Twin.monoAll most rests)

end

theorem flattenWithin (depth : Nat) :
    FlattensAlike first (Observe.flattenWithin depth) (Observe.flattenWithin depth) := by
  induction depth with
  | zero => exact fun _ => throw .exhausted
  | succ depth ih => exact flattenStep ih

theorem flatChildren {children twin : Value} (same : Twin first.moves extent children twin) :
    Tandem first extent (Twins first.moves) (Observe.flatChildren children)
      (Observe.flatChildren twin) := by
  refine bind get fun large memory other fits mirrors => ?_
  rw [mirrors.levels]
  exact flattenWithin _ (same.mono fits)

end Flatten

theorem toChild {child twin : Value} (same : Twin first.moves extent child twin) :
    Tandem first extent (Twin first.moves) (Observe.toChild child) (Observe.toChild twin) := by
  have known : Tandem first extent (Twin first.moves) (Pure.pure child) (Pure.pure twin) :=
    pure fun _ more => same.mono more
  have text : Tandem first extent (Twin first.moves)
      (do return .text (← Observe.textOf child)) (do return .text (← Observe.textOf twin)) :=
    bind_same (textOf same) fun _ _ _ => pure fun _ _ => .text _
  cases same
  case node | text => exact known
  all_goals exact text

theorem makeNode {type type' attributes attributes' children children' : Value}
    (types : Twin first.moves extent type type')
    (given : Twin first.moves extent attributes attributes')
    (inside : Twin first.moves extent children children') :
    Tandem first extent (Twin first.moves) (Observe.makeNode type attributes children)
      (Observe.makeNode type' attributes' children') := by
  refine bind_same (isTrue given) fun large filled fits => ?_
  refine branch (copyMap (given.mono fits)) (pure fun _ _ => .nil) ?_
  intro larger entries _ more all
  refine bind (newMap all) fun largest props _ most properties => ?_
  have ahead := (fits.trans more).trans most
  refine bind (flatChildren (inside.mono ahead)) fun last items _ fits' flat => ?_
  refine bind (mapTwins lasting_twin flat fun _ _ _ _ same => toChild same) ?_
  intro last' items _ more' nodes
  refine bind (newList nodes) fun _ children _ most' list => ?_
  have later := (fits'.trans more').trans most'
  exact newNode ⟨types.mono (ahead.trans later), properties.mono later, list⟩

/-! ## Loops -/

theorem indexed {items others : List Value} (all : Twins moved extent items others) :
    EntryTwins moved extent (Observe.indexed items) (Observe.indexed others) := by
  have go : ∀ {items others : List Value} (start : Nat), Twins moved extent items others →
      EntryTwins moved extent ((items.zipIdx start).map fun pair => (.int pair.2, pair.1))
        ((others.zipIdx start).map fun pair => (.int pair.2, pair.1)) := by
    intro items others start all
    induction all generalizing start with
    | nil => exact .nil
    | cons head _ ih => exact .cons ⟨.int _, head⟩ (ih (start + 1))
  exact go 0 all

theorem iterationPairs {values twin : Value} (same : Twin first.moves extent values twin) :
    Tandem first extent (EntryTwins first.moves) (Observe.iterationPairs values)
      (Observe.iterationPairs twin) := by
  have counts : values.count? = twin.count? := by
    cases same <;> rfl
  have entries := entriesOf same
  have items : Tandem first extent (EntryTwins first.moves)
      (do return Observe.indexed (← Observe.iterate values))
      (do return Observe.indexed (← Observe.iterate twin)) :=
    bind (iterate same) fun _ _ _ _ all => pure fun _ more => indexed (Twin.monoAll more all)
  unfold Observe.iterationPairs
  rw [counts]
  split
  · refine pure fun _ _ => List.forall₂_same.mpr fun pair has => ?_
    obtain ⟨index, -, rfl⟩ := List.mem_map.mp has
    exact ⟨.int _, .int _⟩
  · clear counts
    cases same
    case map | liveMap => exact entries
    case tuple | list | liveList => exact items
    all_goals exact pure fun _ _ => .nil

theorem iterationFrame (valueName : String) (keyName : Option String)
    {key key' value value' : Value} (keys : Twin first.moves extent key key')
    (values : Twin first.moves extent value value') :
    Tandem first extent (Twin first.moves) (Observe.iterationFrame valueName keyName key value)
      (Observe.iterationFrame valueName keyName key' value') := by
  have entry : EntryTwins first.moves extent [(.str valueName, value)]
      [(.str valueName, value')] := .cons ⟨.str valueName, values⟩ .nil
  cases keyName with
  | none => exact newMap entry
  | some name => exact newMap (entry.insert (.str name) keys)

section Loops

variable {body body' : Observe Value}

theorem iterateFrames (valueName : String) (keyName : Option String)
    (each : ∀ large, extent.Fits large → Tandem first large (Twin first.moves) body body')
    {pairs others : List (Value × Value)} (all : EntryTwins first.moves extent pairs others) :
    Tandem first extent (Twins first.moves)
      (Observe.iterateFrames valueName keyName body pairs)
      (Observe.iterateFrames valueName keyName body' others) := by
  induction pairs generalizing extent others with
  | nil =>
      cases all
      exact pure fun _ _ => .nil
  | cons pair pairs ih =>
      cases all with
      | cons both rest =>
          refine bind (iterationFrame valueName keyName both.1 both.2) ?_
          intro large frame _ fits frames
          refine bind (withFrame lasting_twin frames fun _ more => each _ (fits.trans more)) ?_
          intro larger head _ more heads
          have ahead := fits.trans more
          refine bind (ih (fun _ most => each _ (ahead.trans most)) (EntryTwins.mono ahead rest)) ?_
          exact fun _ _ _ most tails => pure fun _ last =>
            .cons (heads.mono (most.trans last)) (Twin.monoAll last tails)

theorem renderLoop {values values' : Observe Value} (valueName : String)
    (keyName : Option String)
    (given : ∀ large, extent.Fits large → Tandem first large (Twin first.moves) values values')
    (each : ∀ large, extent.Fits large → Tandem first large (Twin first.moves) body body') :
    Tandem first extent (Twin first.moves)
      (Observe.renderLoop values valueName keyName body)
      (Observe.renderLoop values' valueName keyName body') := by
  refine withSomeContext lasting_twin fun large fits => ?_
  refine bind (given _ fits) fun larger value _ more same => ?_
  refine bind (iterationPairs same) fun largest pairs _ most all => ?_
  have ahead := (fits.trans more).trans most
  exact bind (iterateFrames valueName keyName (fun _ last => each _ (ahead.trans last)) all)
    fun _ _ _ _ items => newList items

end Loops

/-! ## Records -/

theorem record (recorder : Recorder) {call others : List Value}
    (all : Twins first.moves extent call others) :
    Tandem first extent Same (Observe.record recorder call) (Observe.record recorder others) := by
  cases recorder with
  | none => exact pure fun _ _ => rfl
  | some index =>
      refine bind_same (mapM_same (Each.of_forall₂ (R := Twin first.moves) lasting_twin all
        fun _ _ _ _ same => snapshot same)) fun large written fits => ?_
      exact of_unseen
        (fun _ => ⟨rfl, rfl, rfl, rfl, fun _ => rfl, rfl, rfl, rfl, rfl, rfl, rfl, rfl, rfl⟩)
        (fun _ => ⟨rfl, rfl, rfl, rfl, fun _ => rfl, rfl, rfl, rfl, rfl, rfl, rfl, rfl, rfl⟩)
        (fun _ => .of_plain (begins_refl _) (begins_refl _) (begins_refl _) (begins_refl _)
          (begins_refl _) rfl rfl (Nat.le_refl _))
        fun _ _ _ _ _ => .ok rfl

theorem renderText (recorder : Recorder) {content twin : Value}
    (same : Twin first.moves extent content twin) :
    Tandem first extent (Twin first.moves) (Observe.renderText recorder content)
      (Observe.renderText recorder twin) := by
  refine bind_same (stringify same) fun large text fits => ?_
  refine bind (record recorder (.cons (.str _) (.cons (.str text) .nil))) fun _ _ _ _ _ => ?_
  exact pure fun _ _ => .text text

theorem renderNode (recorder : Recorder) {type type' attributes attributes' children children' : Value}
    (types : Twin first.moves extent type type')
    (given : Twin first.moves extent attributes attributes')
    (inside : Twin first.moves extent children children') :
    Tandem first extent (Twin first.moves) (Observe.renderNode recorder type attributes children)
      (Observe.renderNode recorder type' attributes' children') :=
  bind (record recorder (.cons (.str _) (.cons types (.cons given .nil)))) fun _ _ _ fits _ =>
    makeNode (types.mono fits) (given.mono fits) (inside.mono fits)

/-! ## Parts -/

theorem boundToken (bound : BoundExpression) :
    TokensAlike first extent bound.token bound.token := by
  intro large index fits
  unfold BoundExpression.token
  split
  · exact bind (refGet _) fun _ _ _ _ same => checkScope same _
  · exact pure fun _ _ => .none

end Tandem

namespace Thunk

/-- All values that are part of a compiled part have a property. -/
def Names (P : Value → Prop) : Thunk → Prop
  | constant value => P value
  | expression _ => True
  | text part => Names P part
  | attributes slots => namesSlots slots
  | choose condition body otherwise => Names P condition ∧ Names P body ∧ Names P otherwise
  | all parts => namesAll parts
  | textNode _ content => Names P content
  | node _ type given inside => P type ∧ Names P given ∧ Names P inside
  | repeated values _ _ body => Names P values ∧ Names P body
where
  /-- All values that are part of some compiled parts have the property. -/
  namesAll : List Thunk → Prop
    | [] => True
    | part :: rest => Names P part ∧ namesAll rest
  /-- All names of slots, and all values that are part of them, have the property. -/
  namesSlots : List (Value × Thunk) → Prop
    | [] => True
    | (name, part) :: rest => P name ∧ Names P part ∧ namesSlots rest

variable {P Q : Value → Prop}

mutual

theorem Names.imp (weaker : ∀ value, P value → Q value) :
    ∀ {p : Thunk}, p.Names P → p.Names Q
  | constant _, named => weaker _ named
  | expression _, _ => trivial
  | text part, named => Names.imp weaker (p := part) named
  | attributes _, named => Names.impSlots weaker named
  | choose _ _ _, ⟨condition, body, otherwise⟩ =>
      ⟨Names.imp weaker condition, Names.imp weaker body, Names.imp weaker otherwise⟩
  | all _, named => Names.impAll weaker named
  | textNode _ content, named => Names.imp weaker (p := content) named
  | node _ _ _ _, ⟨type, given, inside⟩ =>
      ⟨weaker _ type, Names.imp weaker given, Names.imp weaker inside⟩
  | repeated _ _ _ _, ⟨values, body⟩ => ⟨Names.imp weaker values, Names.imp weaker body⟩

theorem Names.impAll (weaker : ∀ value, P value → Q value) :
    ∀ {parts : List Thunk}, Names.namesAll P parts → Names.namesAll Q parts
  | [], _ => trivial
  | _ :: _, ⟨part, rest⟩ => ⟨Names.imp weaker part, Names.impAll weaker rest⟩

theorem Names.impSlots (weaker : ∀ value, P value → Q value) :
    ∀ {slots : List (Value × Thunk)}, Names.namesSlots P slots → Names.namesSlots Q slots
  | [], _ => trivial
  | (_, _) :: _, ⟨name, part, rest⟩ =>
      ⟨weaker _ name, Names.imp weaker part, Names.impSlots weaker rest⟩

end

end Thunk

namespace Tandem

/-- The values that are part of a part stay where they are. -/
abbrev Stays (first : FirstLook) (extent : Extent) (value : Value) : Prop :=
  Twin first.moves extent value value

mutual

theorem runPart : ∀ {extent : Extent} (part : Thunk), part.Names (Stays first extent) →
    Tandem first extent (Twin first.moves) part.run part.run
  | _, .constant _, named => pure fun _ fits => named.mono fits
  | _, .expression bound, _ => evaluate (boundToken bound) bound.expression
  | _, .text part, named => by
      refine bind (runPart part named) fun large value _ fits same => ?_
      exact bind_same (stringify same) fun _ text _ => pure fun _ _ => .str text
  | _, .attributes slots, named =>
      bind (runSlots slots named) fun _ _ _ _ entries => newMap entries
  | _, .choose condition body otherwise, ⟨asked, yes, no⟩ => by
      refine bind (runPart condition asked) fun large value _ fits same => ?_
      rw [same.isTruthy]
      split
      · exact runPart body (yes.imp fun _ stays => stays.mono fits)
      · exact runPart otherwise (no.imp fun _ stays => stays.mono fits)
  | _, .all parts, named => bind (runAll parts named) fun _ _ _ _ items => newList items
  | _, .textNode recorder content, named =>
      bind (runPart content named) fun _ _ _ _ same => renderText recorder same
  | _, .node recorder type properties content, ⟨named, given, inside⟩ => by
      refine bind (runPart properties given) fun large _ _ fits attributes => ?_
      refine bind (runPart content (inside.imp fun _ stays => stays.mono fits)) ?_
      exact fun larger _ _ more children => renderNode recorder
        (named.mono (fits.trans more)) (attributes.mono more) children
  | _, .repeated values valueName keyName body, ⟨given, each⟩ =>
      renderLoop valueName keyName
        (fun _ fits => runPart values (given.imp fun _ stays => stays.mono fits))
        fun _ fits => runPart body (each.imp fun _ stays => stays.mono fits)

theorem runAll : ∀ {extent : Extent} (parts : List Thunk),
    Thunk.Names.namesAll (Stays first extent) parts →
    Tandem first extent (Twins first.moves) (Thunk.run.runAll parts) (Thunk.run.runAll parts)
  | _, [], _ => pure fun _ _ => .nil
  | _, part :: rest, ⟨named, others⟩ => by
      refine bind (runPart part named) fun large value _ fits same => ?_
      refine bind (runAll rest (Thunk.Names.impAll (fun _ stays => stays.mono fits) others)) ?_
      exact fun _ _ _ more tail => pure fun _ most =>
        .cons (same.mono (more.trans most)) (Twin.monoAll most tail)

theorem runSlots : ∀ {extent : Extent} (slots : List (Value × Thunk)),
    Thunk.Names.namesSlots (Stays first extent) slots →
    Tandem first extent (EntryTwins first.moves) (Thunk.run.runSlots slots)
      (Thunk.run.runSlots slots)
  | _, [], _ => pure fun _ _ => .nil
  | _, (_, part) :: rest, ⟨stays, named, others⟩ => by
      refine bind (runPart part named) fun large value _ fits same => ?_
      refine bind (runSlots rest (Thunk.Names.impSlots (fun _ stays => stays.mono fits) others)) ?_
      exact fun _ _ _ more tail => pure fun _ most =>
        .cons ⟨stays.mono ((fits.trans more).trans most), same.mono (more.trans most)⟩
          (EntryTwins.mono most tail)

end

/-- A pass of its own builds a twin of what it has built before. -/
theorem evaluatePass (checked : Bool) {root root' : Observe Value}
    (each : ∀ large, extent.Fits large → Tandem first large (Twin first.moves) root root') :
    Tandem first extent (Twin first.moves) (Observe.evaluatePass checked root)
      (Observe.evaluatePass checked root') := by
  have lasting : Lasting fun large (a b : Value × Nat) => Twin first.moves large a.1 b.1 ∧
      a.2 = b.2 := fun _ _ _ _ fits both => ⟨both.1.mono fits, both.2⟩
  refine bind (withFreshContext lasting fun large fits => ?_) ?_
  · refine bind (each _ fits) fun _ _ _ _ same => ?_
    exact bind_same frameDepth fun _ _ more => pure fun _ most =>
      ⟨same.mono (more.trans most), rfl⟩
  · rintro large ⟨output, depth⟩ ⟨other, depth'⟩ fits ⟨same, rfl⟩
    dsimp only
    split
    · exact throw (.unbalanced _ _)
    · exact pure fun _ more => same.mono more

end Tandem

end ReactiveSchema
