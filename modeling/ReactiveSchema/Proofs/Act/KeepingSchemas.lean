import ReactiveSchema.Proofs.Act.KeepingWrites

/-!
# Compiling that keeps everything in reach

What a schema is compiled to holds the constants of the schema and components
of the compiler, all of which are there.
-/

namespace ReactiveSchema

variable {extent small large : Extent}

/-- A compiled part all of whose values are there. -/
abbrev PartKnown : Extent → Thunk → Prop :=
  fun extent part => part.Names (Known extent)

/-- Compiled parts all of whose values are there. -/
abbrev PartsKnown : Extent → List Thunk → Prop :=
  fun extent parts => Thunk.Names.namesAll (Known extent) parts

/-- Slots all of whose values are there. -/
abbrev SlotsKnown : Extent → List (Value × Thunk) → Prop :=
  fun extent slots => Thunk.Names.namesSlots (Known extent) slots

/-- A compiled part, if there is one, all of whose values are there. -/
abbrev MaybePartKnown : Extent → Option Thunk → Prop :=
  fun extent found => ∀ part, found = some part → PartKnown extent part

theorem PartKnown.mono {part : Thunk} (known : PartKnown small part) (fits : small.Fits large) :
    PartKnown large part :=
  Thunk.Names.imp (fun _ known => known.mono fits) known

theorem abiding_part : Abiding PartKnown :=
  fun _ _ _ fits known => known.mono fits

theorem abiding_maybePart : Abiding MaybePartKnown :=
  fun _ _ _ fits known part found => (known part found).mono fits

theorem MaybePartKnown.getD {found : Option Thunk} {instead : Thunk}
    (known : MaybePartKnown extent found) (otherwise : PartKnown extent instead) :
    PartKnown extent (found.getD instead) := by
  cases found with
  | none => exact otherwise
  | some part => exact known part rfl

/-- All values of a compiled loop are there. -/
def CompiledLoop.Known (extent : Extent) (loop : CompiledLoop) : Prop :=
  PartKnown extent loop.values

/-- All values of a compiled node are there. -/
structure CompiledNode.Known (extent : Extent) (node : CompiledNode) : Prop where
  condition : MaybePartKnown extent node.condition
  element : MaybeKnown extent node.element
  attributes : PartKnown extent node.attributes
  children : MaybePartKnown extent node.children
  alternate : MaybePartKnown extent node.alternate
  loop : ∀ loop, node.loop = some loop → loop.Known extent

namespace CompiledNode.Known

variable {node : CompiledNode}

theorem mono (known : node.Known small) (fits : small.Fits large) : node.Known large where
  condition := abiding_maybePart fits known.condition
  element := abiding_maybe fits known.element
  attributes := PartKnown.mono known.attributes fits
  children := abiding_maybePart fits known.children
  alternate := abiding_maybePart fits known.alternate
  loop loop found := PartKnown.mono (known.loop loop found) fits

theorem elementThunk (known : node.Known extent) (recorder : Recorder) {element : Value}
    (elements : ReactiveSchema.Known extent element) :
    PartKnown extent (node.elementThunk recorder element) := by
  unfold CompiledNode.elementThunk
  split
  · exact known.children.getD (.str "")
  · exact ⟨elements, known.attributes, known.children.getD trivial⟩

theorem once (known : node.Known extent) (recorder : Recorder) :
    PartKnown extent (node.once recorder) := by
  have otherwise : PartKnown extent (node.alternate.getD .nothing) :=
    known.alternate.getD .none
  unfold CompiledNode.once
  dsimp only
  cases shown : node.element with
  | some element =>
      have built := known.elementThunk recorder (known.element element shown)
      cases asked : node.condition with
      | none => exact built
      | some condition => exact ⟨known.condition condition asked, built, otherwise⟩
  | none =>
      cases asked : node.condition with
      | none => exact otherwise
      | some condition =>
          cases inside : node.children with
          | none => exact otherwise
          | some children =>
              exact ⟨known.condition condition asked, known.children children inside, otherwise⟩

theorem thunk (known : node.Known extent) (recorder : Recorder) :
    PartKnown extent (node.thunk recorder) := by
  unfold CompiledNode.thunk
  split
  · exact known.once recorder
  case h_2 loop found => exact ⟨known.loop loop found, known.once recorder⟩

end CompiledNode.Known

namespace Keeps

variable {runner : Runner} {id : CompilerId} {value : Value}

/-! ## Compilers -/

theorem compilerAt (there : id < extent.compilers) :
    Keeps extent (fun large compiler => compiler.Within large) (Act.compilerAt id) := by
  refine bind get fun large world fits ⟨held, reach⟩ => ?_
  change world.reach = large at reach
  subst reach
  split
  case h_1 compiler found => exact pure fun _ more => (held.compilers found).mono more
  case h_2 missing =>
    have small : world.compilers.size ≤ id := Array.getElem?_eq_none_iff.mp missing
    exact absurd (Nat.lt_of_lt_of_le there fits.compilers) (Nat.not_lt.mpr small)

section Compiling

variable (keeps : runner.Keeps)
include keeps

/-! ## Expressions -/

theorem resolveAll {compiler : Compiler} (within : compiler.Within extent) (scopes : ScopePath)
    (tokens : List String) :
    Keeps extent Anything (Act.resolveAll runner compiler scopes tokens) := by
  induction tokens generalizing extent with
  | nil => exact done
  | cons token rest ih =>
      refine bind (resolve keeps within.store scopes within.data token) fun _ cell fits _ => ?_
      exact bind (ih (within.mono fits)) fun _ _ _ _ => done

theorem compileExpression (there : id < extent.compilers) (scopes : ScopePath)
    (source : String) :
    Keeps extent PartKnown (Act.compileExpression runner id scopes source) := by
  refine bind (observe (compileSource source)) fun _ expression fits _ => ?_
  refine bind (compilerAt (Nat.lt_of_lt_of_le there fits.compilers)) fun _ compiler _ within => ?_
  exact bind (resolveAll keeps within scopes _) fun _ _ _ _ => pure fun _ _ => trivial

theorem compileCondition (there : id < extent.compilers) (scopes : ScopePath)
    (known : Known extent value) :
    Keeps extent PartKnown (Act.compileCondition runner id scopes value) := by
  unfold Act.compileCondition
  split
  · exact compileExpression keeps there scopes _
  · exact pure fun _ fits => known.mono fits

/-! ## Attributes -/

/-- A way to compile values keeps the world whole and gives a part that is known. -/
def CompilesKnown (extent : Extent) (compile : Value → Act Thunk) : Prop :=
  ∀ {large : Extent} {value : Value}, extent.Fits large → Known large value →
    Keeps large PartKnown (compile value)

omit keeps in
theorem CompilesKnown.mono {compile : Value → Act Thunk} (each : CompilesKnown small compile)
    (fits : small.Fits large) : CompilesKnown large compile :=
  fun more known => each (fits.trans more) known

theorem compileChoice (there : id < extent.compilers) (scopes : ScopePath)
    {branch : Value → Act Thunk} (each : CompilesKnown extent branch) (known : Known extent value)
    {otherwise : Thunk} (instead : PartKnown extent otherwise) :
    Keeps extent PartKnown (Act.compileChoice runner id scopes branch value otherwise) := by
  refine bind (observe (getItem known (.str "if"))) fun _ _ f₁ asked => ?_
  refine bind (compileCondition keeps (Nat.lt_of_lt_of_le there f₁.compilers) scopes asked) ?_
  intro _ condition f₂ conditions
  have known := known.mono (f₁.trans f₂)
  refine bind (observe (getItem known (.str "then"))) fun _ _ f₃ yes => ?_
  refine bind (each ((f₁.trans f₂).trans f₃) yes) fun _ body f₄ bodies => ?_
  refine bind (observe (entryOf? (known.mono (f₃.trans f₄)) "else")) fun _ other f₅ others => ?_
  have ahead := ((f₁.trans f₂).trans f₃).trans (f₄.trans f₅)
  cases other with
  | none =>
      exact pure fun _ f₆ => ⟨conditions.mono (f₃.trans (f₄.trans (f₅.trans f₆))),
        bodies.mono (f₅.trans f₆), instead.mono (ahead.trans f₆)⟩
  | some other =>
      refine bind (each ahead (others other rfl)) fun _ part f₆ parts => pure fun _ f₇ => ?_
      have onward := f₅.trans (f₆.trans f₇)
      exact ⟨conditions.mono (f₃.trans (f₄.trans onward)), bodies.mono onward, parts.mono f₇⟩

omit keeps in
theorem compileSlots {slot : Value → Act Thunk} (each : CompilesKnown extent slot)
    {entries : List (Value × Value)} (all : EntriesKnown extent entries) :
    Keeps extent SlotsKnown (Act.compileSlots slot entries) := by
  induction entries generalizing extent with
  | nil => exact pure fun _ _ => trivial
  | cons entry rest ih =>
      cases all with
      | cons both others =>
          have later {name : Value} {large : Extent} {part : Thunk} (fits : extent.Fits large)
              (names : Known extent name) (parts : PartKnown large part) :
              Keeps large SlotsKnown (do
                return (name, part) :: (← Act.compileSlots slot rest)) :=
            bind (ih (each.mono fits) (EntryTwins.mono fits others)) fun _ _ more slots =>
              pure fun _ last => ⟨names.mono ((fits.trans more).trans last),
                parts.mono (more.trans last),
                Thunk.Names.impSlots (fun _ known => known.mono last) slots⟩
          unfold Act.compileSlots
          dsimp only
          split
          · exact bind (each (.refl _) both.2) fun _ _ fits parts => later fits both.1 parts
          · have constant : Keeps extent PartKnown (Pure.pure (.constant entry.2) : Act Thunk) :=
              pure fun _ fits => both.2.mono fits
            exact bind constant fun _ _ fits parts => later fits both.1 parts

theorem compileMap (there : id < extent.compilers) (scopes : ScopePath)
    {slot : Value → Act Thunk} (each : CompilesKnown extent slot) (known : Known extent value) :
    Keeps extent PartKnown (Act.compileMap runner id scopes slot value) := by
  refine bind (observe (isConditional known)) fun _ conditional fits _ => ?_
  split
  · exact compileChoice keeps (Nat.lt_of_lt_of_le there fits.compilers) scopes (each.mono fits)
      (known.mono fits) trivial
  · refine bind (observe (entriesOf (known.mono fits))) fun _ entries more all => ?_
    exact bind (compileSlots (each.mono (fits.trans more)) all) fun _ _ _ slots =>
      pure fun _ last => Thunk.Names.impSlots (fun _ known => known.mono last) slots

theorem compileSlotStep (there : id < extent.compilers) (scopes : ScopePath)
    {deeper : Value → Act Thunk} (each : CompilesKnown extent deeper)
    (known : Known extent value) :
    Keeps extent PartKnown (Act.compileSlotStep runner id scopes deeper value) := by
  unfold Act.compileSlotStep
  split
  · split
    · exact compileExpression keeps there scopes _
    · exact pure fun _ fits => known.mono fits
  · refine bind (observe (isConditional known)) fun _ conditional fits _ => ?_
    have there := Nat.lt_of_lt_of_le there fits.compilers
    have known := known.mono fits
    split
    · exact compileChoice keeps there scopes (each.mono fits) known .none
    · split
      · exact compileMap keeps there scopes (each.mono fits) known
      · exact pure fun _ more => known.mono more

theorem compileSlotWithin (there : id < extent.compilers) (scopes : ScopePath) (depth : Nat) :
    CompilesKnown extent (Act.compileSlotWithin runner id scopes depth) := by
  induction depth with
  | zero => exact fun _ _ => throw .exhausted
  | succ depth ih =>
      intro large value fits known
      exact compileSlotStep keeps (Nat.lt_of_lt_of_le there fits.compilers) scopes (ih.mono fits) known

theorem compileAttributes (there : id < extent.compilers) (scopes : ScopePath)
    (known : Known extent value) :
    Keeps extent PartKnown (Act.compileAttributes runner id scopes value) := by
  unfold Act.compileAttributes
  split
  · refine bind get fun _ _ fits _ => ?_
    have there := Nat.lt_of_lt_of_le there fits.compilers
    exact compileMap keeps there scopes (compileSlotWithin keeps there scopes _) (known.mono fits)
  · exact pure fun _ _ => .none

/-! ## Nodes -/

omit keeps in
theorem componentOf {compiler : Compiler} (within : compiler.Within extent) (name : String) :
    Keeps extent Known (Act.componentOf compiler name) := by
  have listed {found : Value} (has : compiler.library.lookup name = some found) :
      Known extent found := by
    obtain ⟨before, after, all, -⟩ := List.lookup_eq_some_iff.mp has
    exact within.library (name, found) (all ▸ by simp)
  unfold Act.componentOf
  split
  case h_1 component found => exact pure fun _ fits => (listed found).mono fits
  case h_2 =>
    refine bind get fun large world fits held => ?_
    have global (map : MapId) : Known large (((world.memory.mapAt map).find? (.str name)).getD .none) := by
      cases found : (world.memory.mapAt map).find? (.str name) with
      | none => exact .none
      | some component => exact (Entries.within_of_find? ((remembered held).1.maps map) found).2
    dsimp only
    split
    · exact bind (observe (log _)) fun _ _ _ _ => pure fun _ _ => .str name
    · exact pure fun _ more => (global _).mono more

omit keeps in
theorem elementOf {compiler : Compiler} (within : compiler.Within extent) {ref : Value}
    (known : Known extent ref) : Keeps extent Known (Act.elementOf compiler ref) := by
  unfold Act.elementOf
  split
  · exact componentOf within _
  · exact pure fun _ fits => known.mono fits

/-- A way to compile schemas keeps the world whole and gives a part that is known. -/
def CompilesSchemas (extent : Extent) (compile : Act.CompileSchema) : Prop :=
  ∀ scopes, CompilesKnown extent (compile scopes)

omit keeps in
theorem CompilesSchemas.mono {compile : Act.CompileSchema}
    (each : CompilesSchemas small compile) (fits : small.Fits large) :
    CompilesSchemas large compile :=
  fun scopes => CompilesKnown.mono (each scopes) fits

/-- Parts of a conditional that are known. -/
abbrev ChoiceKnown : Extent → Thunk × Thunk × Option Thunk → Prop :=
  fun large parts => PartKnown large parts.1 ∧ PartKnown large parts.2.1 ∧
    MaybePartKnown large parts.2.2

section Deeper

variable {deeper : Act.CompileSchema}

theorem compileConditional (there : id < extent.compilers)
    (each : CompilesSchemas extent deeper) (scopes : ScopePath) {condition body : Value}
    {otherwise : Option Value} (asked : Known extent condition) (yes : Known extent body)
    (no : MaybeKnown extent otherwise) :
    Keeps extent ChoiceKnown
      (Act.compileConditional runner id deeper scopes condition body otherwise) := by
  refine bind (compileCondition keeps there scopes asked) fun _ condition f₁ conditions => ?_
  refine bind (each scopes f₁ (yes.mono f₁)) fun _ body f₂ bodies => ?_
  have plain {large : Extent} (fits : Extent.Fits _ large) :
      ChoiceKnown large (condition, body, none) :=
    ⟨conditions.mono (f₂.trans fits), bodies.mono fits, nofun⟩
  split
  · exact pure fun _ => plain
  · exact pure fun _ => plain
  case h_3 other _ =>
    have ahead := f₁.trans f₂
    refine bind (each scopes ahead ((no other rfl).mono ahead)) fun _ part f₃ parts => ?_
    exact pure fun _ f₄ => ⟨conditions.mono (f₂.trans (f₃.trans f₄)), bodies.mono (f₃.trans f₄),
      fun _ same => by cases same; exact parts.mono f₄⟩

theorem compileMappedChildren (there : id < extent.compilers)
    (each : CompilesSchemas extent deeper) (scopes : ScopePath) (known : Known extent value) :
    Keeps extent PartKnown (Act.compileMappedChildren runner id deeper scopes value) := by
  refine bind (observe (isConditional known)) fun e₁ conditional fits _ => ?_
  have nothing : Keeps e₁ NodeKnown (Pure.pure none : Act (Option SchemaNode)) :=
    pure fun _ _ => nofun
  refine branch (observe (parseNode (known.mono fits))) nothing fun e₂ node more nodes => ?_
  have onward := fits.trans more
  dsimp only
  split
  case h_1 condition body otherwise =>
    cases nodes _ rfl with
    | conditional asked yes no =>
        refine bind (compileConditional keeps (Nat.lt_of_lt_of_le there onward.compilers)
          (each.mono onward) scopes asked yes no) fun _ parts _ known => ?_
        obtain ⟨conditions, bodies, alternates⟩ := known
        exact pure fun _ last => ⟨conditions.mono last, bodies.mono last,
          (abiding_maybePart last alternates).getD .none⟩
  case h_2 => exact each scopes onward (known.mono onward)

theorem compileChildren (there : id < extent.compilers)
    (each : CompilesSchemas extent deeper) (scopes : ScopePath) (known : Known extent value) :
    Keeps extent PartKnown (Act.compileChildren runner id deeper scopes value) := by
  unfold Act.compileChildren
  split
  · split
    · exact bind (compileExpression keeps there scopes _) fun _ _ _ parts =>
        pure fun _ fits => PartKnown.mono parts fits
    · exact pure fun _ fits => known.mono fits
  · exact each scopes (.refl _) known
  · exact each scopes (.refl _) known
  · exact compileMappedChildren keeps there each scopes known
  · exact compileMappedChildren keeps there each scopes known
  · exact bind (observe (Tandem.keeps_done fun _ fits => Tandem.stringify (known.mono fits)))
      fun _ text _ _ => pure fun _ _ => .str text

theorem compileLoop (there : id < extent.compilers) (scopes : ScopePath) {loop : Loop}
    (known : loop.Known extent) :
    Keeps extent (fun large loop => loop.Known large)
      (Act.compileLoop runner id scopes loop) := by
  have rest {large : Extent} {values : Thunk} (parts : PartKnown large values) :
      Keeps large (fun large (loop : CompiledLoop) => loop.Known large)
        (Pure.pure ⟨values, loop.valueName, loop.keyName⟩ : Act CompiledLoop) :=
    pure fun _ fits => PartKnown.mono parts fits
  have constant : Keeps extent PartKnown (Pure.pure (.constant loop.values) : Act Thunk) :=
    pure fun _ fits => Twin.mono fits known
  unfold Act.compileLoop
  dsimp only
  split
  case h_1 source same =>
    split
    · exact bind (compileExpression keeps there scopes source) fun _ _ _ parts => rest parts
    · exact bind constant fun _ _ _ parts => rest parts
  · exact bind constant fun _ _ _ parts => rest parts

omit keeps in
theorem compileGiven {β γ : Type} {R : Extent → γ → Prop} (abiding : Abiding R)
    {compile : β → Act γ} {given : Option β}
    (each : ∀ item, given = some item → Keeps extent R (compile item)) :
    Keeps extent (fun large found => ∀ item, found = some item → R large item)
      (Act.compileGiven compile given) := by
  cases given with
  | none => exact pure fun _ _ => nofun
  | some given =>
      exact bind (each given rfl) fun _ _ _ known => pure fun _ fits _ same => by
        cases same
        exact abiding fits known

theorem compileParts (there : id < extent.compilers) (each : CompilesSchemas extent deeper)
    (scopes : ScopePath) {element : Value} {attributes : Thunk} {parts : NodeParts}
    (elements : Known extent element) (given : PartKnown extent attributes)
    (known : parts.Known extent) :
    Keeps extent (fun large node => node.Known large)
      (Act.compileParts runner id deeper scopes element attributes parts) := by
  have abiding_loop : Abiding fun large (loop : CompiledLoop) => loop.Known large :=
    fun _ _ _ fits known => PartKnown.mono known fits
  refine bind (compileGiven abiding_part fun condition asked =>
    compileCondition keeps there scopes (known.guard condition asked)) ?_
  intro e₁ condition f₁ conditions
  refine bind (compilerAt (Nat.lt_of_lt_of_le there f₁.compilers)) fun e₂ compiler f₂ within => ?_
  have ahead := f₁.trans f₂
  -- The loop comes last, whatever the children were.
  have last {large : Extent} {children : Option Thunk} (fits : e₂.Fits large)
      (inside : MaybePartKnown large children) :
      Keeps large (fun large (node : CompiledNode) => node.Known large) (do
        let loop ← Act.compileGiven (Act.compileLoop runner id scopes) parts.loop
        return ⟨condition, some element, attributes, children, none, scopes, loop⟩) := by
    refine bind (compileGiven abiding_loop fun loop looped => compileLoop keeps
      (Nat.lt_of_lt_of_le there (ahead.trans fits).compilers) scopes
      (Twin.mono (ahead.trans fits) (known.loop loop looped))) fun _ loop more loops => ?_
    refine pure fun _ most => ?_
    have onward := fits.trans (more.trans most)
    exact ⟨abiding_maybePart (f₂.trans onward) conditions,
      fun _ same => by cases same; exact elements.mono (ahead.trans onward),
      given.mono (ahead.trans onward), abiding_maybePart (more.trans most) inside, nofun,
      fun loop looped => PartKnown.mono (loops loop looped) most⟩
  have rest (first : Act Unit) (bound : Keeps e₂ Anything first) :
      Keeps e₂ (fun large (node : CompiledNode) => node.Known large) (do
        first
        let children ←
          if ← Act.observe (Observe.isTrue parts.children) then
            Pure.pure (some (← Act.compileChildren runner id deeper scopes parts.children))
          else Pure.pure none
        let loop ← Act.compileGiven (Act.compileLoop runner id scopes) parts.loop
        return ⟨condition, some element, attributes, children, none, scopes, loop⟩) := by
    refine bind bound fun e₃ _ f₃ _ => ?_
    have children := known.children.mono (ahead.trans f₃)
    refine bind (observe (isTrue children)) fun e₄ _ f₄ _ => ?_
    have onward := (ahead.trans f₃).trans f₄
    dsimp only
    split
    · refine bind (compileChildren keeps (Nat.lt_of_lt_of_le there onward.compilers)
        (each.mono onward) scopes (children.mono f₄)) fun e₅ part f₅ parts => ?_
      have found : Keeps e₅ MaybePartKnown (Pure.pure (some part) : Act (Option Thunk)) :=
        pure fun _ more _ same => by cases same; exact PartKnown.mono parts more
      exact bind found fun _ _ f₆ inside => last (f₃.trans (f₄.trans (f₅.trans f₆))) inside
    · have nothing : Keeps e₄ MaybePartKnown (Pure.pure none : Act (Option Thunk)) :=
        pure fun _ _ => nofun
      exact bind nothing fun _ _ f₅ inside => last (f₃.trans (f₄.trans f₅)) inside
  dsimp only
  split
  · exact rest (Pure.pure ()) done
  case h_2 added bound =>
    refine rest _ (bindings keeps within.store scopes fun _ fits => ?_)
    exact copyMap ((known.bindings added bound).mono (ahead.trans fits))

theorem compileNodeAt (there : id < extent.compilers) (each : CompilesSchemas extent deeper)
    (scopes : ScopePath) {node : SchemaNode} (known : node.Known extent) :
    Keeps extent (fun large node => node.Known large)
      (Act.compileNodeAt runner id deeper scopes node) := by
  cases known with
  | text content =>
      refine bind (compileChildren keeps there each scopes (.str content)) fun _ part _ parts => ?_
      exact pure fun _ fits => ⟨nofun, fun _ same => by cases same; exact .str _, .none,
        fun _ same => by cases same; exact PartKnown.mono parts fits, nofun, nofun⟩
  | conditional asked yes no =>
      refine bind (compileConditional keeps there each scopes asked yes no) fun _ parts _ known => ?_
      obtain ⟨conditions, bodies, alternates⟩ := known
      exact pure fun _ fits => ⟨fun _ same => by cases same; exact conditions.mono fits, nofun, .none,
        fun _ same => by cases same; exact bodies.mono fits, abiding_maybePart fits alternates,
        nofun⟩
  | element tag parts =>
      have rest {large : Extent} {attributes : Thunk} (fits : extent.Fits large)
          (given : PartKnown large attributes) :=
        compileParts keeps (Nat.lt_of_lt_of_le there fits.compilers) (each.mono fits) scopes
          (.str tag) given (parts.mono fits)
      have nothing : Keeps extent PartKnown (Pure.pure .nothing : Act Thunk) :=
        pure fun _ _ => .none
      refine branch nothing (compileAttributes keeps there scopes parts.attributes) ?_
      exact fun _ _ fits given => rest fits given
  | component ref parts =>
      refine bind (compilerAt there) fun _ compiler f₁ within => ?_
      refine bind (elementOf within (ref.mono f₁)) fun _ element f₂ elements => ?_
      have ahead := f₁.trans f₂
      refine bind (compileAttributes keeps (Nat.lt_of_lt_of_le there ahead.compilers) scopes
        (parts.attributes.mono ahead)) fun _ attributes f₃ given => ?_
      exact compileParts keeps (Nat.lt_of_lt_of_le there (ahead.trans f₃).compilers)
        (each.mono (ahead.trans f₃)) scopes (elements.mono f₃) given (parts.mono (ahead.trans f₃))

omit keeps in
theorem countNode (id : CompilerId) : Keeps extent Anything (Act.countNode id) := by
  refine besides (fun world => ?_) fun large world _ held => ?_
  · simp [World.reach]
  · obtain ⟨memory, bodies, closures, environments, compilers, views, chosen, names⟩ := held
    refine ⟨memory, bodies, closures, environments, fun {other compiler} found => ?_, views, chosen,
      names⟩
    dsimp only at found
    rw [Array.getElem?_modify] at found
    split at found
    · obtain ⟨old, known, rfl⟩ := Option.map_eq_some_iff.mp found
      obtain ⟨data, store, library, environment⟩ := compilers known
      exact ⟨data, store, library, environment⟩
    · exact compilers found

/-- A compiled node, if there is one, that is known. -/
abbrev MaybeNodeKnown : Extent → Option CompiledNode → Prop :=
  fun large found => ∀ node, found = some node → node.Known large

theorem compileNode? (there : id < extent.compilers) (each : CompilesSchemas extent deeper)
    (around : ScopePath) (raw : Value) {node : Option SchemaNode} (known : NodeKnown extent node) :
    Keeps extent MaybeNodeKnown (Act.compileNode? runner id deeper around raw node) := by
  cases node with
  | none =>
      refine bind get fun _ _ _ _ => ?_
      exact bind (observe (log _)) fun _ _ _ _ => pure fun _ _ => nofun
  | some node =>
      refine bind (countNode id) fun _ _ f₁ _ => ?_
      refine bind (observe (newScope "")) fun _ scope f₂ _ => ?_
      have ahead := f₁.trans f₂
      refine bind (compileNodeAt keeps (Nat.lt_of_lt_of_le there ahead.compilers) (each.mono ahead)
        _ ((known node rfl).mono ahead)) fun _ node _ nodes => ?_
      exact pure fun _ fits _ same => by cases same; exact nodes.mono fits

omit keeps in
theorem nodeThunk (there : id < extent.compilers) {node : Option CompiledNode}
    (known : MaybeNodeKnown extent node) : Keeps extent PartKnown (Act.nodeThunk id node) := by
  cases node with
  | none => exact pure fun _ _ => .none
  | some node =>
      exact bind (compilerAt there) fun _ _ fits _ => pure fun _ more =>
        PartKnown.mono ((known node rfl).thunk _) (fits.trans more)

theorem compileRaw (there : id < extent.compilers) (each : CompilesSchemas extent deeper)
    (around : ScopePath) (known : Known extent value) :
    Keeps extent PartKnown (Act.compileRaw runner id deeper around value) := by
  refine bind (observe (parseNode known)) fun _ node f₁ nodes => ?_
  have there := Nat.lt_of_lt_of_le there f₁.compilers
  refine bind (compileNode? keeps there (each.mono f₁) around value nodes) fun _ node f₂ known => ?_
  exact nodeThunk (Nat.lt_of_lt_of_le there f₂.compilers) known

theorem compileRawAll (there : id < extent.compilers) (each : CompilesSchemas extent deeper)
    (around : ScopePath) {items : List Value} (all : AllKnown extent items) :
    Keeps extent PartsKnown (Act.compileRawAll runner id deeper around items) := by
  induction items generalizing extent with
  | nil => exact pure fun _ _ => trivial
  | cons raw rest ih =>
      cases all with
      | cons head tail =>
          refine bind (compileRaw keeps there each around head) fun _ part f₁ parts => ?_
          refine bind (ih (Nat.lt_of_lt_of_le there f₁.compilers) (each.mono f₁)
            (AllKnown.mono tail f₁)) fun _ others f₂ known => ?_
          exact pure fun _ last => ⟨PartKnown.mono parts (f₂.trans last),
            Thunk.Names.impAll (fun _ known => known.mono last) known⟩

end Deeper

/-! ## Schemas -/

theorem compileWithin (there : id < extent.compilers) (depth : Nat) :
    CompilesSchemas extent (Act.compileWithin runner id depth) := by
  induction depth generalizing extent with
  | zero => exact fun _ _ _ _ _ => throw .exhausted
  | succ depth ih =>
      intro around large value fits known
      have there := Nat.lt_of_lt_of_le there fits.compilers
      have all {large : Extent} {items : List Value} (more : Extent.Fits _ large)
          (known : AllKnown large items) : Keeps large PartKnown (do
            return .all (← Act.compileRawAll runner id (Act.compileWithin runner id depth)
              around items)) :=
        have there := Nat.lt_of_lt_of_le there more.compilers
        bind (compileRawAll keeps there (ih there) around known) fun _ _ _ parts =>
          pure fun _ last => Thunk.Names.impAll (fun _ known => known.mono last) parts
      unfold Act.compileWithin
      dsimp only
      split
      · cases known with
        | tuple items => exact all (.refl _) items
      · exact bind get fun _ _ more held => all more ((remembered held).1.lists _)
      · exact compileRaw keeps there (ih there) around known

theorem compiling (there : id < extent.compilers) :
    Keeps extent CompilesSchemas (Act.compiling runner id) :=
  bind get fun _ _ fits _ => pure fun _ more =>
    compileWithin keeps (Nat.lt_of_lt_of_le there (fits.trans more).compilers) _

theorem compileSchema (there : id < extent.compilers) (around : ScopePath)
    (known : Known extent value) :
    Keeps extent PartKnown (Act.compileSchema runner id around value) :=
  bind (compiling keeps there) fun _ _ fits each => each around (.refl _) (known.mono fits)

end Compiling

end Keeps

end ReactiveSchema
