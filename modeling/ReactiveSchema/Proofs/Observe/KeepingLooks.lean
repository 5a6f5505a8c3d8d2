import ReactiveSchema.Proofs.Observe.KeepingWrites
import ReactiveSchema.Script.Run

/-!
# Looks that keep everything in reach

Schemas that are read, values that are built from data, containers that are
read whole and markup that is written: all of it names only what is there.
-/

namespace ReactiveSchema

variable {extent small large : Extent}

theorem abiding_maybe : Abiding MaybeKnown :=
  fun _ _ _ fits known value found => (known value found).mono fits

theorem EntriesKnown.mono {entries : List (Value × Value)} (known : EntriesKnown small entries)
    (fits : small.Fits large) : EntriesKnown large entries :=
  EntryTwins.mono fits known

/-- All values that a loop of a schema names are there. -/
def Loop.Known (extent : Extent) (loop : Loop) : Prop :=
  loop.values.Within extent

/-- All values that the parts of a node name are there. -/
structure NodeParts.Known (extent : Extent) (parts : NodeParts) : Prop where
  attributes : parts.attributes.Within extent
  children : parts.children.Within extent
  guard : MaybeKnown extent parts.guard
  bindings : MaybeKnown extent parts.bindings
  loop : ∀ loop, parts.loop = some loop → loop.Known extent

theorem NodeParts.Known.mono {parts : NodeParts} (known : parts.Known small)
    (fits : small.Fits large) : parts.Known large where
  attributes := known.attributes.mono fits
  children := known.children.mono fits
  guard := abiding_maybe fits known.guard
  bindings := abiding_maybe fits known.bindings
  loop loop found := Twin.mono fits (known.loop loop found)

/-- All values that a node of a schema names are there. -/
inductive SchemaNode.Known (extent : Extent) : SchemaNode → Prop
  | text (content : String) : SchemaNode.Known extent (.text content)
  | element (tag : String) {parts : NodeParts} : parts.Known extent →
      SchemaNode.Known extent (.element tag parts)
  | component {ref : Value} {parts : NodeParts} : ref.Within extent → parts.Known extent →
      SchemaNode.Known extent (.component ref parts)
  | conditional {condition body : Value} {otherwise : Option Value} : condition.Within extent →
      body.Within extent → MaybeKnown extent otherwise →
      SchemaNode.Known extent (.conditional condition body otherwise)

theorem SchemaNode.Known.mono {node : SchemaNode} (known : node.Known small)
    (fits : small.Fits large) : node.Known large := by
  cases known with
  | text content => exact .text content
  | element tag parts => exact .element tag (parts.mono fits)
  | component ref parts => exact .component (ref.mono fits) (parts.mono fits)
  | conditional condition body otherwise =>
      exact .conditional (condition.mono fits) (body.mono fits) (abiding_maybe fits otherwise)

namespace Keeps

variable {value key other : Value} {items : List Value}

/-! ## Reading values -/

theorem getItem (known : Known extent value) (keys : Known extent key) :
    Keeps extent Known (Observe.getItem value key) :=
  Tandem.keeps_value fun _ fits => Tandem.getItem (known.mono fits) (keys.mono fits)

theorem getEntry (known : Known extent value) (keys : Known extent key)
    (instead : Known extent other) : Keeps extent Known (Observe.getEntry value key other) :=
  Tandem.keeps_value fun _ fits =>
    Tandem.getEntry (known.mono fits) (keys.mono fits) (instead.mono fits)

theorem copyMap (known : Known extent value) :
    Keeps extent EntriesKnown (Observe.copyMap value) :=
  Tandem.keeps_entries fun _ fits => Tandem.copyMap (known.mono fits)

theorem isTrue (known : Known extent value) : Keeps extent Anything (Observe.isTrue value) :=
  Tandem.keeps_done fun _ fits => Tandem.isTrue (known.mono fits)

theorem shown (known : Known extent value) : Keeps extent Anything (Observe.shown value) :=
  Tandem.keeps_done fun _ fits => Tandem.shown (known.mono fits)

theorem textOf (known : Known extent value) : Keeps extent Anything (Observe.textOf value) :=
  Tandem.keeps_done fun _ fits => Tandem.textOf (known.mono fits)

theorem equal (known : Known extent value) (others : Known extent other) :
    Keeps extent Anything (Observe.equal value other) :=
  Tandem.keeps_done fun _ fits => Tandem.equal (known.mono fits) (others.mono fits)

theorem hasChanged (known : Known extent value) (others : Known extent other) :
    Keeps extent Anything (Observe.hasChanged value other) :=
  Tandem.keeps_done fun _ fits => Tandem.hasChanged (known.mono fits) (others.mono fits)

theorem snapshot (known : Known extent value) : Keeps extent Anything (Observe.snapshot value) :=
  Tandem.keeps_done fun _ fits => Tandem.snapshot (known.mono fits)

theorem lengthOf (known : Known extent value) : Keeps extent Anything (Observe.lengthOf value) :=
  Tandem.keeps_done fun _ fits => Tandem.lengthOf (known.mono fits)

theorem contains (known : Known extent value) (keys : Known extent key) :
    Keeps extent Anything (Observe.contains key value) :=
  Tandem.keeps_done fun _ fits => Tandem.contains (keys.mono fits) (known.mono fits)

theorem unknown {α : Type} {R : Extent → α → Prop} (value : Value) (name : String) :
    Keeps extent R (Observe.unknown value name : Observe α) :=
  throw (.failure _)

/-! ## Schemas -/

theorem entryOf (known : Known extent value) (name : String) :
    Keeps extent Known (Observe.entryOf value name) :=
  getEntry known (.str name) .none

theorem hasKey (known : Known extent value) (name : String) :
    Keeps extent Anything (Observe.hasKey value name) :=
  contains known (.str name)

theorem entryOf? (known : Known extent value) (name : String) :
    Keeps extent MaybeKnown (Observe.entryOf? value name) := by
  refine bind (hasKey known name) fun large has fits _ => ?_
  split
  · refine bind (getItem (known.mono fits) (.str name)) fun larger found more known => ?_
    exact pure fun _ last _ same => by cases same; exact known.mono last
  · exact pure fun _ _ => nofun

theorem isConditional (known : Known extent value) :
    Keeps extent Anything (Observe.isConditional value) := by
  unfold Observe.isConditional
  split
  · exact done
  · refine bind (hasKey known "if") fun large _ fits _ => ?_
    split
    · exact hasKey (known.mono fits) "then"
    · exact done

/-- A loop, if there is one, that is known. -/
abbrev LoopKnown : Extent → Option Loop → Prop :=
  fun large found => ∀ loop, found = some loop → loop.Known large

theorem loopOf (all : AllKnown extent items) : Keeps extent LoopKnown (Observe.loopOf items) := by
  unfold Observe.loopOf
  split
  · have known := allKnown_iff.mp all _ (.tail _ (.head _))
    exact pure fun _ fits _ same => by cases same; exact Twin.mono fits known
  · have known := allKnown_iff.mp all _ (.tail _ (.tail _ (.head _)))
    refine bind (textOf (allKnown_iff.mp all _ (.tail _ (.head _)))) fun _ _ fits _ => ?_
    exact pure fun _ more _ same => by cases same; exact Twin.mono (fits.trans more) known
  · exact pure fun _ _ => nofun

theorem parseLoop (known : Known extent value) :
    Keeps extent LoopKnown (Observe.parseLoop value) := by
  unfold Observe.parseLoop
  split
  · cases known with
    | tuple all => exact loopOf all
  · exact bind get fun _ _ _ held => loopOf (held.1.lists _)
  · exact pure fun _ _ => nofun

theorem parseBindings (known : Known extent value) :
    Keeps extent MaybeKnown (Observe.parseBindings value) := by
  refine bind (entryOf known "let") fun large bindings fits bound => ?_
  split
  · refine bind (isTrue bound) fun larger _ more _ => ?_
    split
    · exact pure fun _ last _ same => by cases same; exact bound.mono (more.trans last)
    · exact pure fun _ _ => nofun
  · exact pure fun _ _ => nofun

theorem parseParts (attributesKey : String) (known : Known extent value) :
    Keeps extent (fun large parts => parts.Known large)
      (Observe.parseParts attributesKey value) := by
  refine bind (entryOf known attributesKey) fun e₁ attributes f₁ given => ?_
  refine bind (entryOf (known.mono f₁) "children") fun e₂ children f₂ inside => ?_
  have known := known.mono (f₁.trans f₂)
  refine bind (entryOf? known "if") fun e₃ guard f₃ guarded => ?_
  refine bind (parseBindings (known.mono f₃)) fun e₄ bindings f₄ bound => ?_
  have known := known.mono (f₃.trans f₄)
  refine bind (entryOf known "for") fun e₅ raw f₅ raws => ?_
  refine bind (parseLoop raws) fun e₆ loop f₆ looped => pure fun _ last => ?_
  have on₅ := f₅.trans (f₆.trans last)
  have on₄ := f₄.trans on₅
  have on₃ := f₃.trans on₄
  exact ⟨given.mono (f₂.trans on₃), inside.mono on₃, abiding_maybe on₄ guarded,
    abiding_maybe on₅ bound, fun loop found => Twin.mono last (looped loop found)⟩

/-- A node of a schema, if there is one, that is known. -/
abbrev NodeKnown : Extent → Option SchemaNode → Prop :=
  fun large found => ∀ node, found = some node → node.Known large

theorem parseElement (known : Known extent value) (tag : Value) :
    Keeps extent NodeKnown (Observe.parseElement value tag) := by
  unfold Observe.parseElement
  split
  · split
    · exact pure fun _ _ => nofun
    · refine bind (parseParts "attrs" known) fun _ parts _ parted => ?_
      exact pure fun _ more _ same => by cases same; exact .element _ (parted.mono more)
  · exact pure fun _ _ => nofun

theorem parseComponent (known : Known extent value) {ref : Value} (refs : Known extent ref) :
    Keeps extent NodeKnown (Observe.parseComponent value ref) := by
  unfold Observe.parseComponent
  split
  · exact pure fun _ _ => nofun
  · refine bind (equal refs (.str "")) fun large _ fits _ => ?_
    split
    · exact pure fun _ _ => nofun
    · refine bind (parseParts "props" (known.mono fits)) fun _ parts more parted => ?_
      exact pure fun _ last _ same => by
        cases same
        exact .component (refs.mono ((fits.trans more).trans last)) (parted.mono last)

theorem parseMapping (known : Known extent value) :
    Keeps extent NodeKnown (Observe.parseMapping value) := by
  refine bind (entryOf? known "$el") fun e₁ tag f₁ _ => ?_
  have known := known.mono f₁
  split
  · exact parseElement known _
  · refine bind (entryOf? known "$cmp") fun e₂ ref f₂ refs => ?_
    have known := known.mono f₂
    split
    · exact parseComponent known (refs _ rfl)
    · refine bind (isConditional known) fun e₃ _ f₃ _ => ?_
      have known := known.mono f₃
      split
      · refine bind (getItem known (.str "if")) fun e₄ condition f₄ asked => ?_
        refine bind (getItem (known.mono f₄) (.str "then")) fun e₅ body f₅ yes => ?_
        have known := known.mono (f₄.trans f₅)
        refine bind (entryOf? known "else") fun e₆ otherwise f₆ no => ?_
        exact pure fun _ last _ same => by
          cases same
          exact .conditional (asked.mono (f₅.trans (f₆.trans last))) (yes.mono (f₆.trans last))
            (abiding_maybe last no)
      · exact pure fun _ _ => nofun

theorem parseNode (known : Known extent value) :
    Keeps extent NodeKnown (Observe.parseNode value) := by
  unfold Observe.parseNode
  split
  · exact pure fun _ _ _ same => by cases same; exact .text _
  · split
    · exact parseMapping known
    · exact pure fun _ _ => nofun

theorem compileSource (source : String) :
    Keeps extent Anything (Observe.compileSource source) := by
  unfold Observe.compileSource
  split
  · exact done
  · refine bind get fun large memory _ _ => throw ?_
    unfold SourceFault.toFault
    split <;> constructor

/-! ## Building values -/

theorem ofFloat (x : Float) : Keeps extent Known (Observe.ofFloat x) :=
  Tandem.keeps_value fun _ _ => Tandem.ofFloat x

theorem newNode {type props children : Value} (types : Known extent type)
    (given : Known extent props) (inside : Known extent children) :
    Keeps extent Known (Observe.newNode type props children) :=
  Tandem.keeps_value fun _ fits =>
    Tandem.newNode ⟨types.mono fits, given.mono fits, inside.mono fits⟩

theorem ofList_known {entries : List (Value × Value)} (known : EntriesKnown extent entries) :
    EntriesKnown extent (Entries.ofList entries) :=
  EntryTwins.ofList known

/-- Attributes that are known. -/
abbrev AttributesKnown : Extent → List (String × Value) → Prop :=
  fun large attributes => ∀ entry ∈ attributes, Known large entry.2

mutual

theorem build : ∀ {extent : Extent} (datum : Datum), Keeps extent Known datum.build
  | _, .none => pure fun _ _ => .none
  | _, .undefined => pure fun _ _ => .undefined
  | _, .missing => pure fun _ _ => .missing
  | _, .ellipsis => pure fun _ _ => .ellipsis
  | _, .bool b => pure fun _ _ => .bool b
  | _, .int n => pure fun _ _ => .int n
  | _, .float x => ofFloat x
  | _, .complex re im => pure fun _ _ => .complex re im
  | _, .str s => pure fun _ _ => .str s
  | _, .tuple items => bind (buildAll items) fun _ _ _ all => pure fun _ more => .tuple (all.mono more)
  | _, .list items => bind (buildAll items) fun _ _ _ all => newList all
  | _, .map entries => bind (buildEntries entries) fun _ _ _ all => newMap (ofList_known all)
  | _, .liveList items =>
      bind (buildAll items) fun _ _ _ all => bind (newList all) fun _ _ _ made => makeLive made
  | _, .liveMap entries =>
      bind (buildEntries entries) fun _ _ _ all =>
        bind (newMap (ofList_known all)) fun _ _ _ made => makeLive made
  | _, .text content => pure fun _ _ => .text content
  | _, .node type props children =>
      bind (build type) fun _ _ _ types => bind (build props) fun _ _ more given =>
        bind (build children) fun _ _ last inside =>
          newNode (types.mono (more.trans last)) (given.mono last) inside
  | _, .function f => pure fun _ _ => .function f
  | _, .component c => pure fun _ _ => .component c
  | _, .object attributes => bind (buildAttributes attributes) fun _ _ _ all => newObject all
  | _, .incomparable =>
      bind (Tandem.keeps_done fun _ _ => Tandem.newSerial) fun _ id _ _ => pure fun _ _ => .incomparable id
  | _, .ref content =>
      bind (build content) fun _ _ _ known => bind (newRef known) fun _ id _ _ =>
        pure fun _ _ => .ref id
  | _, .scope id => pure fun _ _ => .scope id
  | _, .unreadable _ => throw (.failure _)
  | _, .other typeName => pure fun _ _ => .other typeName

theorem buildAll : ∀ {extent : Extent} (items : List Datum),
    Keeps extent AllKnown (Datum.build.buildAll items)
  | _, [] => pure fun _ _ => .nil
  | _, item :: rest =>
      bind (build item) fun _ _ _ known => bind (buildAll rest) fun _ _ more all =>
        pure fun _ last => .cons (known.mono (more.trans last)) (all.mono last)

theorem buildEntries : ∀ {extent : Extent} (entries : List (Datum × Datum)),
    Keeps extent EntriesKnown (Datum.build.buildEntries entries)
  | _, [] => pure fun _ _ => .nil
  | _, (key, item) :: rest =>
      bind (build key) fun _ _ _ keys => bind (build item) fun _ _ f₂ values =>
        bind (checkKey _) fun _ _ f₃ _ => bind (buildEntries rest) fun _ _ f₄ all =>
          pure fun _ last =>
            .cons ⟨keys.mono (f₂.trans (f₃.trans (f₄.trans last))),
              values.mono (f₃.trans (f₄.trans last))⟩ (all.mono last)

theorem buildAttributes : ∀ {extent : Extent} (attributes : List (String × Datum)),
    Keeps extent AttributesKnown (Datum.build.buildAttributes attributes)
  | _, [] => pure fun _ _ => by simp
  | _, (_, item) :: rest =>
      bind (build item) fun _ _ _ known => bind (buildAttributes rest) fun _ _ more all =>
        pure fun _ last => List.forall_mem_cons.mpr ⟨known.mono (more.trans last),
          fun entry has => (all entry has).mono last⟩

end

end Keeps

end ReactiveSchema
