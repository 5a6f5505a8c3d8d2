import ReactiveSchema.Markup.Html
import ReactiveSchema.Proofs.Observe.Alike
import ReactiveSchema.Proofs.Observe.Steady

/-!
# What attributes leave out

An attribute is left out if its value is nothing, undefined or false.  An entry of a list or a
map of styles is left out if it is nothing or equals false, which zero does as well; an undefined
entry is not left out, and has an empty text.
-/

namespace ReactiveSchema

namespace Value

/-- Is an attribute of this value left out? -/
def isDropped : Value → Bool
  | none => true
  | undefined => true
  | bool b => !b
  | _ => false

/-- Is a value false, or a number that equals it? -/
def equalsFalse (value : Value) : Bool :=
  value.num?.any ((.int 0 : Number.Num).eq ·)

/-- Is an entry of this value left out? -/
def isSkipped (value : Value) : Bool :=
  none.identical value || value.equalsFalse

/-- Entries and attributes differ in what is undefined and in numbers that equal false. -/
theorem isSkipped_eq (value : Value) :
    value.isSkipped =
      (value.isDropped && !undefined.identical value || value.equalsFalse) := by
  cases value with
  | bool b => cases b <;> rfl
  | _ => rfl

end Value

namespace Memory

variable {memory : Memory}

/-! ## Entries -/

theorem gives_isOmitted {value : Value} (comparable : ∀ id, value ≠ .incomparable id) :
    memory.Gives (Observe.isOmitted value) value.isSkipped := by
  have compared (item : Value) (scalar : item.isScalar = true) :
      memory.Gives (Observe.sameOr Observe.equal item value)
        (item.identical value || item.sameNumber value) := by
    unfold Observe.sameOr
    cases item.identical value with
    | true => rfl
    | false => exact Observe.run_equal_scalar scalar comparable memory
  have nothing : (Value.none.identical value || Value.none.sameNumber value) =
      Value.none.identical value := by
    cases value <;> rfl
  have falsehood : ((Value.bool false).identical value || (Value.bool false).sameNumber value) =
      value.equalsFalse := by
    cases value with
    | bool b => cases b <;> rfl
    | _ => rfl
  unfold Observe.isOmitted Observe.isAmong Value.isSkipped
  refine (compared .none rfl).bind ?_
  rw [nothing]
  cases Value.none.identical value with
  | true => rfl
  | false =>
      refine (compared (.bool false) rfl).bind ?_
      rw [falsehood]
      cases value.equalsFalse <;> rfl

/-- The text of a value, or the failure of writing it. -/
def writing (memory : Memory) (value : Value) : Except Fault String :=
  match memory.textOf? value with
  | some text => .ok text
  | none => .error (.failure .tooManyDigits)

theorem run_textOf (value : Value) :
    (Observe.textOf value).run memory = (memory.writing value, memory) := by
  change (Observe.written (memory.textOf? value)).run memory = _
  unfold writing
  cases memory.textOf? value <;> rfl

end Memory

namespace Observe

variable {α β : Type} {memory : Memory}

/-- A loop that passes over some items takes the others in order, up to the first failure. -/
theorem run_filterMapM_filter {step : α → Observe (Option β)} {skips : α → Bool}
    {result : α → Except Fault β} {items : List α}
    (passes : ∀ item ∈ items, skips item = true → memory.Gives (step item) none)
    (takes : ∀ item ∈ items, skips item = false →
      (step item).run memory = ((result item).map some, memory)) :
    (items.filterMapM step).run memory = ((items.filter (!skips ·)).mapM result, memory) := by
  have go (kept : List β) : (List.filterMapM.loop step items kept).run memory =
      (((items.filter (!skips ·)).mapM result).map (kept.reverse ++ ·), memory) := by
    induction items generalizing kept with
    | nil =>
        refine congrArg (fun last => (Except.ok last, memory)) ?_
        exact (List.append_nil _).symm
    | cons item rest ih =>
        have inner := ih (fun other known => passes other (List.mem_cons_of_mem _ known))
          fun other known => takes other (List.mem_cons_of_mem _ known)
        unfold List.filterMapM.loop
        cases skipped : skips item with
        | true =>
            rw [run_bind_of_ok (passes item List.mem_cons_self skipped),
              List.filter_cons_of_neg (by simp [skipped])]
            exact inner kept
        | false =>
            rw [run_bind, takes item List.mem_cons_self skipped,
              List.filter_cons_of_pos (by simp [skipped]), List.mapM_cons]
            cases result item with
            | error fault => rfl
            | ok value =>
                refine (inner (value :: kept)).trans ?_
                cases (rest.filter (!skips ·)).mapM result with
                | error fault => rfl
                | ok values => simp [Except.map, bind, Except.bind, pure, Except.pure]
  refine (go []).trans (congrArg (·, memory) ?_)
  cases (items.filter (!skips ·)).mapM result <;> rfl

/-- A loop over entries takes those that are not left out. -/
theorem run_filterMapM_isOmitted {valueOf : α → Value} {take : α → Observe (Option β)}
    {result : α → Except Fault β} {items : List α}
    (comparable : ∀ item ∈ items, ∀ id, valueOf item ≠ .incomparable id)
    (takes : ∀ item, (take item).run memory = ((result item).map some, memory)) :
    (items.filterMapM fun item => do
      if ← isOmitted (valueOf item) then return none else take item).run memory =
      ((items.filter fun item => !(valueOf item).isSkipped).mapM result, memory) := by
  have omitted (item : α) (known : item ∈ items) :
      memory.Gives (isOmitted (valueOf item)) (valueOf item).isSkipped :=
    Memory.gives_isOmitted (comparable item known)
  refine run_filterMapM_filter (fun item known skipped => ?_) fun item known taken => ?_
  · have given := omitted item known
    rw [skipped] at given
    exact given.bind (.pure _)
  · have given := omitted item known
    rw [taken] at given
    exact (run_bind_of_ok given).trans (takes item)

end Observe

namespace Memory

variable {memory : Memory}

/-! ## Attributes -/

/-- Attributes are left out if they are nothing, undefined or false. -/
theorem gives_none_iff {name : String} {value : Value} :
    memory.Gives (Observe.writtenAttribute (.str name) value) .none ↔ value.isDropped = true := by
  have written (content : Observe String) :
      ¬ memory.Gives (do return .str (name ++ "=\"" ++ Text.escapeAttribute (← content) ++ "\""))
        Value.none := by
    intro given
    unfold Gives at given
    rw [run_bind] at given
    generalize content.run memory = outcome at given
    obtain ⟨_ | _, _⟩ := outcome <;> cases given
  cases value with
  | none => exact ⟨fun _ => rfl, fun _ => rfl⟩
  | undefined => exact ⟨fun _ => rfl, fun _ => rfl⟩
  | bool b =>
      cases b with
      | false => exact ⟨fun _ => rfl, fun _ => rfl⟩
      | true => exact ⟨nofun, nofun⟩
  | _ => exact ⟨fun given => absurd given (written _), nofun⟩

/-! ## Attributes of several entries -/

/-- The text of an entry; one of a map of styles has a key. -/
def entryText (memory : Memory) : Option Value × Value → Except Fault String
  | (none, value) => memory.writing value
  | (some key, value) => do return (← memory.writing key) ++ ": " ++ (← memory.writing value)

/-- What an attribute's text is made of, if it is made of entries: what stands between these, and
the entries in order. -/
inductive Entries (memory : Memory) (name : String) :
    Value → String → List (Option Value × Value) → Prop where
  | list (id : Nat) : Entries memory name (.list id) " " ((memory.listAt id).map (none, ·))
  | tuple (items : List Value) : Entries memory name (.tuple items) " " (items.map (none, ·))
  | styles (id : Nat) (named : name = "style") : Entries memory name (.map id) "; "
      ((memory.mapAt id).map fun (key, value) => (some key, value))

/-- The texts of the entries that are not left out, in order. -/
def entryTexts (memory : Memory) (entries : List (Option Value × Value)) :
    Except Fault (List String) :=
  (entries.filter (!·.2.isSkipped)).mapM memory.entryText

theorem run_itemText {items : List Value}
    (comparable : ∀ item ∈ items, ∀ id, item ≠ .incomparable id) :
    (Observe.itemText items).run memory =
      ((memory.entryTexts (items.map (none, ·))).map (" ".intercalate ·), memory) := by
  have texts : memory.entryTexts (items.map (none, ·)) =
      (items.filter (!·.isSkipped)).mapM memory.writing := by
    rw [entryTexts, List.filter_map, List.mapM_map]
    rfl
  have takes (item : Value) : (do return some (← Observe.textOf item) : Observe _).run memory =
      ((memory.writing item).map some, memory) := by
    rw [run_bind, run_textOf]
    cases memory.writing item <;> rfl
  unfold Observe.itemText
  rw [run_bind, Observe.run_filterMapM_isOmitted comparable takes, texts]
  cases (items.filter (!·.isSkipped)).mapM memory.writing <;> rfl

theorem run_styleText {entries : List (Value × Value)}
    (comparable : ∀ entry ∈ entries, ∀ id, entry.2 ≠ .incomparable id) :
    (Observe.styleText entries).run memory =
      ((memory.entryTexts (entries.map fun (key, value) => (some key, value))).map
        ("; ".intercalate ·), memory) := by
  have texts : memory.entryTexts (entries.map fun (key, value) => (some key, value)) =
      (entries.filter (!·.2.isSkipped)).mapM fun entry =>
        memory.entryText (some entry.1, entry.2) := by
    rw [entryTexts, List.filter_map, List.mapM_map]
    rfl
  have takes (entry : Value × Value) :
      (do return some ((← Observe.textOf entry.1) ++ ": " ++ (← Observe.textOf entry.2)) :
        Observe _).run memory = ((memory.entryText (some entry.1, entry.2)).map some, memory) := by
    rw [run_bind, run_textOf, entryText]
    cases memory.writing entry.1 with
    | error fault => rfl
    | ok key =>
        refine (run_bind _ _ _).trans ?_
        rw [run_textOf]
        cases memory.writing entry.2 <;> rfl
  have loop : Observe.styleText entries = do
      let parts ← entries.filterMapM fun entry => do
        if ← Observe.isOmitted entry.2 then return none
        else return some ((← Observe.textOf entry.1) ++ ": " ++ (← Observe.textOf entry.2))
      return "; ".intercalate parts := rfl
  rw [loop, run_bind, Observe.run_filterMapM_isOmitted comparable takes, texts]
  cases (entries.filter (!·.2.isSkipped)).mapM fun entry =>
    memory.entryText (some entry.1, entry.2) <;> rfl

/-- The text of an attribute made of entries has, in order, those that are undefined or would not be
left out as attributes, but for what equals false. -/
theorem entries_left_out {name : String} {value : Value} {between : String}
    {entries : List (Option Value × Value)} (made : memory.Entries name value between entries)
    (comparable : ∀ entry ∈ entries, ∀ id, entry.2 ≠ .incomparable id) :
    (Observe.writtenAttribute (.str name) value).run memory =
        ((memory.entryTexts entries).map fun texts => .str (name ++ "=\"" ++
          Text.escapeAttribute (between.intercalate texts) ++ "\""), memory) ∧
      ∀ entry ∈ entries, entry.2.isSkipped = false ↔
        (entry.2 = .undefined ∨
          ¬ memory.Gives (Observe.writtenAttribute (.str name) entry.2) .none) ∧
          entry.2.equalsFalse = false := by
  have text : (Observe.attributeText (.str name) value).run memory =
      ((memory.entryTexts entries).map (between.intercalate ·), memory) := by
    cases made with
    | list id => exact run_itemText fun item known => comparable _ (List.mem_map_of_mem known)
    | tuple items => exact run_itemText fun item known => comparable _ (List.mem_map_of_mem known)
    | styles id named =>
        subst named
        exact run_styleText fun entry known => comparable _ (List.mem_map_of_mem known)
  have whole : Observe.writtenAttribute (.str name) value = do
      let content ← Observe.attributeText (.str name) value
      return .str (name ++ "=\"" ++ Text.escapeAttribute content ++ "\"") := by
    cases made <;> rfl
  refine ⟨?_, fun entry _ => ?_⟩
  · rw [whole, run_bind, text]
    cases memory.entryTexts entries <;> rfl
  · rw [gives_none_iff, entry.2.isSkipped_eq]
    cases entry.2 with
    | bool b => cases b <;> simp [Value.isDropped, Value.identical, Value.equalsFalse]
    | _ => simp [Value.isDropped, Value.identical]

/-- Of zero, nothing, a letter and an undefined value, the last two are written. -/
theorem entries_left_out_tuple :
    (Observe.writtenAttribute (.str "a")
      (.tuple [.int 0, .none, .str "x", .undefined])).run .empty = (.ok (.str "a=\"x \""), .empty) := by
  have comparable :
      ∀ entry ∈ [Value.int 0, .none, .str "x", .undefined].map ((none : Option Value), ·),
        ∀ id, entry.2 ≠ .incomparable id := by
    simp
  rw [(entries_left_out (.tuple _) comparable).1]
  rfl

end Memory

end ReactiveSchema
