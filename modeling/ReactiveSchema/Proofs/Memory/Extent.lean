import Mathlib.Data.List.Forall2
import ReactiveSchema.Proofs.Memory.Keys

/-!
# Places that are there

A value is within an extent when every place it names is there.  Such a value
has a twin wherever places are moved: the same value but for the places.  What
does not look at places cannot tell twins apart.
-/

namespace ReactiveSchema

/-! ## Extents -/

/-- How many places there are of each kind. -/
structure Extent where
  lists : Nat
  maps : Nat
  liveLists : Nat
  liveMaps : Nat
  nodes : Nat
  /-- Numbers that tell values apart. -/
  serials : Nat
  views : Nat
  environments : Nat
  compilers : Nat

namespace Extent

/-- One extent fits into another that has at least as many places of each kind. -/
structure Fits (small large : Extent) : Prop where
  lists : small.lists ≤ large.lists
  maps : small.maps ≤ large.maps
  liveLists : small.liveLists ≤ large.liveLists
  liveMaps : small.liveMaps ≤ large.liveMaps
  nodes : small.nodes ≤ large.nodes
  serials : small.serials ≤ large.serials
  views : small.views ≤ large.views
  environments : small.environments ≤ large.environments
  compilers : small.compilers ≤ large.compilers

theorem Fits.refl (extent : Extent) : extent.Fits extent :=
  ⟨Nat.le_refl _, Nat.le_refl _, Nat.le_refl _, Nat.le_refl _, Nat.le_refl _, Nat.le_refl _,
    Nat.le_refl _, Nat.le_refl _, Nat.le_refl _⟩

theorem Fits.trans {small middle large : Extent} (first : small.Fits middle)
    (second : middle.Fits large) : small.Fits large where
  lists := Nat.le_trans first.lists second.lists
  maps := Nat.le_trans first.maps second.maps
  liveLists := Nat.le_trans first.liveLists second.liveLists
  liveMaps := Nat.le_trans first.liveMaps second.liveMaps
  nodes := Nat.le_trans first.nodes second.nodes
  serials := Nat.le_trans first.serials second.serials
  views := Nat.le_trans first.views second.views
  environments := Nat.le_trans first.environments second.environments
  compilers := Nat.le_trans first.compilers second.compilers

/-- Is there a handled thing of a kind?  Things that no looking makes need not be. -/
def Holds (extent : Extent) : HandleKind → Nat → Prop
  | .store, id => id < extent.liveMaps
  | .view, id => id < extent.views
  | .environment, id => id < extent.environments
  | .compiler, id => id < extent.compilers
  | _, _ => True

theorem Fits.holds {small large : Extent} (fits : small.Fits large) {kind : HandleKind} {id : Nat}
    (held : small.Holds kind id) : large.Holds kind id := by
  cases kind
  case store => exact Nat.lt_of_lt_of_le held fits.liveMaps
  case view => exact Nat.lt_of_lt_of_le held fits.views
  case environment => exact Nat.lt_of_lt_of_le held fits.environments
  case compiler => exact Nat.lt_of_lt_of_le held fits.compilers
  all_goals trivial

end Extent

/-! ## Moving places -/

/-- Numbers from a first one on move up by some steps. -/
structure Shift where
  first : Nat
  steps : Nat

/-- Where a number moves. -/
def Shift.move (shift : Shift) (n : Nat) : Nat :=
  if n < shift.first then n else n + shift.steps

/-- Nothing moves. -/
def Shift.still : Shift := ⟨0, 0⟩

@[simp] theorem Shift.move_still (n : Nat) : Shift.still.move n = n := by
  simp [Shift.move, Shift.still]

theorem Shift.move_of_lt {shift : Shift} {n : Nat} (early : n < shift.first) :
    shift.move n = n :=
  if_pos early

theorem Shift.move_of_le {shift : Shift} {n : Nat} (late : shift.first ≤ n) :
    shift.move n = n + shift.steps :=
  if_neg (Nat.not_lt.mpr late)

theorem Shift.move_inj {shift : Shift} {m n : Nat} (same : shift.move m = shift.move n) :
    m = n := by
  unfold Shift.move at same
  split at same <;> split at same <;> omega

theorem Shift.move_lt_move {shift : Shift} {m n : Nat} (less : m < n) :
    shift.move m < shift.move n := by
  unfold Shift.move
  split <;> split <;> omega

theorem Shift.move_succ {shift : Shift} {n : Nat} (late : shift.first ≤ n) :
    shift.move (n + 1) = shift.move n + 1 := by
  rw [move_of_le late, move_of_le (Nat.le_succ_of_le late), Nat.add_right_comm]

/-- Where the places of lists, maps and nodes move, and the numbers that tell values apart. -/
structure Relocation where
  lists : Shift
  maps : Shift
  nodes : Shift
  serials : Shift

/-- Nothing moves. -/
def Relocation.still : Relocation := ⟨.still, .still, .still, .still⟩

/-- A relocation leaves all places of an extent where they are. -/
structure Relocation.Spares (moved : Relocation) (extent : Extent) : Prop where
  lists {id : ListId} : id < extent.lists → moved.lists.move id = id
  maps {id : MapId} : id < extent.maps → moved.maps.move id = id
  nodes {id : NodeId} : id < extent.nodes → moved.nodes.move id = id
  serials {id : Nat} : id < extent.serials → moved.serials.move id = id

theorem Relocation.spares_still (extent : Extent) : Relocation.still.Spares extent where
  lists _ := Shift.move_still _
  maps _ := Shift.move_still _
  nodes _ := Shift.move_still _
  serials _ := Shift.move_still _

/-! ## Twins -/

/-- Two values are the same but for places, which are there and are moved. -/
inductive Twin (moved : Relocation) (extent : Extent) : Value → Value → Prop
  | none : Twin moved extent .none .none
  | undefined : Twin moved extent .undefined .undefined
  | missing : Twin moved extent .missing .missing
  | ellipsis : Twin moved extent .ellipsis .ellipsis
  | bool (b : Bool) : Twin moved extent (.bool b) (.bool b)
  | int (n : Int) : Twin moved extent (.int n) (.int n)
  | float (x : Float) : Twin moved extent (.float x) (.float x)
  | nan {id other : Nat} : id < extent.serials → moved.serials.move id = other →
      Twin moved extent (.nan id) (.nan other)
  | complex (re im : Float) : Twin moved extent (.complex re im) (.complex re im)
  | str (s : String) : Twin moved extent (.str s) (.str s)
  | tuple {xs ys : List Value} : List.Forall₂ (Twin moved extent) xs ys →
      Twin moved extent (.tuple xs) (.tuple ys)
  | list {id other : ListId} : id < extent.lists → moved.lists.move id = other →
      Twin moved extent (.list id) (.list other)
  | map {id other : MapId} : id < extent.maps → moved.maps.move id = other →
      Twin moved extent (.map id) (.map other)
  | liveList {id : LiveListId} : id < extent.liveLists →
      Twin moved extent (.liveList id) (.liveList id)
  | liveMap {id : LiveMapId} : id < extent.liveMaps →
      Twin moved extent (.liveMap id) (.liveMap id)
  | text (content : String) : Twin moved extent (.text content) (.text content)
  | node {id other : NodeId} : id < extent.nodes → moved.nodes.move id = other →
      Twin moved extent (.node id) (.node other)
  | function (f : DataFunction) : Twin moved extent (.function f) (.function f)
  | component (c : Component) : Twin moved extent (.component c) (.component c)
  | object (id : ObjectId) : Twin moved extent (.object id) (.object id)
  | incomparable (id : Nat) : Twin moved extent (.incomparable id) (.incomparable id)
  | ref (id : RefId) : Twin moved extent (.ref id) (.ref id)
  | scope (id : ScopeId) : Twin moved extent (.scope id) (.scope id)
  | handle {kind : HandleKind} {id : Nat} : extent.Holds kind id →
      Twin moved extent (.handle kind id) (.handle kind id)
  | method {owner other : Value} (name : String) : Twin moved extent owner other →
      Twin moved extent (.method owner name) (.method other name)
  | other (typeName : String) : Twin moved extent (.other typeName) (.other typeName)

/-- Values that are twins one by one. -/
abbrev Twins (moved : Relocation) (extent : Extent) : List Value → List Value → Prop :=
  List.Forall₂ (Twin moved extent)

/-- Two pairs of twins. -/
def PairTwin (moved : Relocation) (extent : Extent) (p q : Value × Value) : Prop :=
  Twin moved extent p.1 q.1 ∧ Twin moved extent p.2 q.2

/-- Entries that are twins one by one. -/
abbrev EntryTwins (moved : Relocation) (extent : Extent) :
    List (Value × Value) → List (Value × Value) → Prop :=
  List.Forall₂ (PairTwin moved extent)

/-- All places that a value names are there. -/
abbrev Value.Within (extent : Extent) (value : Value) : Prop :=
  Twin .still extent value value

variable {moved : Relocation} {extent small large : Extent} {a b c d : Value}

namespace Twin

mutual

theorem mono (fits : small.Fits large) : ∀ {a b : Value}, Twin moved small a b →
    Twin moved large a b
  | .tuple _, _, .tuple same => .tuple (monoAll fits same)
  | _, _, .none => .none
  | _, _, .undefined => .undefined
  | _, _, .missing => .missing
  | _, _, .ellipsis => .ellipsis
  | _, _, .bool b => .bool b
  | _, _, .int n => .int n
  | _, _, .float x => .float x
  | _, _, .nan there same => .nan (Nat.lt_of_lt_of_le there fits.serials) same
  | _, _, .complex re im => .complex re im
  | _, _, .str s => .str s
  | _, _, .list there same => .list (Nat.lt_of_lt_of_le there fits.lists) same
  | _, _, .map there same => .map (Nat.lt_of_lt_of_le there fits.maps) same
  | _, _, .liveList there => .liveList (Nat.lt_of_lt_of_le there fits.liveLists)
  | _, _, .liveMap there => .liveMap (Nat.lt_of_lt_of_le there fits.liveMaps)
  | _, _, .text content => .text content
  | _, _, .node there same => .node (Nat.lt_of_lt_of_le there fits.nodes) same
  | _, _, .function f => .function f
  | _, _, .component c => .component c
  | _, _, .object id => .object id
  | _, _, .incomparable id => .incomparable id
  | _, _, .ref id => .ref id
  | _, _, .scope id => .scope id
  | _, _, .handle held => .handle (fits.holds held)
  | .method _ _, _, .method name same => .method name (mono fits same)
  | _, _, .other typeName => .other typeName

theorem monoAll (fits : small.Fits large) : ∀ {xs ys : List Value}, Twins moved small xs ys →
    Twins moved large xs ys
  | [], _, .nil => .nil
  | _ :: _, _, .cons first rest => .cons (mono fits first) (monoAll fits rest)

end

mutual

/-- Where no place moves, a value is its own twin. -/
theorem unmoved {other : Relocation} (spares : moved.Spares small) (fits : small.Fits large) :
    ∀ {a b : Value}, Twin other small a b → Twin moved large a a
  | .tuple _, _, .tuple same => .tuple (unmovedAll spares fits same)
  | _, _, .none => .none
  | _, _, .undefined => .undefined
  | _, _, .missing => .missing
  | _, _, .ellipsis => .ellipsis
  | _, _, .bool b => .bool b
  | _, _, .int n => .int n
  | _, _, .float x => .float x
  | _, _, .nan there _ => .nan (Nat.lt_of_lt_of_le there fits.serials) (spares.serials there)
  | _, _, .complex re im => .complex re im
  | _, _, .str s => .str s
  | _, _, .list there _ => .list (Nat.lt_of_lt_of_le there fits.lists) (spares.lists there)
  | _, _, .map there _ => .map (Nat.lt_of_lt_of_le there fits.maps) (spares.maps there)
  | _, _, .liveList there => .liveList (Nat.lt_of_lt_of_le there fits.liveLists)
  | _, _, .liveMap there => .liveMap (Nat.lt_of_lt_of_le there fits.liveMaps)
  | _, _, .text content => .text content
  | _, _, .node there _ => .node (Nat.lt_of_lt_of_le there fits.nodes) (spares.nodes there)
  | _, _, .function f => .function f
  | _, _, .component c => .component c
  | _, _, .object id => .object id
  | _, _, .incomparable id => .incomparable id
  | _, _, .ref id => .ref id
  | _, _, .scope id => .scope id
  | _, _, .handle held => .handle (fits.holds held)
  | .method _ _, _, .method name same => .method name (unmoved spares fits same)
  | _, _, .other typeName => .other typeName

theorem unmovedAll {other : Relocation} (spares : moved.Spares small) (fits : small.Fits large) :
    ∀ {xs ys : List Value}, Twins other small xs ys → Twins moved large xs xs
  | [], _, .nil => .nil
  | _ :: _, _, .cons first rest =>
      .cons (unmoved spares fits first) (unmovedAll spares fits rest)

end

theorem within (same : Twin moved extent a b) : a.Within extent :=
  unmoved (Relocation.spares_still extent) (.refl extent) same

mutual

/-- A value within an extent has a twin wherever places move. -/
theorem exists_twin (moved : Relocation) {other : Relocation} :
    ∀ {a b : Value}, Twin other extent a b → ∃ c, Twin moved extent a c
  | .tuple _, _, .tuple same =>
      have ⟨_, twins⟩ := exists_twins moved same
      ⟨_, .tuple twins⟩
  | _, _, .none => ⟨_, .none⟩
  | _, _, .undefined => ⟨_, .undefined⟩
  | _, _, .missing => ⟨_, .missing⟩
  | _, _, .ellipsis => ⟨_, .ellipsis⟩
  | _, _, .bool b => ⟨_, .bool b⟩
  | _, _, .int n => ⟨_, .int n⟩
  | _, _, .float x => ⟨_, .float x⟩
  | _, _, .nan there _ => ⟨_, .nan there rfl⟩
  | _, _, .complex re im => ⟨_, .complex re im⟩
  | _, _, .str s => ⟨_, .str s⟩
  | _, _, .list there _ => ⟨_, .list there rfl⟩
  | _, _, .map there _ => ⟨_, .map there rfl⟩
  | _, _, .liveList there => ⟨_, .liveList there⟩
  | _, _, .liveMap there => ⟨_, .liveMap there⟩
  | _, _, .text content => ⟨_, .text content⟩
  | _, _, .node there _ => ⟨_, .node there rfl⟩
  | _, _, .function f => ⟨_, .function f⟩
  | _, _, .component c => ⟨_, .component c⟩
  | _, _, .object id => ⟨_, .object id⟩
  | _, _, .incomparable id => ⟨_, .incomparable id⟩
  | _, _, .ref id => ⟨_, .ref id⟩
  | _, _, .scope id => ⟨_, .scope id⟩
  | _, _, .handle held => ⟨_, .handle held⟩
  | .method _ _, _, .method name same =>
      have ⟨_, twin⟩ := exists_twin moved same
      ⟨_, .method name twin⟩
  | _, _, .other typeName => ⟨_, .other typeName⟩

theorem exists_twins (moved : Relocation) {other : Relocation} :
    ∀ {xs ys : List Value}, Twins other extent xs ys → ∃ zs, Twins moved extent xs zs
  | [], _, .nil => ⟨_, .nil⟩
  | _ :: _, _, .cons first rest =>
      have ⟨_, twin⟩ := exists_twin moved first
      have ⟨_, twins⟩ := exists_twins moved rest
      ⟨_, .cons twin twins⟩

end

mutual

/-- A value has one twin. -/
theorem right_unique : ∀ {a b c : Value}, Twin moved small a b → Twin moved large a c → b = c
  | .tuple _, _, _, .tuple first, second => by
      cases second with
      | tuple second => exact congrArg _ (right_uniqueAll first second)
  | .method _ _, _, _, .method name first, second => by
      cases second with
      | method _ second => exact congrArg (Value.method · name) (right_unique first second)
  | .nan _, _, _, .nan _ moves, second => by
      cases second with
      | nan _ moves' => exact congrArg _ (moves.symm.trans moves')
  | .list _, _, _, .list _ moves, second => by
      cases second with
      | list _ moves' => exact congrArg _ (moves.symm.trans moves')
  | .map _, _, _, .map _ moves, second => by
      cases second with
      | map _ moves' => exact congrArg _ (moves.symm.trans moves')
  | .node _, _, _, .node _ moves, second => by
      cases second with
      | node _ moves' => exact congrArg _ (moves.symm.trans moves')
  | .none, _, _, first, second | .undefined, _, _, first, second
  | .missing, _, _, first, second | .ellipsis, _, _, first, second
  | .bool _, _, _, first, second | .int _, _, _, first, second | .float _, _, _, first, second
  | .complex _ _, _, _, first, second | .str _, _, _, first, second
  | .liveList _, _, _, first, second | .liveMap _, _, _, first, second
  | .text _, _, _, first, second | .function _, _, _, first, second
  | .component _, _, _, first, second | .object _, _, _, first, second
  | .incomparable _, _, _, first, second | .ref _, _, _, first, second
  | .scope _, _, _, first, second | .handle _ _, _, _, first, second
  | .other _, _, _, first, second => by
      cases first
      cases second
      rfl

theorem right_uniqueAll : ∀ {xs ys zs : List Value}, Twins moved small xs ys →
    Twins moved large xs zs → ys = zs
  | [], _, _, .nil, second => by
      cases second
      rfl
  | _ :: _, _, _, .cons first rest, second => by
      cases second with
      | cons first' rest' => rw [right_unique first first', right_uniqueAll rest rest']

end

mutual

/-- Different values have different twins. -/
theorem left_unique : ∀ {a b c : Value}, Twin moved small a c → Twin moved large b c → a = b
  | .tuple _, _, _, .tuple first, second => by
      cases second with
      | tuple second => exact congrArg _ (left_uniqueAll first second)
  | .method _ _, _, _, .method name first, second => by
      cases second with
      | method _ second => exact congrArg (Value.method · name) (left_unique first second)
  | .nan _, _, _, .nan _ moves, second => by
      cases second with
      | nan _ moves' => exact congrArg _ (Shift.move_inj (moves.trans moves'.symm))
  | .list _, _, _, .list _ moves, second => by
      cases second with
      | list _ moves' => exact congrArg _ (Shift.move_inj (moves.trans moves'.symm))
  | .map _, _, _, .map _ moves, second => by
      cases second with
      | map _ moves' => exact congrArg _ (Shift.move_inj (moves.trans moves'.symm))
  | .node _, _, _, .node _ moves, second => by
      cases second with
      | node _ moves' => exact congrArg _ (Shift.move_inj (moves.trans moves'.symm))
  | .none, _, _, first, second | .undefined, _, _, first, second
  | .missing, _, _, first, second | .ellipsis, _, _, first, second
  | .bool _, _, _, first, second | .int _, _, _, first, second | .float _, _, _, first, second
  | .complex _ _, _, _, first, second | .str _, _, _, first, second
  | .liveList _, _, _, first, second | .liveMap _, _, _, first, second
  | .text _, _, _, first, second | .function _, _, _, first, second
  | .component _, _, _, first, second | .object _, _, _, first, second
  | .incomparable _, _, _, first, second | .ref _, _, _, first, second
  | .scope _, _, _, first, second | .handle _ _, _, _, first, second
  | .other _, _, _, first, second => by
      cases first
      cases second
      rfl

theorem left_uniqueAll : ∀ {xs ys zs : List Value}, Twins moved small xs zs →
    Twins moved large ys zs → xs = ys
  | [], _, _, .nil, second => by
      cases second
      rfl
  | _ :: _, _, _, .cons first rest, second => by
      cases second with
      | cons first' rest' => rw [left_unique first first', left_uniqueAll rest rest']

end

theorem eq_iff (first : Twin moved extent a b) (second : Twin moved extent c d) :
    a = c ↔ b = d := by
  constructor
  · rintro rfl
    exact right_unique first second
  · rintro rfl
    exact left_unique first second

theorem identical (first : Twin moved extent a b) (second : Twin moved extent c d) :
    a.identical c = b.identical d := by
  rw [Bool.eq_iff_iff, Value.identical_iff, Value.identical_iff]
  exact eq_iff first second

theorem floatKey (x : Float) : Twin moved extent (Value.floatKey x) (Value.floatKey x) := by
  rcases Value.floatKey_cases x with same | ⟨n, same⟩ <;> rw [same]
  · exact .float x
  · exact .int n

mutual

theorem keyForm : ∀ {a b : Value}, Twin moved extent a b →
    Twin moved extent a.keyForm b.keyForm
  | .tuple _, _, .tuple same => .tuple (keyForms same)
  | _, _, .float x => floatKey x
  | _, _, .complex re im => by
      unfold Value.keyForm
      rcases Value.complexKey_cases re im with ⟨re', same⟩ | same <;> rw [same]
      · exact .complex re' im
      · exact floatKey re
  | _, _, .bool b => .int _
  | _, _, .none => .none
  | _, _, .undefined => .undefined
  | _, _, .missing => .missing
  | _, _, .ellipsis => .ellipsis
  | _, _, .int n => .int n
  | _, _, .nan there moves => .nan there moves
  | _, _, .str s => .str s
  | _, _, .list there moves => .list there moves
  | _, _, .map there moves => .map there moves
  | _, _, .liveList there => .liveList there
  | _, _, .liveMap there => .liveMap there
  | _, _, .text content => .text content
  | _, _, .node there moves => .node there moves
  | _, _, .function f => .function f
  | _, _, .component c => .component c
  | _, _, .object id => .object id
  | _, _, .incomparable id => .incomparable id
  | _, _, .ref id => .ref id
  | _, _, .scope id => .scope id
  | _, _, .handle held => .handle held
  | _, _, .method name same => .method name same
  | _, _, .other typeName => .other typeName

theorem keyForms : ∀ {xs ys : List Value}, Twins moved extent xs ys →
    Twins moved extent (Value.keyForm.keyForms xs) (Value.keyForm.keyForms ys)
  | [], _, .nil => .nil
  | _ :: _, _, .cons first rest => .cons (keyForm first) (keyForms rest)

end

theorem sameKey (first : Twin moved extent a b) (second : Twin moved extent c d) :
    a.sameKey c = b.sameKey d :=
  identical first.keyForm second.keyForm

/-! ### What twins have in common -/

theorem typeName (same : Twin moved extent a b) : a.typeName = b.typeName := by
  cases same <;> rfl

theorem num? (same : Twin moved extent a b) : a.num? = b.num? := by
  cases same <;> rfl

theorem index? (same : Twin moved extent a b) : a.index? = b.index? := by
  cases same <;> rfl

theorem isLive (same : Twin moved extent a b) : a.isLive = b.isLive := by
  cases same <;> rfl

theorem isPlainContainer (same : Twin moved extent a b) :
    a.isPlainContainer = b.isPlainContainer := by
  cases same <;> rfl

theorem isMapping (same : Twin moved extent a b) : a.isMapping = b.isMapping := by
  cases same <;> rfl

theorem isStr (same : Twin moved extent a b) : a.isStr = b.isStr := by
  cases same <;> rfl

mutual

theorem isHashable : ∀ {a b : Value}, Twin moved extent a b → a.isHashable = b.isHashable
  | .tuple _, _, .tuple same => hashableAll same
  | .none, _, same | .undefined, _, same | .missing, _, same | .ellipsis, _, same
  | .bool _, _, same | .int _, _, same | .float _, _, same | .nan _, _, same
  | .complex _ _, _, same | .str _, _, same | .list _, _, same | .map _, _, same
  | .liveList _, _, same | .liveMap _, _, same | .text _, _, same | .node _, _, same
  | .function _, _, same | .component _, _, same | .object _, _, same
  | .incomparable _, _, same | .ref _, _, same | .scope _, _, same | .handle _ _, _, same
  | .method _ _, _, same | .other _, _, same => by
      cases same
      rfl

theorem hashableAll : ∀ {xs ys : List Value}, Twins moved extent xs ys →
    Value.isHashable.hashableAll xs = Value.isHashable.hashableAll ys
  | [], _, .nil => rfl
  | _ :: _, _, .cons first rest => by
      unfold Value.isHashable.hashableAll
      rw [isHashable first, hashableAll rest]

end

end Twin

/-! ## Entries -/

namespace EntryTwins

variable {left right : Entries Value} {key other value found : Value}

theorem keys (same : EntryTwins moved extent left right) :
    Twins moved extent (Entries.keys left) (Entries.keys right) :=
  List.forall₂_map_left_iff.mpr (List.forall₂_map_right_iff.mpr
    (same.imp fun _ _ pair => pair.1))

theorem values (same : EntryTwins moved extent left right) :
    Twins moved extent (left.map Prod.snd) (right.map Prod.snd) :=
  List.forall₂_map_left_iff.mpr (List.forall₂_map_right_iff.mpr
    (same.imp fun _ _ pair => pair.2))

theorem mono (fits : small.Fits large) (same : EntryTwins moved small left right) :
    EntryTwins moved large left right :=
  same.imp fun _ _ pair => ⟨pair.1.mono fits, pair.2.mono fits⟩

/-- Twin keys have twin entries. -/
theorem find? (same : EntryTwins moved extent left right) (keys : Twin moved extent key other) :
    Option.Rel (Twin moved extent) (Entries.find? left key) (Entries.find? right other) := by
  induction same with
  | nil => exact .none
  | cons pair _ ih =>
      unfold Entries.find?
      rw [pair.1.sameKey keys]
      split
      · exact .some pair.2
      · exact ih

theorem contains (same : EntryTwins moved extent left right)
    (keys : Twin moved extent key other) :
    Entries.contains left key = Entries.contains right other := by
  have both {x y : Option Value} (related : Option.Rel (Twin moved extent) x y) :
      x.isSome = y.isSome := by
    cases related <;> rfl
  exact both (find? same keys)

theorem insert (same : EntryTwins moved extent left right) (keys : Twin moved extent key other)
    (values : Twin moved extent value found) :
    EntryTwins moved extent (Entries.insert left key value)
      (Entries.insert right other found) := by
  induction same with
  | nil => exact .cons ⟨keys, values⟩ .nil
  | cons pair rest ih =>
      unfold Entries.insert
      rw [pair.1.sameKey keys]
      split
      · exact .cons ⟨pair.1, values⟩ rest
      · exact .cons pair ih

theorem erase (same : EntryTwins moved extent left right) (keys : Twin moved extent key other) :
    EntryTwins moved extent (Entries.erase left key) (Entries.erase right other) := by
  induction same with
  | nil => exact .nil
  | cons pair rest ih =>
      unfold Entries.erase at ih ⊢
      rw [List.filter_cons, List.filter_cons, pair.1.sameKey keys]
      split
      · exact .cons pair ih
      · exact ih

theorem insertAll {added more : List (Value × Value)}
    (same : EntryTwins moved extent left right) (others : EntryTwins moved extent added more) :
    EntryTwins moved extent (Entries.insertAll left added) (Entries.insertAll right more) := by
  induction others generalizing left right with
  | nil => exact same
  | cons pair _ ih => exact ih (same.insert pair.1 pair.2)

theorem ofList (same : EntryTwins moved extent left right) :
    EntryTwins moved extent (Entries.ofList left) (Entries.ofList right) :=
  insertAll .nil same

end EntryTwins

end ReactiveSchema
