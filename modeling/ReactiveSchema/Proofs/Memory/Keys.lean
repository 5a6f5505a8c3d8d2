import ReactiveSchema.Value.Entries

/-!
# Keys that are told apart by identity

Numbers of several kinds may name one key.  Texts, scopes and the like name no
key but their own, so what is written under one of them leaves the entries of
all others alone.
-/

namespace ReactiveSchema

namespace Value

/-- A value is one and the same thing as itself. -/
theorem identical_self : ∀ value : Value, value.identical value = true
  | .none | .undefined | .missing | .ellipsis => rfl
  | .tuple items => identicalAll_self items
  | .method owner name => by
      unfold identical
      rw [owner.identical_self, Bool.true_and, beq_self_eq_true]
  | .bool _ | .int _ | .float _ | .nan _ | .complex _ _ | .str _ | .list _ | .map _
  | .liveList _ | .liveMap _ | .text _ | .node _ | .function _ | .component _ | .object _
  | .incomparable _ | .ref _ | .scope _ | .handle _ _ | .other _ => by simp [identical]
where
  /-- Values are the same things as themselves, one by one. -/
  identicalAll_self : ∀ items : List Value, identical.identicalAll items items = true
    | [] => rfl
    | item :: rest => by
        unfold identical.identicalAll
        rw [item.identical_self, identicalAll_self rest, Bool.true_and]

theorem eq_of_identical : ∀ {a b : Value}, a.identical b = true → a = b
  | .tuple xs, b, same => by
      cases b <;> simp only [identical, Bool.false_eq_true] at same
      case tuple ys => rw [eq_of_identicalAll same]
  | .method owner name, b, same => by
      cases b <;>
        simp only [identical, Bool.false_eq_true, Bool.and_eq_true, beq_iff_eq] at same
      case method owner' name' => rw [eq_of_identical same.1, same.2]
  | .none, b, same | .undefined, b, same | .missing, b, same | .ellipsis, b, same
  | .bool _, b, same | .int _, b, same | .float _, b, same | .nan _, b, same
  | .complex _ _, b, same | .str _, b, same | .list _, b, same | .map _, b, same
  | .liveList _, b, same | .liveMap _, b, same | .text _, b, same | .node _, b, same
  | .function _, b, same | .component _, b, same | .object _, b, same
  | .incomparable _, b, same | .ref _, b, same | .scope _, b, same | .handle _ _, b, same
  | .other _, b, same => by
      cases b <;> simp_all [identical]
where
  /-- Values that are the same things one by one. -/
  eq_of_identicalAll : ∀ {xs ys : List Value}, identical.identicalAll xs ys = true → xs = ys
    | [], ys, same => by
        cases ys with
        | nil => rfl
        | cons => cases same
    | x :: xs, ys, same => by
        cases ys with
        | nil => cases same
        | cons y ys =>
            simp only [identical.identicalAll, Bool.and_eq_true] at same
            rw [eq_of_identical same.1, eq_of_identicalAll same.2]

theorem identical_iff {a b : Value} : a.identical b = true ↔ a = b :=
  ⟨eq_of_identical, fun same => same ▸ a.identical_self⟩

theorem sameKey_iff {a b : Value} : a.sameKey b = true ↔ a.keyForm = b.keyForm :=
  identical_iff

theorem sameKey_self (key : Value) : key.sameKey key = true :=
  sameKey_iff.mpr rfl

theorem sameKey_comm (a b : Value) : a.sameKey b = b.sameKey a := by
  rw [Bool.eq_iff_iff, sameKey_iff, sameKey_iff]
  exact eq_comm

/-- What names the same key is told apart from all others alike. -/
theorem sameKey_congr {a b : Value} (same : a.sameKey b = true) (other : Value) :
    other.sameKey a = other.sameKey b := by
  rw [Bool.eq_iff_iff, sameKey_iff, sameKey_iff, sameKey_iff.mp same]

/-- A key that names the same entry as no other value. -/
def IsOwnKey (key : Value) : Prop :=
  ∀ other : Value, (other.sameKey key = true ↔ other = key) ∧
    (key.sameKey other = true ↔ other = key)

theorem isOwnKey_of_keyForm {key : Value} (unique : ∀ other, other.keyForm = key ↔ other = key) :
    key.IsOwnKey := by
  have own : key.keyForm = key := (unique key).mpr rfl
  intro other
  rw [sameKey_comm key other, sameKey_iff, own]
  exact ⟨unique other, unique other⟩

theorem floatKey_cases (x : Float) : floatKey x = .float x ∨ ∃ n, floatKey x = .int n := by
  unfold floatKey
  split
  · split
    · exact .inr ⟨_, rfl⟩
    · exact .inl rfl
  · exact .inl rfl

theorem complexKey_cases (re im : Float) :
    (∃ re', complexKey re im = .complex re' im) ∨ complexKey re im = floatKey re := by
  unfold complexKey
  split
  · exact .inl ⟨_, rfl⟩
  · split
    · exact .inr rfl
    · exact .inl ⟨_, rfl⟩

/-- A number as a key is a number, or a tuple a tuple; anything else stays as it is. -/
theorem keyForm_cases (value : Value) :
    value.keyForm = value ∨ value.keyForm.num?.isSome = true ∧ value.num?.isSome = true ∨
      ∃ items others, value = .tuple items ∧ value.keyForm = .tuple others := by
  have float (x : Float) : (floatKey x).num?.isSome = true := by
    rcases floatKey_cases x with same | ⟨n, same⟩ <;> rw [same] <;> rfl
  cases value
  case bool b => exact .inr (.inl ⟨rfl, rfl⟩)
  case float x => exact .inr (.inl ⟨float x, rfl⟩)
  case complex re im =>
    refine .inr (.inl ⟨?_, rfl⟩)
    rcases complexKey_cases re im with ⟨re', same⟩ | same
    · exact congrArg (·.num?.isSome) same
    · exact (congrArg (·.num?.isSome) same).trans (float re)
  case tuple items => exact .inr (.inr ⟨_, _, rfl, rfl⟩)
  all_goals exact .inl rfl

/-- What is neither a number nor a tuple is a key of its own. -/
theorem isOwnKey_of_plain {key : Value} (number : key.num? = Option.none)
    (flat : ∀ items, key ≠ .tuple items) : key.IsOwnKey := by
  refine isOwnKey_of_keyForm fun other => ?_
  rcases other.keyForm_cases with same | ⟨form, numeric⟩ | ⟨items, others, rfl, form⟩
  · rw [same]
  · constructor
    · rintro rfl
      rw [number] at form
      cases form
    · rintro rfl
      rw [number] at numeric
      cases numeric
  · exact ⟨fun same => absurd (same.symm.trans form) (flat _), fun same => absurd same.symm (flat _)⟩

theorem isOwnKey_str (text : String) : (Value.str text).IsOwnKey :=
  isOwnKey_of_plain rfl fun _ => nofun

theorem isOwnKey_scope (scope : ScopeId) : (Value.scope scope).IsOwnKey :=
  isOwnKey_of_plain rfl fun _ => nofun

end Value

namespace Entries

variable {α : Type} {key : Value}

theorem find?_cons_self (value : α) (rest : Entries α) :
    find? ((key, value) :: rest) key = some value := by
  simp only [find?]
  rw [if_pos (Value.sameKey_self _)]

theorem find?_cons_of_not {first : Value} {value : α} {rest : Entries α}
    (other : ¬ first.sameKey key = true) :
    find? ((first, value) :: rest) key = find? rest key := by
  simp only [find?]
  rw [if_neg other]

theorem find?_insert_self {written : Value} (entries : Entries α) (value : α) :
    (entries.insert written value).find? written = some value := by
  induction entries with
  | nil => exact find?_cons_self value []
  | cons entry rest ih =>
      obtain ⟨first, old⟩ := entry
      unfold insert
      split
      case isTrue same => simp [find?, same]
      case isFalse other => rw [find?_cons_of_not other, ih]

/-- All names of a key find the same. -/
theorem find?_congr (entries : Entries α) {other : Value} (same : key.sameKey other = true) :
    entries.find? key = entries.find? other := by
  induction entries with
  | nil => rfl
  | cons entry rest ih => simp only [find?, Value.sameKey_congr same, ih]

theorem find?_insert_of_not (entries : Entries α) {written : Value} (value : α)
    (apart : ¬ written.sameKey key = true) :
    (entries.insert written value).find? key = entries.find? key := by
  induction entries with
  | nil => exact find?_cons_of_not apart
  | cons entry rest ih =>
      obtain ⟨first, old⟩ := entry
      unfold insert
      by_cases same : first.sameKey written = true
      · have never : ¬ first.sameKey key = true := by
          rw [Value.sameKey_comm, Value.sameKey_congr same, Value.sameKey_comm]
          exact apart
        rw [if_pos same, find?_cons_of_not never, find?_cons_of_not never]
      · rw [if_neg same]
        simp only [find?, ih]

theorem find?_insert_of_ne (own : key.IsOwnKey) (entries : Entries α) {written : Value}
    (value : α) (apart : written ≠ key) :
    (entries.insert written value).find? key = entries.find? key :=
  find?_insert_of_not entries value fun same => apart ((own written).1.mp same)

theorem find?_erase_self (entries : Entries α) :
    (entries.erase key).find? key = none := by
  induction entries with
  | nil => rfl
  | cons entry rest ih =>
      obtain ⟨first, old⟩ := entry
      unfold erase at ih ⊢
      by_cases hit : first.sameKey key = true
      · rw [List.filter_cons_of_neg (by simpa using hit)]
        exact ih
      · rw [List.filter_cons_of_pos (by simpa using hit), find?_cons_of_not hit]
        exact ih

theorem find?_erase_of_ne (own : key.IsOwnKey) (entries : Entries α) {erased : Value}
    (apart : erased ≠ key) : (entries.erase erased).find? key = entries.find? key := by
  induction entries with
  | nil => rfl
  | cons entry rest ih =>
      obtain ⟨first, old⟩ := entry
      unfold erase at ih ⊢
      by_cases hit : first.sameKey key = true
      · have same : first = key := (own first).1.mp hit
        subst same
        have kept : ¬ first.sameKey erased = true :=
          fun same => apart ((own erased).2.mp same)
        rw [List.filter_cons_of_pos (by simpa using kept), find?_cons_self,
          find?_cons_self]
      · rw [find?_cons_of_not hit]
        by_cases gone : first.sameKey erased = true
        · rw [List.filter_cons_of_neg (by simpa using gone)]
          exact ih
        · rw [List.filter_cons_of_pos (by simpa using gone), find?_cons_of_not hit]
          exact ih

/-- Writing what is found already changes nothing. -/
theorem insert_of_find? {entries : Entries α} {written : Value} {found : α}
    (known : entries.find? written = some found) : entries.insert written found = entries := by
  induction entries with
  | nil => cases known
  | cons entry rest ih =>
      obtain ⟨first, old⟩ := entry
      unfold find? at known
      unfold insert
      split at known
      case isTrue same =>
        rw [if_pos same, Option.some.inj known]
      case isFalse other =>
        rw [if_neg other, ih known]

/-- What is found stays found when a key is written that had no entry. -/
theorem find?_insert_of_none {written : Value} (entries : Entries α) (value : α) {found : α}
    (missing : entries.find? written = none) (known : entries.find? key = some found) :
    (entries.insert written value).find? key = some found := by
  induction entries with
  | nil => cases known
  | cons entry rest ih =>
      obtain ⟨first, old⟩ := entry
      unfold find? at missing known
      split at missing
      · cases missing
      · rename_i other
        unfold insert
        rw [if_neg other]
        simp only [find?]
        split at known
        · rename_i hit
          rw [if_pos hit]
          exact known
        · rename_i later
          rw [if_neg later]
          exact ih missing known

/-- What is found after a key was written is what was written, or was found before. -/
theorem find?_insert_cases {written : Value} (entries : Entries α) (value : α) {found : α}
    (known : (entries.insert written value).find? key = some found) :
    found = value ∨ entries.find? key = some found := by
  induction entries with
  | nil =>
      simp only [insert, find?] at known
      split at known
      · exact .inl (Option.some.inj known).symm
      · cases known
  | cons entry rest ih =>
      obtain ⟨first, old⟩ := entry
      unfold insert at known
      split at known
      · simp only [find?] at known ⊢
        split at known
        · exact .inl (Option.some.inj known).symm
        · rename_i later
          rw [if_neg later]
          exact .inr known
      · simp only [find?] at known ⊢
        split at known
        · rename_i hit
          rw [if_pos hit]
          exact .inr known
        · rename_i later
          rw [if_neg later]
          exact ih known

/-- What is found among entries that were written one after another is one of them. -/
theorem mem_of_find?_insertAll (own : key.IsOwnKey) {entries : Entries α}
    {added : List (Value × α)} {found : α}
    (known : (entries.insertAll added).find? key = some found) :
    (key, found) ∈ added ∨ entries.find? key = some found := by
  induction added generalizing entries with
  | nil => exact .inr known
  | cons entry rest ih =>
      obtain ⟨written, value⟩ := entry
      have known : ((entries.insert written value).insertAll rest).find? key = some found := known
      rcases ih known with later | earlier
      · exact .inl (List.mem_cons_of_mem _ later)
      · by_cases same : written = key
        · subst same
          rw [find?_insert_self] at earlier
          cases earlier
          exact .inl List.mem_cons_self
        · rw [find?_insert_of_ne own _ _ same] at earlier
          exact .inr earlier

theorem mem_of_find?_ofList (own : key.IsOwnKey) {added : List (Value × α)} {found : α}
    (known : (ofList added).find? key = some found) : (key, found) ∈ added :=
  (mem_of_find?_insertAll own known).resolve_right fun never => nomatch never

end Entries

end ReactiveSchema
