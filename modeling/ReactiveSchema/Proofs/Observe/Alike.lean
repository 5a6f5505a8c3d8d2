import Mathlib
import ReactiveSchema.Proofs.Act.Along
import ReactiveSchema.Reactive.Write

/-!
# Values that do not count as changed

A scalar that is overwritten counts as changed unless the new value is the same
thing, or of the same kind and equal.  Values that do not count as changed one
after another do not count as changed from the first to the last.
-/

namespace ReactiveSchema

namespace Value

/-- Is this a value of exchanged data that holds no others? -/
def isScalar : Value → Bool
  | none => true
  | bool _ => true
  | int _ => true
  | float _ => true
  | nan _ => true
  | str _ => true
  | _ => false

/-- Are two values equal as numbers, or else one and the same? -/
def sameNumber (a b : Value) : Bool :=
  match a.num?, b.num? with
  | some m, some n => m.eq n
  | _, _ => a.identical b

/-- Are two values one and the same, or of one kind and equal? -/
def alike (a b : Value) : Bool :=
  a.identical b || (a.typeName == b.typeName && a.sameNumber b)

end Value

namespace Observe

variable {old new : Value}

theorem run_equal_scalar (scalar : old.isScalar = true)
    (comparable : ∀ id, new ≠ .incomparable id) (memory : Memory) :
    (equal old new).run memory = (.ok (old.sameNumber new), memory) := by
  have within (depth : Nat) :
      (equalWithin (depth + 1) old new).run memory = (.ok (old.sameNumber new), memory) := by
    unfold equalWithin
    cases old <;> cases scalar <;> cases new <;> first | rfl | exact absurd rfl (comparable _)
  exact within _

/-- Whether a scalar counts as changed depends on the two values alone. -/
theorem run_hasChanged (scalar : old.isScalar = true) (memory : Memory) :
    (hasChanged old new).run memory = (.ok (!old.alike new), memory) := by
  have flat : old.isLive = false := by
    cases old <;> first | rfl | cases scalar
  unfold hasChanged Value.alike
  cases same : old.identical new with
  | true => rfl
  | false =>
      cases live : new.isLive with
      | true =>
          have kinds : (old.typeName == new.typeName) = false := by
            cases new <;> cases live <;> cases old <;> first | rfl | cases scalar
          rw [flat, kinds]
          rfl
      | false =>
          rw [flat]
          cases kinds : old.typeName == new.typeName with
          | false =>
              simp only [bne, kinds]
              rfl
          | true =>
              have comparable (id : Nat) : new ≠ .incomparable id := by
                rintro rfl
                cases old <;> cases scalar <;> simp [Value.typeName] at kinds
              simp only [bne, kinds, Bool.not_true, Bool.false_or, Bool.or_false,
                Bool.false_eq_true, if_false, Bool.true_and]
              rw [run_tryCatch, run_bind, run_equal_scalar scalar comparable]
              rfl

end Observe

/-! ## One after another -/

section Floats

open Float.Model

/-- Floating point numbers that compare equal are one and the same, or both are zero. -/
theorem eq_or_zero_of_beq {a b : UnpackedFloat} (same : a.beq b = true) :
    a = b ∨ ∃ s t, a = .zero s ∧ b = .zero t := by
  unfold UnpackedFloat.beq UnpackedFloat.compare at same
  split at same
  case h_3 s t =>
    left
    cases s <;> cases t <;> first | rfl | cases same
  case h_12 => exact .inr ⟨_, _, rfl, rfl⟩
  case h_13 =>
    left
    simp only [beq_iff_eq, Option.some.injEq, Ordering.swap_eq_eq, Ordering.then_eq_eq,
      Nat.compare_eq_eq, Int.compare_eq_eq] at same
    obtain ⟨rfl, rfl⟩ := same
    rfl
  case h_16 =>
    left
    simp only [beq_iff_eq, Option.some.injEq, Ordering.then_eq_eq, Nat.compare_eq_eq,
      Int.compare_eq_eq] at same
    obtain ⟨rfl, rfl⟩ := same
    rfl
  all_goals cases same

theorem float_beq_trans {x y z : Float} (first : (x == y) = true) (second : (y == z) = true) :
    (x == z) = true := by
  change x.toModel.unpack.beq y.toModel.unpack = true at first
  change y.toModel.unpack.beq z.toModel.unpack = true at second
  change x.toModel.unpack.beq z.toModel.unpack = true
  rcases eq_or_zero_of_beq first with same | ⟨s, t, zero, zero'⟩
  · rw [same]
    exact second
  · rcases eq_or_zero_of_beq second with same | ⟨s', t', -, last⟩
    · rw [← same]
      exact first
    · rw [zero, last]
      rfl

theorem unpack_notANumber : Number.notANumber.toModel.unpack = .notANumber := by
  rfl

theorem beq_notANumber (x : Float) : (x == Number.notANumber) = false := by
  change x.toModel.unpack.beq Number.notANumber.toModel.unpack = false
  rw [unpack_notANumber]
  cases x.toModel.unpack <;> rfl

theorem notANumber_beq (x : Float) : (Number.notANumber == x) = false := by
  change Number.notANumber.toModel.unpack.beq x.toModel.unpack = false
  rw [unpack_notANumber]
  rfl

end Floats

namespace Value

variable {a b c : Value}

theorem alike_refl (scalar : a.isScalar = true) : a.alike a = true := by
  cases a <;> cases scalar <;> simp [alike, identical]

/-- What is like a scalar is that scalar, or both are floating point numbers that are equal. -/
theorem alike_cases (scalar : a.isScalar = true) (same : a.alike b = true) :
    b = a ∨ ∃ x y : Float, a = .float x ∧ b = .float y ∧ (x == y) = true := by
  have never (x : Float) : (x == Number.notANumber) = false := beq_notANumber x
  have never' (x : Float) : (Number.notANumber == x) = false := notANumber_beq x
  cases a <;> cases scalar <;> cases b
  case bool.refl.bool p q => cases p <;> cases q <;> first | exact .inl rfl | cases same
  case float.refl.float x y =>
    simp only [alike, identical, sameNumber, num?, Number.Num.eq, typeName, Bool.or_eq_true,
      decide_eq_true_eq, beq_self_eq_true, Bool.true_and] at same
    rcases same with rfl | equal
    · exact .inl rfl
    · exact .inr ⟨x, y, rfl, rfl, equal⟩
  all_goals simp_all [alike, identical, sameNumber, num?, typeName, Number.Num.eq]

theorem alike_trans (scalar : a.isScalar = true) (first : a.alike b = true)
    (second : b.alike c = true) : a.alike c = true := by
  rcases alike_cases scalar first with rfl | ⟨x, y, rfl, rfl, equal⟩
  · exact second
  · rcases alike_cases rfl second with rfl | ⟨_, z, same, rfl, equal'⟩
    · exact first
    · cases same
      have last := float_beq_trans equal equal'
      simp [alike, sameNumber, num?, Number.Num.eq, typeName, last]

theorem isScalar_of_alike (scalar : a.isScalar = true) (same : a.alike b = true) :
    b.isScalar = true := by
  rcases alike_cases scalar same with rfl | ⟨x, y, rfl, rfl, -⟩
  · exact scalar
  · rfl

end Value

end ReactiveSchema
