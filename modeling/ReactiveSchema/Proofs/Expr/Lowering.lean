import ReactiveSchema.Proofs.Expr.RenamedTokens

/-!
# Lowering accepted trees

A tree without offence has an expression: each of its nodes has a form in the language, and
each of its names is a placeholder in range.  So an accepted expression asks for nothing but
its own tokens, and what a refused tree is refused for is a matter of the source.
-/

namespace ReactiveSchema

open Observe

/-! ## Expressions over the first tokens -/

/-- An expression asks only for tokens of the first `count` indices. -/
inductive Expr.Within (count : Nat) : Expr → Prop where
  | constant (c : Constant) : Within count (.constant c)
  | token {index : Nat} : index < count → Within count (.token index)
  | all {operands : List Expr} : (∀ e ∈ operands, Within count e) → Within count (.all operands)
  | any {operands : List Expr} : (∀ e ∈ operands, Within count e) → Within count (.any operands)
  | not {operand : Expr} : Within count operand → Within count (.not operand)
  | minus {operand : Expr} : Within count operand → Within count (.minus operand)
  | plus {operand : Expr} : Within count operand → Within count (.plus operand)
  | arith {op : ArithOp} {left right : Expr} :
      Within count left → Within count right → Within count (.arith op left right)
  | compare {first : Expr} {ops : List Comparison} {others : List Expr} :
      Within count first → (∀ e ∈ others, Within count e) →
        Within count (.compare first ops others)
  | conditional {test body otherwise : Expr} :
      Within count test → Within count body → Within count otherwise →
        Within count (.conditional test body otherwise)
  | subscript {object key : Expr} :
      Within count object → Within count key → Within count (.subscript object key)
  | call {function : Expr} {arguments : List Expr} :
      Within count function → (∀ e ∈ arguments, Within count e) →
        Within count (.call function arguments)
  | sequence {items : List Expr} : (∀ e ∈ items, Within count e) → Within count (.sequence items)

namespace Expr

section Agreement

variable {token other : Nat → Observe Value}

theorem evaluateAll_congr {exprs : List Expr}
    (each : ∀ e ∈ exprs, e.evaluate token = e.evaluate other) :
    evaluate.evaluateAll token exprs = evaluate.evaluateAll other exprs := by
  induction exprs with
  | nil => rfl
  | cons e rest ih =>
      rw [List.forall_mem_cons] at each
      simp only [evaluate.evaluateAll, each.1, ih each.2]

theorem firstFalse_congr {exprs : List Expr}
    (each : ∀ e ∈ exprs, e.evaluate token = e.evaluate other) (last : Value) :
    evaluate.firstFalse token last exprs = evaluate.firstFalse other last exprs := by
  induction exprs generalizing last with
  | nil => rfl
  | cons e rest ih =>
      rw [List.forall_mem_cons] at each
      simp only [evaluate.firstFalse, each.1, ih each.2]

theorem firstTrue_congr {exprs : List Expr}
    (each : ∀ e ∈ exprs, e.evaluate token = e.evaluate other) (last : Value) :
    evaluate.firstTrue token last exprs = evaluate.firstTrue other last exprs := by
  induction exprs generalizing last with
  | nil => rfl
  | cons e rest ih =>
      rw [List.forall_mem_cons] at each
      simp only [evaluate.firstTrue, each.1, ih each.2]

theorem chain_congr {exprs : List Expr}
    (each : ∀ e ∈ exprs, e.evaluate token = e.evaluate other) (left : Value)
    (ops : List Comparison) :
    evaluate.chain token left ops exprs = evaluate.chain other left ops exprs := by
  induction exprs generalizing left ops with
  | nil => cases ops <;> rfl
  | cons e rest ih =>
      rw [List.forall_mem_cons] at each
      cases ops with
      | nil => rfl
      | cons op ops => simp only [evaluate.chain, each.1, ih each.2]

/-- An expression takes nothing from tokens but what those in its range give. -/
theorem Within.evaluate_congr {count : Nat} {expr : Expr} (within : expr.Within count)
    (same : ∀ index < count, token index = other index) :
    expr.evaluate token = expr.evaluate other := by
  induction within with
  | constant => rfl
  | token inside => exact same _ inside
  | all _ each => exact firstFalse_congr each _
  | any _ each => exact firstTrue_congr each _
  | not _ ih => simp only [evaluate, ih]
  | minus _ ih => simp only [evaluate, ih]
  | plus _ ih => simp only [evaluate, ih]
  | arith _ _ left right => simp only [evaluate, left, right]
  | compare _ _ first each => simp only [evaluate, first, chain_congr each]
  | conditional _ _ _ test body otherwise => simp only [evaluate, test, body, otherwise]
  | subscript _ _ object key => simp only [evaluate, object, key]
  | call _ _ function each => simp only [evaluate, function, evaluateAll_congr each]
  | sequence _ each => simp only [evaluate, evaluateAll_congr each]

end Agreement

end Expr

/-! ## Offences -/

namespace Offence

@[simp] theorem earlier_eq_none {one other : Option Offence} :
    earlier one other = none ↔ one = none ∧ other = none := by
  rcases one with _ | one <;> rcases other with _ | other
  · simp [earlier]
  · simp [earlier]
  · simp [earlier]
  · simp only [earlier, reduceCtorEq, false_and, iff_false]
    split <;> exact nofun

/-- Of two offences one is met first. -/
theorem eq_or_eq_of_earlier {one other : Option Offence} {offence : Offence}
    (met : earlier one other = some offence) : one = some offence ∨ other = some offence := by
  rcases one with _ | one <;> rcases other with _ | other
  · cases met
  · exact .inr met
  · exact .inl met
  · rw [earlier] at met
    split at met
    case isTrue => exact .inl met
    case isFalse => exact .inr met

end Offence

@[simp] theorem operatorOffence_eq_none {depth : Nat} {construct : Option String} :
    operatorOffence depth construct = none ↔ construct = none := by
  simp [operatorOffence]

/-- The first offence among the comparisons of a chain. -/
theorem foldr_operatorOffence_eq_none {depth : Nat} {ops : List CompareOp} :
    ops.foldr (fun op found =>
        Offence.earlier (operatorOffence depth op.foreign?) found) none = none ↔
      ∀ op ∈ ops, op.foreign? = none := by
  induction ops with
  | nil => simp
  | cons op ops ih => simp [ih]

/-! ## Every node has its form -/

theorem BinaryOp.exists_toArith? {op : BinaryOp} (known : op.foreign? = none) :
    ∃ arith, op.toArith? = some arith := by
  cases op <;> simp_all [foreign?, toArith?]

theorem CompareOp.exists_toComparison? {op : CompareOp} (known : op.foreign? = none) :
    ∃ comparison, op.toComparison? = some comparison := by
  cases op <;> simp_all [foreign?, toComparison?]

theorem exists_mapM_toComparison? {ops : List CompareOp}
    (known : ∀ op ∈ ops, op.foreign? = none) :
    ∃ comparisons, ops.mapM CompareOp.toComparison? = some comparisons := by
  induction ops with
  | nil => exact ⟨[], rfl⟩
  | cons op ops ih =>
      rw [List.forall_mem_cons] at known
      obtain ⟨comparison, here⟩ := CompareOp.exists_toComparison? known.1
      obtain ⟨comparisons, there⟩ := ih known.2
      exact ⟨comparison :: comparisons, by simp [List.mapM_cons, here, there]⟩

theorem lt_of_tokenIndex? {count index : Nat} {id : List Char}
    (found : tokenIndex? count id = some index) : index < count :=
  List.mem_range.mp (List.mem_of_find?_eq_some found)

namespace Tree

mutual

/-- A tree without offence has an expression, and its tokens are in range. -/
theorem exists_lower? {count : Nat} :
    ∀ (tree : Tree) (depth : Nat), tree.offence? count depth = none →
      ∃ expr, tree.lower? count = some expr ∧ expr.Within count
  | constant c, _, _ => ⟨_, rfl, .constant c⟩
  | name id, _, clean => by
      rw [offence?] at clean
      split at clean
      case h_1 index found => exact ⟨_, by rw [lower?, found]; rfl, .token (lt_of_tokenIndex? found)⟩
      case h_2 => cases clean
  | all operands, depth, clean => by
      rw [offence?] at clean
      obtain ⟨lowered, same, each⟩ := exists_lowers? operands _ clean
      exact ⟨_, by rw [lower?, same]; rfl, .all each⟩
  | any operands, depth, clean => by
      rw [offence?] at clean
      obtain ⟨lowered, same, each⟩ := exists_lowers? operands _ clean
      exact ⟨_, by rw [lower?, same]; rfl, .any each⟩
  | unary op operand, depth, clean => by
      rw [offence?, Offence.earlier_eq_none, operatorOffence_eq_none] at clean
      obtain ⟨lowered, same, inner⟩ := exists_lower? operand _ clean.2
      cases op with
      | not => exact ⟨_, by rw [lower?, same]; rfl, .not inner⟩
      | minus => exact ⟨_, by rw [lower?, same]; rfl, .minus inner⟩
      | plus => exact ⟨_, by rw [lower?, same]; rfl, .plus inner⟩
      | invert => cases clean.1
  | binary left op right, depth, clean => by
      rw [offence?, Offence.earlier_eq_none, Offence.earlier_eq_none,
        operatorOffence_eq_none] at clean
      obtain ⟨first, one, withinFirst⟩ := exists_lower? left _ clean.1
      obtain ⟨arith, known⟩ := BinaryOp.exists_toArith? clean.2.1
      obtain ⟨second, two, withinSecond⟩ := exists_lower? right _ clean.2.2
      exact ⟨_, by rw [lower?, one, known, two]; rfl, .arith withinFirst withinSecond⟩
  | compare first ops others, depth, clean => by
      rw [offence?, Offence.earlier_eq_none, Offence.earlier_eq_none,
        foldr_operatorOffence_eq_none] at clean
      obtain ⟨lowered, one, within⟩ := exists_lower? first _ clean.1
      obtain ⟨comparisons, known⟩ := exists_mapM_toComparison? clean.2.1
      obtain ⟨rest, two, each⟩ := exists_lowers? others _ clean.2.2
      exact ⟨_, by rw [lower?, one, known, two]; rfl, .compare within each⟩
  | conditional test body otherwise, depth, clean => by
      rw [offence?, Offence.earlier_eq_none, Offence.earlier_eq_none] at clean
      obtain ⟨asked, one, withinTest⟩ := exists_lower? test _ clean.1
      obtain ⟨chosen, two, withinBody⟩ := exists_lower? body _ clean.2.1
      obtain ⟨left, three, withinOther⟩ := exists_lower? otherwise _ clean.2.2
      exact ⟨_, by rw [lower?, one, two, three]; rfl,
        .conditional withinTest withinBody withinOther⟩
  | subscript object key, depth, clean => by
      rw [offence?, Offence.earlier_eq_none] at clean
      obtain ⟨owner, one, withinObject⟩ := exists_lower? object _ clean.1
      obtain ⟨index, two, withinKey⟩ := exists_lower? key _ clean.2
      exact ⟨_, by rw [lower?, one, two]; rfl, .subscript withinObject withinKey⟩
  | call function arguments, depth, clean => by
      rw [offence?, Offence.earlier_eq_none] at clean
      obtain ⟨target, one, within⟩ := exists_lower? function _ clean.1
      obtain ⟨given, two, each⟩ := exists_lowers? arguments _ clean.2
      exact ⟨_, by rw [lower?, one, two]; rfl, .call within each⟩
  | sequence items, depth, clean => by
      rw [offence?] at clean
      obtain ⟨lowered, same, each⟩ := exists_lowers? items _ clean
      exact ⟨_, by rw [lower?, same]; rfl, .sequence each⟩
  | keywordCall, _, clean => by cases clean
  | starred _, _, clean => by cases clean
  | unsupported _, _, clean => by cases clean

/-- Trees without offence have expressions, one by one. -/
theorem exists_lowers? {count : Nat} :
    ∀ (trees : List Tree) (depth : Nat), offence?.offences count depth trees = none →
      ∃ exprs, lower?.lowers? count trees = some exprs ∧ ∀ e ∈ exprs, e.Within count
  | [], _, _ => ⟨[], rfl, nofun⟩
  | tree :: rest, depth, clean => by
      rw [offence?.offences, Offence.earlier_eq_none] at clean
      obtain ⟨expr, here, within⟩ := exists_lower? tree _ clean.1
      obtain ⟨exprs, there, each⟩ := exists_lowers? rest _ clean.2
      exact ⟨expr :: exprs, by rw [lower?.lowers?, here, there]; rfl,
        List.forall_mem_cons.mpr ⟨within, each⟩⟩

end

/-! ## What a tree is refused for -/

/-- What the check of a tree finds: a construct or a name that the language does not have. -/
inductive IsForeign : SourceFault → Prop where
  | construct (name : String) : IsForeign (.unsupported name)
  | name (id : List Char) : IsForeign (.unknownName id)
  | keywords : IsForeign .keywordArguments

theorem isForeign_operatorOffence {depth : Nat} {construct : Option String} {offence : Offence}
    (met : operatorOffence depth construct = some offence) : IsForeign offence.fault := by
  obtain ⟨name, -, rfl⟩ := Option.map_eq_some_iff.mp met
  exact .construct name

theorem isForeign_foldr {depth : Nat} {ops : List CompareOp} {offence : Offence}
    (met : ops.foldr (fun op found =>
      Offence.earlier (operatorOffence depth op.foreign?) found) none = some offence) :
    IsForeign offence.fault := by
  induction ops with
  | nil => cases met
  | cons op ops ih =>
      rcases Offence.eq_or_eq_of_earlier met with here | there
      · exact isForeign_operatorOffence here
      · exact ih there

mutual

/-- Whatever a tree is refused for is foreign to the language. -/
theorem isForeign_of_offence? {count : Nat} {offence : Offence} :
    ∀ (tree : Tree) (depth : Nat), tree.offence? count depth = some offence →
      IsForeign offence.fault
  | constant _, _, met => by cases met
  | name id, _, met => by
      rw [offence?] at met
      split at met
      case h_1 => cases met
      case h_2 => cases met; exact .name id
  | all operands, _, met => isForeign_of_offences operands _ met
  | any operands, _, met => isForeign_of_offences operands _ met
  | unary _ operand, _, met => by
      rcases Offence.eq_or_eq_of_earlier met with here | there
      · exact isForeign_operatorOffence here
      · exact isForeign_of_offence? operand _ there
  | binary left _ right, _, met => by
      rcases Offence.eq_or_eq_of_earlier met with here | there
      · exact isForeign_of_offence? left _ here
      · rcases Offence.eq_or_eq_of_earlier there with here | there
        · exact isForeign_operatorOffence here
        · exact isForeign_of_offence? right _ there
  | compare first _ others, _, met => by
      rcases Offence.eq_or_eq_of_earlier met with here | there
      · exact isForeign_of_offence? first _ here
      · rcases Offence.eq_or_eq_of_earlier there with here | there
        · exact isForeign_foldr here
        · exact isForeign_of_offences others _ there
  | conditional test body otherwise, _, met => by
      rcases Offence.eq_or_eq_of_earlier met with here | there
      · exact isForeign_of_offence? test _ here
      · rcases Offence.eq_or_eq_of_earlier there with here | there
        · exact isForeign_of_offence? body _ here
        · exact isForeign_of_offence? otherwise _ there
  | subscript object key, _, met => by
      rcases Offence.eq_or_eq_of_earlier met with here | there
      · exact isForeign_of_offence? object _ here
      · exact isForeign_of_offence? key _ there
  | call function arguments, _, met => by
      rcases Offence.eq_or_eq_of_earlier met with here | there
      · exact isForeign_of_offence? function _ here
      · exact isForeign_of_offences arguments _ there
  | sequence items, _, met => isForeign_of_offences items _ met
  | keywordCall, _, met => by cases met; exact .keywords
  | starred _, _, met => by cases met; exact .construct _
  | unsupported _, _, met => by cases met; exact .construct _

/-- Whatever one of some trees is refused for is foreign to the language. -/
theorem isForeign_of_offences {count : Nat} {offence : Offence} :
    ∀ (trees : List Tree) (depth : Nat), offence?.offences count depth trees = some offence →
      IsForeign offence.fault
  | [], _, met => by cases met
  | tree :: rest, _, met => by
      rcases Offence.eq_or_eq_of_earlier met with here | there
      · exact isForeign_of_offence? tree _ here
      · exact isForeign_of_offences rest _ there

end

/-- A tree has an expression over its tokens, or is refused for something foreign. -/
theorem toExpr_cases (count : Nat) (tree : Tree) :
    (∃ expr, tree.toExpr count = .ok expr ∧ expr.Within count) ∨
      ∃ fault, tree.toExpr count = .error fault ∧ IsForeign fault := by
  unfold toExpr
  cases met : tree.offence? count 1 with
  | some offence => exact .inr ⟨_, rfl, isForeign_of_offence? tree 1 met⟩
  | none =>
      obtain ⟨expr, lowered, within⟩ := exists_lower? tree 1 met
      exact .inl ⟨expr, by rw [lowered], within⟩

end Tree

end ReactiveSchema
