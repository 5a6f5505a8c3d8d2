import Mathlib.Data.List.Nodup
import ReactiveSchema.Proofs.Expr.Renaming

/-!
# Evaluating under other names

An expression takes what a token gives by the place of the token.  So it comes to the same
under other names, and where it fails only the report of the failure has the other names.
-/

namespace ReactiveSchema

open Observe

variable {α β γ δ : Type}

/-- An outcome with its value changed. -/
def mapOutcome (change : α → β) (outcome : Except Fault α × Memory) : Except Fault β × Memory :=
  (outcome.1.map change, outcome.2)

/-- Computations that give changed values for changed items do so for all items in order. -/
theorem run_mapM_map {old : α → Observe γ} {new : β → Observe δ} {item : α → β} {change : γ → δ}
    (same : ∀ x memory, (new (item x)).run memory = mapOutcome change ((old x).run memory))
    (items : List α) (memory : Memory) :
    ((items.map item).mapM new).run memory =
      mapOutcome (List.map change) ((items.mapM old).run memory) := by
  induction items generalizing memory with
  | nil => rfl
  | cons x items ih =>
      rw [List.map_cons, List.mapM_cons, List.mapM_cons, run_bind, run_bind, same]
      rcases (old x).run memory with ⟨fault | value, after⟩
      · rfl
      · dsimp only [mapOutcome, Except.map]
        rw [run_bind, run_bind, ih]
        rcases (items.mapM old).run after with ⟨fault | values, last⟩
        · rfl
        · rfl

namespace Expression

/-- What a token gives that is looked up by its name. -/
def provide (expression : Expression) (getter : String → Observe Value) (index : Nat) :
    Observe Value :=
  match expression.tokens[index]? with
  | some token => getter token
  | none => pure .none

variable {rename : String → String} {old renamed : Expression}

theorem provide_rename (tokens : renamed.tokens = old.tokens.map rename)
    {getter other : String → Observe Value}
    (same : ∀ token ∈ old.tokens, other (rename token) = getter token) :
    renamed.provide other = old.provide getter := by
  funext index
  unfold provide
  rw [tokens, List.getElem?_map]
  rcases known : old.tokens[index]? with _ | token
  · rfl
  · exact same token (List.mem_of_getElem? known)

/-- What each token gives is the same, under the other names. -/
theorem run_snapshot_rename (tokens : renamed.tokens = old.tokens.map rename)
    (token : Nat → Observe Value) (memory : Memory) :
    (renamed.snapshot token).run memory =
      mapOutcome (List.map fun entry => (rename entry.1, entry.2))
        ((old.snapshot token).run memory) := by
  unfold snapshot
  rw [tokens, List.zipIdx_map]
  refine run_mapM_map (fun ⟨name, index⟩ memory => ?_) _ memory
  dsimp only [Prod.map, id]
  rw [run_tryCatch, run_tryCatch, run_bind, run_bind]
  rcases (token index).run memory with ⟨fault | value, after⟩
  · dsimp only
    by_cases catchable : fault.isCatchable = true
    · rw [if_pos catchable, if_pos catchable]
      rfl
    · rw [if_neg catchable, if_neg catchable]
      rfl
  · rfl

end Expression

/-- Outcomes that are the same, or reports of the same failure over the other names. -/
inductive SameOutcome (rename : String → String) :
    Except Fault Value × Memory → Except Fault Value × Memory → Prop where
  | same (outcome : Except Fault Value × Memory) : SameOutcome rename outcome outcome
  | report (source other : String) (values : List (String × Except Fault Value))
      (cause text changed : String) (memory : Memory) :
      SameOutcome rename (.error (.evaluation source values cause text), memory)
        (.error (.evaluation other (values.map fun entry => (rename entry.1, entry.2)) cause
          changed), memory)

namespace Expression

variable {rename : String → String} {old renamed : Expression}

/-- A token is listed with the value it gives, whatever its name. -/
theorem run_listedValue_rename (entry : String × Except Fault Value) (memory : Memory) :
    (listedValue (rename entry.1) entry.2).run memory =
      mapOutcome (fun listed => { listed with token := rename listed.token })
        ((listedValue entry.1 entry.2).run memory) := by
  obtain ⟨token, fault | value⟩ := entry
  · rfl
  · unfold listedValue
    dsimp only
    rw [run_bind, run_bind]
    rcases (shown value).run memory with ⟨fault | text, after⟩ <;> rfl

/-- A failure is reported alike, with the other names. -/
theorem run_report_rename (tokens : renamed.tokens = old.tokens.map rename)
    (token : Nat → Observe Value) (fault : Fault) (memory : Memory) :
    SameOutcome rename ((do throw (← old.report token fault)).run memory)
      ((do throw (← renamed.report token fault)).run memory) := by
  unfold report
  simp only [bind_assoc, pure_bind]
  rw [run_bind, run_bind, run_snapshot_rename tokens]
  rcases (old.snapshot token).run memory with ⟨fault | values, after⟩
  · exact .same _
  · dsimp only [mapOutcome, Except.map]
    rw [run_bind, run_bind, run_mapM_map run_listedValue_rename]
    generalize values.mapM (fun entry => listedValue entry.1 entry.2) = listing
    rcases listing.run after with ⟨fault | listed, last⟩
    · exact .same _
    · exact .report ..

/-- Under other names an expression comes to the same, or its failure is reported over them. -/
theorem run_evaluate_rename (tokens : renamed.tokens = old.tokens.map rename)
    (body : renamed.body = old.body) (token : Nat → Observe Value) (memory : Memory) :
    SameOutcome rename ((old.evaluate token).run memory) ((renamed.evaluate token).run memory) := by
  unfold evaluate
  rw [body, run_tryCatch, run_tryCatch]
  rcases (old.body.evaluate token).run memory with ⟨fault | value, after⟩
  · dsimp only
    by_cases passed : (fault.isSchemaFault || !fault.isCatchable) = true
    · rw [if_pos passed, if_pos passed]
      exact .same _
    · rw [if_neg passed, if_neg passed]
      exact run_report_rename tokens token fault after
  · exact .same _

end Expression

/--
An accepted source is accepted under other names for its tokens, each its own, whichever names
these are.  It has the renamed tokens in the same order, each once; given what the tokens give
under their new names, its body does the same, and its evaluation ends in the same value, the
same fault or the report of the same failure.
-/
theorem compile_under_other_names {rename : String → String} {source : String} {old : Expression}
    (compiled : Expression.compile source = .ok old) (valid : IsRenaming rename old.tokens) :
    ∃ renamed, Expression.compile (renameTokens rename source) = .ok renamed ∧
      renamed.tokens = old.tokens.map rename ∧ renamed.tokens.Nodup ∧
        ∀ getter other : String → Observe Value,
          (∀ token ∈ old.tokens, other (rename token) = getter token) →
            renamed.body.evaluate (renamed.provide other) = old.body.evaluate (old.provide getter) ∧
              ∀ memory, SameOutcome rename ((old.evaluate (old.provide getter)).run memory)
                ((renamed.evaluate (renamed.provide other)).run memory) := by
  obtain ⟨renamed, accepted, tokens, body⟩ := compile_renameTokens compiled valid
  refine ⟨renamed, accepted, tokens, ?_, fun getter other same => ⟨?_, fun memory => ?_⟩⟩
  · obtain ⟨found, -, named⟩ := Expression.exists_pieces accepted
    rw [named]
    exact List.Nodup.map (fun _ _ => String.ofList_injective) (nodup_tokensOf found)
  · rw [body, Expression.provide_rename tokens same]
  · rw [Expression.provide_rename tokens same]
    exact Expression.run_evaluate_rename tokens body _ memory

/-- Names that are a word of the language and a placeholder of the grammar. -/
def wordNames (token : String) : String :=
  if token = "a" then "true" else "_sk0"

theorem compile_under_other_names_words :
    renameTokens wordNames " $a if $b.c else '$b' " = " $true if $_sk0 else '$b' " ∧
      ∃ renamed, Expression.compile " $true if $_sk0 else '$b' " = .ok renamed ∧
        renamed.tokens = ["true", "_sk0"] := by
  have same : renameTokens wordNames " $a if $b.c else '$b' " = " $true if $_sk0 else '$b' " := by
    decide +kernel
  have known : (Expression.compile " $a if $b.c else '$b' ").toOption.map (·.tokens) =
      some ["a", "b.c"] := by decide +kernel
  obtain ⟨old, given, tokens⟩ := Option.map_eq_some_iff.mp known
  have compiled : Expression.compile " $a if $b.c else '$b' " = .ok old := by
    rcases found : Expression.compile " $a if $b.c else '$b' " with fault | other <;>
      rw [found] at given
    · cases given
    · cases given
      rfl
  have valid : IsRenaming wordNames old.tokens := by
    rw [tokens]
    constructor
    case named =>
      intro token known
      simp only [List.mem_cons, List.not_mem_nil, or_false] at known
      rcases known with rfl | rfl
      · exact ⟨List.all_eq_true.mp (by decide), by decide, by decide, by decide⟩
      · exact ⟨List.all_eq_true.mp (by decide), by decide, by decide, by decide⟩
    case apart => unfold KeepsApart; decide
  obtain ⟨renamed, accepted, names, -⟩ := compile_under_other_names compiled valid
  rw [same] at accepted
  exact ⟨same, renamed, accepted, by rw [names, tokens]; decide⟩

end ReactiveSchema
