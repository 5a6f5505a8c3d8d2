/-!
# Timing of effects
-/

namespace ReactiveSchema

/-- When a queued effect runs: those that derive values run before those that use them. -/
inductive Timing where
  | pre
  | post
  deriving DecidableEq

end ReactiveSchema
