import FeeTreasury.Refusal

/-!
# Outcomes of the treasury's rules

A rule either gives its result, or refuses for a stated reason, or is aborted. A rule is aborted
when a plain sum or difference, one that the rule takes without asking whether it fits, leaves the
width of its operands. Refusals are answers; an abort is the end of the call.
-/

namespace FeeTreasury

/-- How a rule can fail to give a result. -/
inductive Fault where
  /-- The rule turned the request down. -/
  | refused (reason : Refusal)
  /-- Plain arithmetic left its width. -/
  | aborted
  deriving DecidableEq, Repr

/-- The result of a rule, or how it failed. -/
abbrev Outcome (α : Type) := Except Fault α

/-- Turn the request down. -/
def refuse {α : Type} (reason : Refusal) : Outcome α := .error (.refused reason)

/-- End the call. -/
def abort {α : Type} : Outcome α := .error .aborted

/-- Go on only if a condition holds. -/
def require (condition : Bool) (reason : Refusal) : Outcome Unit :=
  if condition then .ok () else refuse reason

end FeeTreasury
