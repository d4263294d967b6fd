/-!
# Sections of the system

The parts of the system that the authority can suspend independently of each other. A section has a
position, which is also its number on the wire, and a name for the log.
-/

namespace FeeTreasury

/-- An independently suspendable part of the system. -/
inductive Section where
  | system
  | issuance
  | exchange
  | synth
  deriving DecidableEq, Repr, Inhabited

namespace Section

/-- Position of a section among the four. -/
def index : Section → Fin 4
  | system => 0
  | issuance => 1
  | exchange => 2
  | synth => 3

/-- The section at a position. -/
def ofIndex : Fin 4 → Section
  | 0 => system
  | 1 => issuance
  | 2 => exchange
  | 3 => synth

/-- The name under which the log mentions a section. -/
def name : Section → String
  | system => "System"
  | issuance => "Issuance"
  | exchange => "Exchange"
  | synth => "Synth"

@[simp] theorem ofIndex_index (s : Section) : ofIndex s.index = s := by
  cases s <;> rfl

@[simp] theorem index_ofIndex (i : Fin 4) : (ofIndex i).index = i := by
  revert i; decide

end Section

end FeeTreasury
