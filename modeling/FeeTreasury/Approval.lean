import FeeTreasury.Header

/-!
# Approvals

A staker can approve a delegate to claim for it. What is claimed goes to the staker all the same.
-/

namespace FeeTreasury

/-- The approval of one delegate by one authoriser. -/
structure Approval where
  header : Header
  /-- Who approves. -/
  authoriser : Key
  /-- Who is approved. -/
  delegate : Key
  /-- Whether the approval stands. -/
  canClaim : Bool
  deriving DecidableEq, Repr, Inhabited

namespace Approval

/-- An approval that was just given or refused. -/
def new (authoriser delegate : Key) (canClaim : Bool) (bump : UInt8) : Approval where
  header := Header.fresh .approval bump
  authoriser := authoriser
  delegate := delegate
  canClaim := canClaim

/-- Whether the approval lets a delegate claim for an authoriser. -/
def permits (approval : Approval) (authoriser delegate : Key) : Bool :=
  approval.canClaim ∧ approval.authoriser = authoriser ∧ approval.delegate = delegate

end Approval

end FeeTreasury
