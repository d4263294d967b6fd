import FeeTreasury.OwnershipLog
import FeeTreasury.RewardPool

/-!
# Stakers

A staker deposits collateral, carries debt shares, and is entitled to fees and rewards.
-/

namespace FeeTreasury

/-- The account of one staker. There is one per owner. -/
structure Staker where
  header : Header
  /-- Whose account it is. -/
  owner : Key
  /-- Debt shares as the issuer last reported them. -/
  shares : UInt64
  /-- Collateral that lies in the vault for the owner. -/
  collateral : UInt64
  /-- Id of the period that had closed last at the last claim. -/
  lastClaimed : UInt64
  /-- Standing in the reward pool. -/
  rewards : Checkpoint
  /-- History of the share of the debt. -/
  ownership : OwnershipLog
  /-- Time of creation. -/
  createdAt : Int64
  deriving DecidableEq, Repr, Inhabited

namespace Staker

/-- A staker without shares or collateral. -/
def new (owner : Key) (bump : UInt8) (now : Int64) : Staker where
  header := Header.fresh .staker bump
  owner := owner
  shares := 0
  collateral := 0
  lastClaimed := 0
  rewards := Checkpoint.zero
  ownership := OwnershipLog.empty
  createdAt := now

end Staker

end FeeTreasury
