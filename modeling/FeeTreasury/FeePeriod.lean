import FeeTreasury.FixedPoint

/-!
# Fee periods

A fee period collects fees and rewards while it is open and pays them out once it is closed. Each of
the two is a pot: what went in, and what was claimed of it.
-/

namespace FeeTreasury

/-- An amount to distribute and how much of it was claimed. -/
structure Pot where
  total : UInt64
  claimed : UInt64
  deriving DecidableEq, Repr, Inhabited

namespace Pot

/-- A pot with nothing in it. -/
def empty : Pot := ⟨0, 0⟩

/-- What is left of a pot; nothing, if more was claimed than went in. -/
def unclaimed (pot : Pot) : UInt64 := saturatingSub pot.total pot.claimed

/-- Put an amount into a pot. -/
def add (pot : Pot) (amount : UInt64) : Outcome Pot := do
  return { pot with total := ← checkedAdd pot.total amount }

end Pot

/-- One fee period. -/
structure FeePeriod where
  /-- Number of the period. Periods count from one; zero marks an empty slot. -/
  id : UInt64
  /-- Time at which it opened. -/
  start : Int64
  /-- Length in seconds, known once it is closed. -/
  duration : Int64
  fees : Pot
  rewards : Pot
  /-- Ownership index when it opened. -/
  startingIndex : UInt128
  /-- Ownership index when it closed. -/
  closingIndex : UInt128
  /-- Seconds of it during which debt shares existed. -/
  coveredSeconds : UInt64
  deriving DecidableEq, Repr, Inhabited

namespace FeePeriod

/-- An empty slot. -/
def vacant : FeePeriod where
  id := 0
  start := 0
  duration := 0
  fees := Pot.empty
  rewards := Pot.empty
  startingIndex := 0
  closingIndex := 0
  coveredSeconds := 0

/-- A period that opens at a time and an ownership index. -/
def opened (id : UInt64) (start : Int64) (index : UInt128) : FeePeriod :=
  { vacant with id := id, start := start, startingIndex := index, closingIndex := index }

/-- Whether the slot holds no period. -/
def isEmpty (period : FeePeriod) : Bool := period.id = 0

/-- Mark fees and rewards as claimed. Neither pot may be claimed beyond its total. -/
def recordClaim (period : FeePeriod) (fees rewards : UInt64) : Outcome FeePeriod := do
  let feesClaimed ← checkedAdd period.fees.claimed fees
  let rewardsClaimed ← checkedAdd period.rewards.claimed rewards
  require (feesClaimed ≤ period.fees.total ∧ rewardsClaimed ≤ period.rewards.total)
    .claimExceedsDistributable
  return { period with
    fees := { period.fees with claimed := feesClaimed }
    rewards := { period.rewards with claimed := rewardsClaimed } }

/-- Take over what is left of another period. -/
def inherit (heir dropped : FeePeriod) : Outcome FeePeriod := do
  let fees ← heir.fees.add dropped.fees.unclaimed
  let rewards ← heir.rewards.add dropped.rewards.unclaimed
  return { heir with fees := fees, rewards := rewards }

end FeePeriod

end FeeTreasury
