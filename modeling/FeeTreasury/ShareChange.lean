import FeeTreasury.PeriodLedger
import FeeTreasury.ShareRegistry
import FeeTreasury.Staker

/-!
# Changes of debt shares

A new balance of one staker touches the ledger, the registry and the staker. The ownership index and
the staker's standing in the reward pool are brought up to date with the old balance and the old
supply, before anything changes.
-/

namespace FeeTreasury

/-- What a change of debt shares reads and writes. -/
structure ShareBooks where
  ledger : PeriodLedger
  registry : ShareRegistry
  staker : Staker
  deriving DecidableEq, Repr, Inhabited

namespace ShareBooks

/-- Give the staker a new balance at a time. -/
def setShares (books : ShareBooks) (pool : RewardPool) (balance : UInt64) (now : Int64) :
    Outcome ShareBooks := do
  let old := books.staker.shares
  let ledger ← books.ledger.accrue now books.registry.supply
  let rewards ← pool.credit books.staker.rewards old
  require (old ≤ books.registry.supply) .shareTotalMismatch
  let supply ← checkedAdd (books.registry.supply - old) balance
  let ownership ←
    books.staker.ownership.recordChange now ledger.current ledger.ownershipIndex balance supply
  return {
    ledger
    registry := { books.registry with supply, lastUpdate := now }
    staker := { books.staker with rewards, ownership, shares := balance } }

end ShareBooks

end FeeTreasury
