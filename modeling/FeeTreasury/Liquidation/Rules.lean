import FeeTreasury.Liquidation.Book
import FeeTreasury.Liquidation.Plan
import FeeTreasury.ShareChange

/-!
# The course of a liquidation

Anyone flags an account above the liquidation ratio; after a delay anyone liquidates it, if it is
still above the issuance ratio; anyone removes the flag once it is back at the issuance ratio. The
owner of an account above the issuance ratio may liquidate it at any time, flagged or not, at a
lower penalty.
-/

namespace FeeTreasury

/-- The entry of an account and the book that counts it. -/
structure LiquidationRecords where
  book : LiquidationBook
  entry : LiquidationEntry
  deriving DecidableEq, Repr, Inhabited

namespace LiquidationRecords

/-- Flag an account above the liquidation ratio. Gives the deadline too. -/
def flag (records : LiquidationRecords) (settings : Settings) (flagger : Key)
    (position : Position) (now : Int64) : Outcome (LiquidationRecords × Int64) := do
  let ratio ← settings.requireLiquidationRatio
  require (!records.entry.active) .alreadyFlagged
  require (ratio < position.ratio) .belowLiquidationRatio
  let deadline ← fitTime (now.toInt + settings.liquidationDelay.toInt)
  let (book, entry) ← records.book.openEntry records.entry flagger deadline now
  return (⟨book, entry⟩, deadline)

/-- Close an entry, with a mark whether it was open. -/
def close (records : LiquidationRecords) (liquidated : Bool) : LiquidationRecords × Bool :=
  let (book, entry, wasOpen) := records.book.closeEntry records.entry liquidated
  (⟨book, entry⟩, wasOpen)

/-- Remove the flag of an account at or below the issuance ratio. The mark is false, and nothing
changes, if the account is still above it. -/
def removeIfHealthy (records : LiquidationRecords) (settings : Settings) (position : Position) :
    Outcome (LiquidationRecords × Bool) := do
  let ratio ← settings.requireIssuanceRatio
  require records.entry.active .notFlagged
  if ratio < position.ratio then
    return (records, false)
  return records.close false

end LiquidationRecords

namespace LiquidationEntry

/-- Anyone may liquidate an account that is flagged, past its deadline, and above the issuance
ratio, even if it has come below the liquidation ratio since. -/
def checkLiquidatable (entry : LiquidationEntry) (settings : Settings) (position : Position)
    (now : Int64) : Outcome Unit := do
  let ratio ← settings.requireIssuanceRatio
  require entry.active .notFlagged
  require (entry.deadlinePassed now) .deadlineNotPassed
  require (ratio < position.ratio) .accountHealthy

end LiquidationEntry

namespace Settings

/-- The owner may liquidate an account above the issuance ratio. -/
def checkSelfLiquidatable (settings : Settings) (position : Position) : Outcome Unit := do
  let ratio ← settings.requireIssuanceRatio
  require (ratio < position.ratio) .accountHealthy

/-- Terms of a liquidation by others. -/
def termsForOthers (settings : Settings) (price : UInt64) : Outcome LiquidationTerms := do
  let ratio ← settings.requireIssuanceRatio
  return ⟨price, settings.liquidationPenalty, ratio, settings.flagReward, settings.liquidateReward⟩

/-- Terms of a liquidation by the owner. There is no flagger and no liquidator to pay. -/
def termsForSelf (settings : Settings) (price : UInt64) : Outcome LiquidationTerms := do
  let ratio ← settings.requireIssuanceRatio
  return ⟨price, settings.selfLiquidationPenalty, ratio, 0, 0⟩

end Settings

namespace ShareBooks

/-- Carry out a plan: take the collateral, burn the shares, and give the pool its part. The rewards
of flagger and liquidator are left to the caller. -/
def liquidate (books : ShareBooks) (pool : RewardPool) (plan : LiquidationPlan) (now : Int64) :
    Outcome (ShareBooks × RewardPool) := do
  let staker := books.staker
  require (plan.collateralRedeemed ≤ staker.collateral) .insufficientCollateral
  let left := staker.collateral - plan.collateralRedeemed
  let shares ← checkedSub staker.shares plan.sharesBurned
  let taken : ShareBooks := { books with staker := { staker with collateral := left } }
  let books ← taken.setShares pool shares now
  let pool ← pool.deposit plan.poolDeposit books.registry.supply
  return (books, pool)

end ShareBooks

end FeeTreasury
