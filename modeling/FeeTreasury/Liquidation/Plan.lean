import FeeTreasury.Position

/-!
# Liquidation plans

How much debt a liquidation removes, how much collateral it redeems for that, and who gets the
collateral. A liquidation removes just as much debt as brings the account back to the issuance
ratio, or all of it if that is not possible.
-/

namespace FeeTreasury

/-- What a liquidation takes from an account and where the collateral goes. -/
structure LiquidationPlan where
  /-- Debt in dollars that goes away. -/
  debtRemoved : UInt64
  sharesBurned : UInt64
  collateralRedeemed : UInt64
  /-- Part of the redeemed collateral for the flagger. -/
  flagReward : UInt64
  /-- Part of the redeemed collateral for the liquidator. -/
  liquidateReward : UInt64
  /-- Rest of the redeemed collateral, for the reward pool. -/
  poolDeposit : UInt64
  /-- Whether all debt goes away. -/
  full : Bool
  deriving DecidableEq, Repr, Inhabited

/-- The terms of a liquidation. -/
structure LiquidationTerms where
  /-- Price of the collateral. -/
  price : UInt64
  /-- Extra collateral redeemed, as a part of the debt removed. -/
  penalty : UInt64
  /-- Ratio to restore. -/
  issuanceRatio : UInt64
  /-- Full reward of the flagger. -/
  flagReward : UInt64
  /-- Full reward of the liquidator. -/
  liquidateReward : UInt64
  deriving DecidableEq, Repr, Inhabited

/-- How redeemed collateral is divided. -/
structure RewardSplit where
  flag : UInt64
  liquidate : UInt64
  rest : UInt64
  deriving DecidableEq, Repr, Inhabited

/-- Debt to remove so that the account, after collateral worth the removed debt and the penalty is
redeemed, is at the issuance ratio: `(debt - value * ratio) / (1 - (1 + penalty) * ratio)`, rounded
up. Nothing has to be removed from an account at or below the ratio. -/
def amountToFix (debt collateralValue penalty issuanceRatio : UInt64) : Outcome UInt64 := do
  let backed ← decimalMul collateralValue issuanceRatio
  if debt ≤ backed then
    return 0
  let scaled ← decimalMul (← plainAdd unit penalty) issuanceRatio
  require (scaled < unit) .invalidSettings
  decimalDivUp (← plainSub debt backed) (← plainSub unit scaled)

/-- Collateral worth an amount of dollars and the penalty on it, rounded down. -/
def collateralFor (amount penalty price : UInt64) : Outcome UInt64 := do
  let withPenalty ← decimalMul amount (← plainAdd unit penalty)
  mulDiv withPenalty unit price

/-- Divide redeemed collateral among flagger, liquidator and pool. The rewards shrink in proportion
if the collateral does not cover both. -/
def splitRewards (redeemed flagReward liquidateReward : UInt64) : Outcome RewardSplit := do
  let rewards ← checkedAdd flagReward liquidateReward
  if rewards ≤ redeemed then
    return ⟨flagReward, liquidateReward, ← plainSub redeemed rewards⟩
  let flag ← mulDiv flagReward redeemed rewards
  let liquidate ← mulDiv liquidateReward redeemed rewards
  let rest ← checkedSub (← checkedSub redeemed flag) liquidate
  return ⟨flag, liquidate, rest⟩

/-- What a liquidation takes from an account, before the collateral is divided. -/
structure Takings where
  debtRemoved : UInt64
  sharesBurned : UInt64
  collateralRedeemed : UInt64
  full : Bool
  deriving DecidableEq, Repr, Inhabited

namespace Position

/-- What a full liquidation takes: all debt, and the collateral for it as far as it goes. -/
def fullTakings (position : Position) (terms : LiquidationTerms) : Outcome Takings := do
  let required ← collateralFor position.debt terms.penalty terms.price
  return ⟨position.debt, position.shares, min required position.collateral, true⟩

/-- What a liquidation takes to remove an amount of debt. It is full if the amount, or the
collateral that the amount requires, is all that the account has. Shares burned are rounded up. -/
def takings (position : Position) (terms : LiquidationTerms) (amount : UInt64) :
    Outcome Takings := do
  let required ← collateralFor amount terms.penalty terms.price
  if position.debt ≤ amount ∨ position.collateral ≤ required then
    position.fullTakings terms
  else
    let shares ← mulDivUp position.shares amount position.debt
    return ⟨amount, min shares position.shares, required, false⟩

/-- The plan of a liquidation. -/
def plan (position : Position) (terms : LiquidationTerms) : Outcome LiquidationPlan := do
  let amount ←
    amountToFix position.debt position.collateralValue terms.penalty terms.issuanceRatio
  require (amount ≠ 0) .accountHealthy
  let taken ← position.takings terms amount
  let split ← splitRewards taken.collateralRedeemed terms.flagReward terms.liquidateReward
  return {
    debtRemoved := taken.debtRemoved
    sharesBurned := taken.sharesBurned
    collateralRedeemed := taken.collateralRedeemed
    flagReward := split.flag
    liquidateReward := split.liquidate
    poolDeposit := split.rest
    full := taken.full }

end Position

end FeeTreasury
