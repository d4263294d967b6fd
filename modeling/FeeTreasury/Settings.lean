import FeeTreasury.FixedPoint

/-!
# Settings

The numbers that the authority tunes. Ratios are debt over collateral value; ratios, penalties and
the threshold have six decimals, so that `500000` is one half. A duration or ratio of zero is unset.
-/

namespace FeeTreasury

/-- Seconds of a day. -/
def daySeconds : Int64 := 86400

/-- The numbers that the authority tunes. -/
structure Settings where
  /-- Seconds per fee period; zero is unset. -/
  periodDuration : Int64
  /-- Ratio up to which an account is healthy; zero is unset. -/
  issuanceRatio : UInt64
  /-- Part of the issuance ratio by which a claim may exceed it. -/
  targetThreshold : UInt64
  /-- Ratio above which an account can be flagged; zero is unset. -/
  liquidationRatio : UInt64
  /-- Seconds between a flag and the liquidation. -/
  liquidationDelay : Int64
  /-- Extra collateral that a liquidation by others redeems. -/
  liquidationPenalty : UInt64
  /-- Extra collateral that a liquidation by the owner redeems. -/
  selfLiquidationPenalty : UInt64
  /-- Collateral paid to the flagger. -/
  flagReward : UInt64
  /-- Collateral paid to the liquidator. -/
  liquidateReward : UInt64
  /-- Age in seconds up to which the collateral rate is fresh. -/
  rateStalePeriod : Int64
  /-- Age in seconds up to which the total debt is fresh. -/
  debtStalePeriod : Int64
  deriving DecidableEq, Repr

namespace Settings

/-- A week per period, issuance up to one fifth, liquidation above one half after eight hours. -/
def standard : Settings where
  periodDuration := 7 * daySeconds
  issuanceRatio := 200000
  targetThreshold := 10000
  liquidationRatio := 500000
  liquidationDelay := 8 * 3600
  liquidationPenalty := 300000
  selfLiquidationPenalty := 200000
  flagReward := 10 * unit
  liquidateReward := 20 * unit
  rateStalePeriod := 25 * 3600
  debtStalePeriod := 25 * 3600

instance : Inhabited Settings := ⟨standard⟩

/-- A period lasts from one day to sixty, or its duration is unset. -/
def durationAllowed (s : Settings) : Bool :=
  s.periodDuration = 0 ∨ (daySeconds ≤ s.periodDuration ∧ s.periodDuration ≤ 60 * daySeconds)

/-- The liquidation ratio, raised by the penalty, stays within one, and lies above the issuance
ratio. -/
def checkLiquidationRatio (s : Settings) : Outcome Unit := do
  let withPenalty ← decimalMul s.liquidationRatio (← plainAdd unit s.liquidationPenalty)
  require (withPenalty ≤ unit ∧ s.issuanceRatio < s.liquidationRatio) .invalidSettings

/-- The issuance ratio raised by a penalty stays below one, so that a liquidation restores it. -/
def checkIssuanceRatio (s : Settings) (penalty : UInt64) : Outcome Unit := do
  let withPenalty ← decimalMul (← plainAdd unit penalty) s.issuanceRatio
  require (withPenalty < unit) .invalidSettings

/-- Settings that the treasury accepts. -/
def validate (s : Settings) : Outcome Unit := do
  require s.durationAllowed .invalidSettings
  require (s.issuanceRatio ≤ unit ∧ s.targetThreshold ≤ unit / 2) .invalidSettings
  require (s.liquidationPenalty ≤ unit ∧ s.selfLiquidationPenalty ≤ unit) .invalidSettings
  require (0 ≤ s.liquidationDelay ∧ s.liquidationDelay ≤ 30 * daySeconds) .invalidSettings
  require (0 < s.rateStalePeriod ∧ 0 < s.debtStalePeriod) .invalidSettings
  if s.liquidationRatio ≠ 0 then
    s.checkLiquidationRatio
  if s.issuanceRatio ≠ 0 then
    s.checkIssuanceRatio s.liquidationPenalty
    s.checkIssuanceRatio s.selfLiquidationPenalty

/-- The period duration, which has to be set. -/
def requirePeriodDuration (s : Settings) : Outcome Int64 := do
  require (s.periodDuration ≠ 0) .periodDurationNotSet
  return s.periodDuration

/-- The issuance ratio, which has to be set. -/
def requireIssuanceRatio (s : Settings) : Outcome UInt64 := do
  require (s.issuanceRatio ≠ 0) .issuanceRatioNotSet
  return s.issuanceRatio

/-- The liquidation ratio, which has to be set. -/
def requireLiquidationRatio (s : Settings) : Outcome UInt64 := do
  require (s.liquidationRatio ≠ 0) .liquidationRatioNotSet
  return s.liquidationRatio

/-- The worst ratio at which fees can be claimed: the issuance ratio, raised by the threshold. -/
def claimableRatioLimit (s : Settings) : Outcome UInt64 := do
  let ratio ← s.requireIssuanceRatio
  mulDiv ratio (← plainAdd unit s.targetThreshold) unit

end Settings

/-- New values for some of the settings. -/
structure SettingsUpdate where
  periodDuration : Option Int64
  issuanceRatio : Option UInt64
  targetThreshold : Option UInt64
  liquidationRatio : Option UInt64
  liquidationDelay : Option Int64
  liquidationPenalty : Option UInt64
  selfLiquidationPenalty : Option UInt64
  flagReward : Option UInt64
  liquidateReward : Option UInt64
  rateStalePeriod : Option Int64
  debtStalePeriod : Option Int64
  deriving DecidableEq, Repr, Inhabited

namespace SettingsUpdate

/-- The settings after an update: what it does not mention stays. -/
def apply (u : SettingsUpdate) (s : Settings) : Settings where
  periodDuration := u.periodDuration.getD s.periodDuration
  issuanceRatio := u.issuanceRatio.getD s.issuanceRatio
  targetThreshold := u.targetThreshold.getD s.targetThreshold
  liquidationRatio := u.liquidationRatio.getD s.liquidationRatio
  liquidationDelay := u.liquidationDelay.getD s.liquidationDelay
  liquidationPenalty := u.liquidationPenalty.getD s.liquidationPenalty
  selfLiquidationPenalty := u.selfLiquidationPenalty.getD s.selfLiquidationPenalty
  flagReward := u.flagReward.getD s.flagReward
  liquidateReward := u.liquidateReward.getD s.liquidateReward
  rateStalePeriod := u.rateStalePeriod.getD s.rateStalePeriod
  debtStalePeriod := u.debtStalePeriod.getD s.debtStalePeriod

end SettingsUpdate

end FeeTreasury
