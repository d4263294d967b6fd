import FeeTreasury.RateFeed
import FeeTreasury.Staker

/-!
# Positions

A staker's debt against its collateral, both in dollars at one market. The ratio is debt over
collateral value, so that a higher ratio is worse.
-/

namespace FeeTreasury

/-- Debt and collateral of an account. -/
structure Position where
  shares : UInt64
  /-- Debt in dollars. -/
  debt : UInt64
  collateral : UInt64
  /-- Collateral in dollars. -/
  collateralValue : UInt64
  ratio : UInt64
  deriving DecidableEq, Repr, Inhabited

/-- The debt in dollars behind `shares` out of a supply. -/
def debtOf (shares supply totalDebt : UInt64) : Outcome UInt64 :=
  if shares = 0 ∨ supply = 0 then pure 0 else mulDiv shares totalDebt supply

/-- Debt over collateral value. No debt has ratio zero; debt without collateral, and a ratio that
does not fit, have the largest ratio. -/
def debtRatio (debt collateralValue : UInt64) : Outcome UInt64 :=
  if debt = 0 then pure 0
  else if collateralValue = 0 then pure (UInt64.ofNat (UInt64.size - 1))
  else
    match decimalDiv debt collateralValue with
    | .error (.refused .arithmeticOverflow) => pure (UInt64.ofNat (UInt64.size - 1))
    | other => other

namespace Position

/-- The position of some shares and some collateral at a market. -/
def of (shares collateral supply : UInt64) (market : Market) : Outcome Position := do
  let debt ← debtOf shares supply market.totalDebt
  let collateralValue ← decimalMul collateral market.price
  let ratio ← debtRatio debt collateralValue
  return { shares, debt, collateral, collateralValue, ratio }

end Position

namespace Staker

/-- The position of a staker at a market. -/
def position (staker : Staker) (supply : UInt64) (market : Market) : Outcome Position :=
  Position.of staker.shares staker.collateral supply market

end Staker

end FeeTreasury
