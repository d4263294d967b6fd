import FeeTreasury.FixedPoint
import FeeTreasury.Header

/-!
# The reward pool

Redeemed collateral belongs to all holders of debt shares, in proportion. The pool keeps one growing
number, the reward per share with eighteen decimals, and each holder keeps the value of that number
up to which it was credited. A holder is credited before its balance changes and before it is paid.
Deposits that find no shares are held back and distributed with the next deposit.
-/

namespace FeeTreasury

/-- How far a holder was credited, and what it has not been paid yet. -/
structure Checkpoint where
  /-- Reward per share up to which the holder was credited. -/
  creditedUpTo : UInt128
  /-- Credited and not yet paid. -/
  accrued : UInt64
  deriving DecidableEq, Repr

namespace Checkpoint

/-- The checkpoint of a new holder. -/
def zero : Checkpoint := ⟨0, 0⟩

instance : Inhabited Checkpoint := ⟨zero⟩

end Checkpoint

/-- The reward pool account. There is one; its tokens lie in the collateral vault. -/
structure RewardPool where
  header : Header
  /-- Reward per debt share so far. -/
  rewardPerShare : UInt128
  /-- Deposits that found no shares. -/
  undistributed : UInt64
  /-- Deposited and not yet paid out. -/
  balance : UInt64
  totalDeposited : UInt64
  totalPaid : UInt64
  deriving DecidableEq, Repr, Inhabited

namespace RewardPool

/-- An empty pool. -/
def new (bump : UInt8) : RewardPool where
  header := Header.fresh .rewardPool bump
  rewardPerShare := 0
  undistributed := 0
  balance := 0
  totalDeposited := 0
  totalPaid := 0

/-- Spread an amount, and what was held back, over the supply of shares. -/
def deposit (pool : RewardPool) (amount supply : UInt64) : Outcome RewardPool := do
  if amount = 0 then
    return pool
  let balance ← checkedAdd pool.balance amount
  let totalDeposited ← checkedAdd pool.totalDeposited amount
  let distributable ← checkedAdd pool.undistributed amount
  if supply = 0 then
    return { pool with balance, totalDeposited, undistributed := distributable }
  let increment ← perShare (BitVec.ofNat 128 distributable.toNat) supply
  let rewardPerShare ← fit128 (pool.rewardPerShare.toNat + increment.toNat)
  return { pool with balance, totalDeposited, undistributed := 0, rewardPerShare }

/-- What a holder has earned and was not paid, credited or not. -/
def earned (pool : RewardPool) (checkpoint : Checkpoint) (shares : UInt64) : Outcome UInt64 := do
  let growth := saturatingSub128 pool.rewardPerShare checkpoint.creditedUpTo
  let scaled ← fromPerShare shares growth
  let pending ← fit64 scaled.toNat
  checkedAdd checkpoint.accrued pending

/-- Credit a holder up to now. -/
def credit (pool : RewardPool) (checkpoint : Checkpoint) (shares : UInt64) :
    Outcome Checkpoint := do
  let accrued ← pool.earned checkpoint shares
  return ⟨pool.rewardPerShare, accrued⟩

/-- Credit a holder and release all it has. Gives the pool, the checkpoint and the amount to pay. -/
def takeReward (pool : RewardPool) (checkpoint : Checkpoint) (shares : UInt64) :
    Outcome (RewardPool × Checkpoint × UInt64) := do
  let credited ← pool.credit checkpoint shares
  let amount := credited.accrued
  if amount = 0 then
    return (pool, credited, 0)
  require (amount ≤ pool.balance) .rewardPoolInsufficient
  let totalPaid ← checkedAdd pool.totalPaid amount
  return ({ pool with balance := pool.balance - amount, totalPaid },
    { credited with accrued := 0 }, amount)

end RewardPool

end FeeTreasury
