import FeeTreasury.Instruction.Roster
import FeeTreasury.Position
import FeeTreasury.Program.Run

/-!
# Custody of collateral

Deposits, withdrawals, and payments by the reward pool, all in and out of the collateral vault. All
of them stop while the system is suspended.
-/

namespace FeeTreasury.Program

open Exec

/-- Read the configuration while the system is not suspended. -/
def loadWhileActive (env : Env) (config statusBoard : Key) : Exec Config := do
  let config : Config ← load env config
  let board : StatusBoard ← load env statusBoard
  rule (board.requireActive [.system])
  return config

/-- Deposit collateral. -/
def depositCollateral (env : Env) (r : DepositRoster) (amount : UInt64) : Exec Unit := do
  requireSigner env r.owner
  check (amount ≠ 0) (.refused .zeroAmount)
  let config ← loadWhileActive env r.config r.statusBoard
  let staker ← loadStakerOf env r.staker r.owner
  requireVault r.collateralVault config.collateralVault
  requireTokenProgram r.tokenProgram
  let collateral ← rule (checkedAdd staker.collateral amount)
  store r.staker { staker with collateral }
  transfer r.source r.collateralVault r.owner amount
  say s!"Deposited {amount.toNat} collateral, balance {collateral.toNat}"

/-- Withdraw collateral. The account must not be flagged, and what is left has to keep it at or
below the issuance ratio. -/
def withdrawCollateral (env : Env) (r : WithdrawRoster) (amount : UInt64) : Exec Unit := do
  requireSigner env r.owner
  check (amount ≠ 0) (.refused .zeroAmount)
  let config ← loadWhileActive env r.config r.statusBoard
  let registry : ShareRegistry ← load env r.shareRegistry
  let entry ← loadEntry env r.entry r.owner
  let staker ← loadStakerOf env r.staker r.owner
  let oracle ← loadOracle env config.settings r.collateralFeed r.debtFeed
  requireVault r.collateralVault config.collateralVault
  requireTokenOwner r.destination r.owner
  checkVaultAuthority env config r.vaultAuthority
  requireTokenProgram r.tokenProgram
  check (!entry.active) (.refused .accountFlagged)
  check (amount ≤ staker.collateral) (.refused .insufficientCollateral)
  let collateral := staker.collateral - amount
  let market ← rule oracle.market
  let after ← rule (Position.of staker.shares collateral registry.supply market)
  let limit ← rule config.settings.requireIssuanceRatio
  check (after.ratio ≤ limit) (.refused .withdrawalBreachesRatio)
  store r.staker { staker with collateral }
  payFrom r.collateralVault r.destination r.vaultAuthority amount
  say s!"Withdrew {amount.toNat} collateral, balance {collateral.toNat}"

/-- Take what the reward pool owes. -/
def takeReward (env : Env) (r : RewardRoster) : Exec Unit := do
  requireSigner env r.owner
  let config ← loadWhileActive env r.config r.statusBoard
  let pool : RewardPool ← load env r.rewardPool
  let staker ← loadStakerOf env r.staker r.owner
  requireVault r.collateralVault config.collateralVault
  requireTokenOwner r.destination r.owner
  checkVaultAuthority env config r.vaultAuthority
  requireTokenProgram r.tokenProgram
  let (pool, rewards, amount) ← rule (pool.takeReward staker.rewards staker.shares)
  if amount = 0 then
    say ("No liquidation rewards accrued for " ++ r.owner.text)
  else
    store r.rewardPool pool
    store r.staker { staker with rewards }
    payFrom r.collateralVault r.destination r.vaultAuthority amount
    emit (.rewardPaid r.owner amount)

end FeeTreasury.Program
