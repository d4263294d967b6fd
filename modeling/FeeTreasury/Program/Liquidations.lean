import FeeTreasury.Liquidation.Rules
import FeeTreasury.Program.Custody

/-!
# Liquidations

Flags and their removal, liquidations by others and by the owner. The market and the position are
seen before the entry is looked at.
-/

namespace FeeTreasury.Program

open Exec

/-- Flag an account. The flagger pays for an entry that does not exist yet. -/
def flagAccount (env : Env) (r : FlagRoster) : Exec Unit := do
  requireSigner env r.flagger
  let config ← loadWhileActive env r.config r.statusBoard
  let registry : ShareRegistry ← load env r.shareRegistry
  let book : LiquidationBook ← load env r.liquidationBook
  let staker : Staker ← load env r.staker
  let oracle ← loadOracle env config.settings r.collateralFeed r.debtFeed
  let market ← rule oracle.market
  let position ← rule (staker.position registry.supply market)
  let entry ← loadEntry env r.entry staker.owner
  let (records, deadline) ←
    rule (LiquidationRecords.flag ⟨book, entry⟩ config.settings r.flagger position env.now)
  if (← account r.entry).data.isEmpty then
    create env r.flagger r.entry (Stored.size LiquidationEntry)
  store r.entry records.entry
  store r.liquidationBook records.book
  emit (.accountFlagged staker.owner deadline)

/-- Remove the flag of an account that is healthy again. -/
def removeFlag (env : Env) (r : RemoveRoster) : Exec Unit := do
  requireSigner env r.caller
  let config : Config ← load env r.config
  let registry : ShareRegistry ← load env r.shareRegistry
  let book : LiquidationBook ← load env r.liquidationBook
  let staker : Staker ← load env r.staker
  let oracle ← loadOracle env config.settings r.collateralFeed r.debtFeed
  let market ← rule oracle.market
  let position ← rule (staker.position registry.supply market)
  let entry ← loadEntry env r.entry staker.owner
  let (records, removed) ←
    rule (LiquidationRecords.removeIfHealthy ⟨book, entry⟩ config.settings position)
  if removed then
    store r.entry records.entry
    store r.liquidationBook records.book
    emit (.accountRemoved staker.owner env.now)
  else
    say s!"Account {staker.owner.text} still above issuance ratio, entry kept"

/-- Tell what a liquidation took, and what it put into the reward pool. -/
def announce (account : Key) (plan : LiquidationPlan) (liquidator : Key) (bySelf : Bool) :
    Exec Unit := do
  emit (.accountLiquidated account plan.collateralRedeemed plan.debtRemoved liquidator bySelf)
  if plan.poolDeposit ≠ 0 then
    emit (.rewardsDeposited plan.poolDeposit)

/-- Liquidate a flagged account. -/
def liquidateAccount (env : Env) (roster : DelinquentRoster) : Exec Unit := do
  let r := roster.common
  requireSigner env r.signer
  let config ← loadWhileActive env r.config r.statusBoard
  let settings := config.settings
  let ledger : PeriodLedger ← load env r.periodLedger
  let registry : ShareRegistry ← load env r.shareRegistry
  let pool : RewardPool ← load env r.rewardPool
  let book : LiquidationBook ← load env r.liquidationBook
  let staker : Staker ← load env r.staker
  let oracle ← loadOracle env settings r.collateralFeed r.debtFeed
  requireVault roster.collateralVault config.collateralVault
  checkVaultAuthority env config roster.vaultAuthority
  requireTokenProgram roster.tokenProgram
  let market ← rule oracle.market
  let position ← rule (staker.position registry.supply market)
  let entry ← loadEntry env r.entry staker.owner
  rule (entry.checkLiquidatable settings position env.now)
  requireTokenOwner roster.flaggerDestination entry.flagger
  requireTokenOwner roster.liquidatorDestination r.signer
  let terms ← rule (settings.termsForOthers market.price)
  let plan ← rule (position.plan terms)
  let (books, pool) ← rule (ShareBooks.liquidate ⟨ledger, registry, staker⟩ pool plan env.now)
  let (records, _) := LiquidationRecords.close ⟨book, entry⟩ true
  store r.periodLedger books.ledger
  store r.shareRegistry books.registry
  store r.rewardPool pool
  store r.liquidationBook records.book
  store r.entry records.entry
  store r.staker books.staker
  payFrom roster.collateralVault roster.flaggerDestination roster.vaultAuthority plan.flagReward
  payFrom roster.collateralVault roster.liquidatorDestination roster.vaultAuthority
    plan.liquidateReward
  say s!"Liquidated {staker.owner.text}: full={plan.full} shares burned {plan.sharesBurned.toNat}"
  announce staker.owner plan r.signer false

/-- Liquidate one's own account. The book and the entry are written only if the account was
flagged. -/
def liquidateSelf (env : Env) (r : LiquidationRoster) : Exec Unit := do
  requireSigner env r.signer
  let config ← loadWhileActive env r.config r.statusBoard
  let settings := config.settings
  let ledger : PeriodLedger ← load env r.periodLedger
  let registry : ShareRegistry ← load env r.shareRegistry
  let pool : RewardPool ← load env r.rewardPool
  let book : LiquidationBook ← load env r.liquidationBook
  let entry ← loadEntry env r.entry r.signer
  let staker ← loadStakerOf env r.staker r.signer
  let oracle ← loadOracle env settings r.collateralFeed r.debtFeed
  let market ← rule oracle.market
  let position ← rule (staker.position registry.supply market)
  rule (settings.checkSelfLiquidatable position)
  let terms ← rule (settings.termsForSelf market.price)
  let plan ← rule (position.plan terms)
  let (books, pool) ← rule (ShareBooks.liquidate ⟨ledger, registry, staker⟩ pool plan env.now)
  let (records, wasFlagged) := LiquidationRecords.close ⟨book, entry⟩ true
  store r.periodLedger books.ledger
  store r.shareRegistry books.registry
  store r.rewardPool pool
  if wasFlagged then
    store r.liquidationBook records.book
    store r.entry records.entry
  store r.staker books.staker
  announce r.signer plan r.signer true

end FeeTreasury.Program
