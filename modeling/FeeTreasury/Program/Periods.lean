import FeeTreasury.Program.Administration
import FeeTreasury.ShareChange

/-!
# Fee periods and debt shares

What the issuer, the fee recorder, the relayer and the authority do to the ledger, and the close
that is open to anyone.
-/

namespace FeeTreasury.Program

open Exec

/-- Report the balance of a staker. -/
def recordShares (env : Env) (r : SharesRoster) (shares : UInt64) : Exec Unit := do
  requireSigner env r.issuer
  let config : Config ← load env r.config
  check (config.issuer = r.issuer) (.refused .notIssuer)
  let ledger : PeriodLedger ← load env r.periodLedger
  let registry : ShareRegistry ← load env r.shareRegistry
  let pool : RewardPool ← load env r.rewardPool
  let staker : Staker ← load env r.staker
  let books ← rule (ShareBooks.setShares ⟨ledger, registry, staker⟩ pool shares env.now)
  store r.periodLedger books.ledger
  store r.shareRegistry books.registry
  store r.staker books.staker
  say (s!"Debt shares of {staker.owner.text}: {staker.shares.toNat} -> {shares.toNat} " ++
    s!"(total {books.registry.supply.toNat})")

/-- Add to the open period by a rule of the ledger. -/
def recordIncome (env : Env) (r : LedgerRoster) (add : PeriodLedger → Outcome PeriodLedger) :
    Exec Unit := do
  requireSigner env r.signer
  let config : Config ← load env r.config
  check (config.feeRecorder = r.signer) (.refused .notFeeRecorder)
  let ledger : PeriodLedger ← load env r.periodLedger
  let ledger ← rule (add ledger)
  store r.periodLedger ledger
  let period := ledger.current
  say (s!"Period {period.id.toNat}: fees {period.fees.total.toNat} " ++
    s!"rewards {period.rewards.total.toNat}")

/-- Sections that a close needs. -/
def closeSections : List Section := [.system, .issuance]

/-- Close the open period by a rule of the ledger, which is given the supply of shares. -/
def closeBy (env : Env) (r : CloseRoster)
    (close : PeriodLedger → UInt64 → Outcome (PeriodLedger × UInt64)) : Exec Unit := do
  let board : StatusBoard ← load env r.statusBoard
  rule (board.requireActive closeSections)
  let ledger : PeriodLedger ← load env r.periodLedger
  let registry : ShareRegistry ← load env r.shareRegistry
  let (ledger, id) ← rule (close ledger registry.supply)
  store r.periodLedger ledger
  emit (.periodClosed id env.now)

/-- Close the open period because its time has passed. -/
def closePeriod (env : Env) (r : CloseRoster) : Exec Unit := do
  requireSigner env r.signer
  let config : Config ← load env r.config
  closeBy env r fun ledger supply =>
    ledger.closeCurrent env.now config.settings.periodDuration supply

/-- Close the open period for the companion ledger. -/
def closeSecondary (env : Env) (r : CloseRoster) (id : UInt64) (duration : Int64) :
    Exec Unit := do
  requireSigner env r.signer
  let config : Config ← load env r.config
  check (config.relayer = r.signer) (.refused .notRelayer)
  closeBy env r fun ledger supply =>
    ledger.closeFromRelayer env.now id duration config.settings.periodDuration supply

/-- Import history. -/
def importPeriod (env : Env) (r : LedgerRoster) (index : UInt8) (history : PeriodImport) :
    Exec Unit := do
  let _ ← loadForAuthority env r.signer r.config
  let ledger : PeriodLedger ← load env r.periodLedger
  let ledger ← rule (ledger.importPeriod env.now index.toNat history)
  store r.periodLedger ledger
  emit (.periodImported index history.id)

end FeeTreasury.Program
