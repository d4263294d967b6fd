import FeeTreasury.Proofs.Program.Serving

/-!
# What each instruction may write

Each instruction serves the accounts that its roster says may be written, on whatever accounts it is
run. Where those who have to sign have signed, and the roster lists the accounts at their addresses,
it blames the list only for one of two reasons: the configuration has another bump for the owner of
the vaults than the one that is found, or a staker account is another one's than the one whose entry
is listed.
-/

namespace FeeTreasury

/-! ## Rosters -/

/-- What is listed is read back. -/
class LawfulRoster (α : Type) [Roster α] : Prop where
  ofKeys?_listing : ∀ roster : α,
    Roster.ofKeys? ((Roster.listing roster).map Listed.key) = some roster

instance : LawfulRoster SetUpRoster := ⟨fun _ => rfl⟩
instance : LawfulRoster ConfigRoster := ⟨fun _ => rfl⟩
instance : LawfulRoster SuspensionRoster := ⟨fun _ => rfl⟩
instance : LawfulRoster NewFeedRoster := ⟨fun _ => rfl⟩
instance : LawfulRoster RateRoster := ⟨fun _ => rfl⟩
instance : LawfulRoster NewStakerRoster := ⟨fun _ => rfl⟩
instance : LawfulRoster SharesRoster := ⟨fun _ => rfl⟩
instance : LawfulRoster LedgerRoster := ⟨fun _ => rfl⟩
instance : LawfulRoster CloseRoster := ⟨fun _ => rfl⟩
instance : LawfulRoster ApprovalRoster := ⟨fun _ => rfl⟩
instance : LawfulRoster ClaimRoster := ⟨fun _ => rfl⟩
instance : LawfulRoster DepositRoster := ⟨fun _ => rfl⟩
instance : LawfulRoster WithdrawRoster := ⟨fun _ => rfl⟩
instance : LawfulRoster FlagRoster := ⟨fun _ => rfl⟩
instance : LawfulRoster RemoveRoster := ⟨fun _ => rfl⟩
instance : LawfulRoster LiquidationRoster := ⟨fun _ => rfl⟩
instance : LawfulRoster DelinquentRoster := ⟨fun _ => rfl⟩
instance : LawfulRoster RewardRoster := ⟨fun _ => rfl⟩

/-- The accounts of a roster that may be written. -/
def Roster.writable {α : Type} [Roster α] (roster : α) : List Key :=
  ((Roster.listing roster).filter Listed.writable).map Listed.key

/-- If one key holds a staker account, the entry of the owner lies at another key. -/
def Run.EntryOf (run : Run) (program staker entry : Key) : Prop :=
  ∀ value : Staker, run.Holds program staker value →
    (Place.entry value.owner).key? program = some entry

namespace Program

open Exec

variable {env : Env} {run : Run} {excuse : Prop}

/-! ## Administration -/

/-- An account of which there is one is created at its address. -/
theorem serves_createSingle {α : Type} [Stored α] {writable : List Key} {payer target : Key}
    {place : Place} {first : UInt8 → α} (pays : payer ∈ writable) (may : target ∈ writable)
    (lies : place.key? env.program = some target) :
    Serves writable excuse (createSingle env payer target place first) run := by
  unfold createSingle
  refine .bind (.place (.inl lies)) fun _ _ _ => ?_
  exact .bind (.create pays may) fun _ _ _ => .store may

theorem serves_setUp {r : SetUpRoster} {settings : Settings} (signed : r.authority ∈ env.signers)
    (vaults : Place.vaultAuthority.key? env.program = some r.vaultAuthority)
    (config : Place.config.key? env.program = some r.config)
    (board : Place.statusBoard.key? env.program = some r.statusBoard)
    (ledger : Place.periodLedger.key? env.program = some r.periodLedger)
    (registry : Place.shareRegistry.key? env.program = some r.shareRegistry)
    (pool : Place.rewardPool.key? env.program = some r.rewardPool)
    (book : Place.liquidationBook.key? env.program = some r.liquidationBook) :
    Serves (Roster.writable r) excuse (setUp env r settings) run := by
  rw [show Roster.writable r = [r.authority, r.config, r.statusBoard, r.periodLedger,
    r.shareRegistry, r.rewardPool, r.liquidationBook] from rfl]
  unfold setUp
  refine .bind (.signer signed) fun _ _ _ => .bind (.rule (by simp)) fun _ _ _ => ?_
  refine .bind (.place (.inl vaults)) fun _ _ _ => ?_
  refine .bind .tokenOwner fun _ _ _ => .bind .tokenOwner fun _ _ _ => ?_
  refine .bind .tokenOwner fun _ _ _ => ?_
  refine .bind (serves_createSingle (by simp) (by simp) config) fun _ _ _ => ?_
  refine .bind (serves_createSingle (by simp) (by simp) board) fun _ _ _ => ?_
  refine .bind (serves_createSingle (by simp) (by simp) ledger) fun _ _ _ => ?_
  refine .bind (serves_createSingle (by simp) (by simp) registry) fun _ _ _ => ?_
  refine .bind (serves_createSingle (by simp) (by simp) pool) fun _ _ _ => ?_
  exact .bind (serves_createSingle (by simp) (by simp) book) fun _ _ _ => .say

theorem serves_updateSettings {r : ConfigRoster} {update : SettingsUpdate}
    (signed : r.authority ∈ env.signers) :
    Serves (Roster.writable r) excuse (updateSettings env r update) run := by
  rw [show Roster.writable r = [r.config] from rfl]
  unfold updateSettings
  refine .bind (.forAuthority signed) fun _ _ _ => ?_
  refine .bind (.rule (Settings.failsAs_validate _)) fun _ _ _ => ?_
  exact .bind (.store (by simp)) fun _ _ _ => .say

theorem serves_updateRoles {r : ConfigRoster} {update : RolesUpdate}
    (signed : r.authority ∈ env.signers) :
    Serves (Roster.writable r) excuse (updateRoles env r update) run := by
  rw [show Roster.writable r = [r.config] from rfl]
  unfold updateRoles
  refine .bind (.forAuthority signed) fun _ _ _ => ?_
  cases update.authority with
  | none => exact .store (.head _)
  | some key => exact .bind .say fun _ _ _ => .store (.head _)

theorem serves_setSuspension {r : SuspensionRoster} {number : UInt8} {suspended : Bool}
    {reason : UInt16} (signed : r.authority ∈ env.signers) :
    Serves (Roster.writable r) excuse (setSuspension env r number suspended reason) run := by
  rw [show Roster.writable r = [r.statusBoard] from rfl]
  unfold setSuspension
  refine .bind (.forAuthority signed) fun _ _ _ => ?_
  refine .bind (.rule (by simp)) fun _ _ _ => ?_
  exact .bind .load fun _ _ _ => .bind (.store (by simp)) fun _ _ _ => .say

theorem serves_createFeed {r : NewFeedRoster} {asset : AssetKey}
    (signed : r.authority ∈ env.signers)
    (lies : (Place.feed asset).key? env.program = some r.feed) :
    Serves (Roster.writable r) excuse (createFeed env r asset) run := by
  rw [show Roster.writable r = [r.authority, r.feed] from rfl]
  unfold createFeed
  refine .bind (.forAuthority signed) fun _ _ _ => .bind (.place (.inl lies)) fun _ _ _ => ?_
  refine .bind (.create (by simp) (by simp)) fun _ _ _ => ?_
  exact .bind (.store (by simp)) fun _ _ _ => .say

theorem serves_submitRate {r : RateRoster} {rate : UInt64}
    (signed : r.oracleAuthority ∈ env.signers) :
    Serves (Roster.writable r) excuse (submitRate env r rate) run := by
  rw [show Roster.writable r = [r.feed] from rfl]
  unfold submitRate
  refine .bind (.signer signed) fun _ _ _ => .bind .load fun _ _ _ => ?_
  refine .bind (.check_of_not (by decide)) fun _ _ _ => .bind .load fun _ _ _ => ?_
  refine .bind (.rule (by simp [RateFeed.submit])) fun _ _ _ => ?_
  exact .bind (.store (by simp)) fun _ _ _ => .say

theorem serves_createStaker {r : NewStakerRoster} (signed : r.payer ∈ env.signers)
    (lies : (Place.staker r.owner).key? env.program = some r.staker) :
    Serves (Roster.writable r) excuse (createStaker env r) run := by
  rw [show Roster.writable r = [r.payer, r.staker, r.shareRegistry] from rfl]
  unfold createStaker
  refine .bind (.signer signed) fun _ _ _ => .bind (.place (.inl lies)) fun _ _ _ => ?_
  refine .bind (.create (by simp) (by simp)) fun _ _ _ => .bind (.store (by simp)) fun _ _ _ => ?_
  exact .bind .load fun _ _ _ => .bind (.store (by simp)) fun _ _ _ => .say

/-! ## Periods and shares -/

theorem serves_recordShares {r : SharesRoster} {shares : UInt64}
    (signed : r.issuer ∈ env.signers) :
    Serves (Roster.writable r) excuse (recordShares env r shares) run := by
  rw [show Roster.writable r = [r.periodLedger, r.shareRegistry, r.staker] from rfl]
  unfold recordShares
  refine .bind (.signer signed) fun _ _ _ => .bind .load fun _ _ _ => ?_
  refine .bind (.check_of_not (by decide)) fun _ _ _ => .bind .load fun _ _ _ => ?_
  refine .bind .load fun _ _ _ => .bind .load fun _ _ _ => .bind .load fun _ _ _ => ?_
  refine .bind (.rule (ShareBooks.failsAs_setShares (.inr Fault.placed_aborted) _ _ _))
    fun _ _ _ => .bind (.store (by simp)) fun _ _ _ => ?_
  refine .bind (.store (by simp)) fun _ _ _ => ?_
  exact .bind (.store (by simp)) fun _ _ _ => .say

theorem serves_recordIncome {r : LedgerRoster} {add : PeriodLedger → Outcome PeriodLedger}
    (signed : r.signer ∈ env.signers)
    (fails : ∀ ledger, Outcome.FailsAs Fault.Placed (add ledger)) :
    Serves (Roster.writable r) excuse (recordIncome env r add) run := by
  rw [show Roster.writable r = [r.periodLedger] from rfl]
  unfold recordIncome
  refine .bind (.signer signed) fun _ _ _ => .bind .load fun _ _ _ => ?_
  refine .bind (.check_of_not (by decide)) fun _ _ _ => .bind .load fun _ _ _ => ?_
  exact .bind (.rule (fails _)) fun _ _ _ => .bind (.store (by simp)) fun _ _ _ => .say

theorem serves_closeBy {r : CloseRoster}
    {close : PeriodLedger → UInt64 → Outcome (PeriodLedger × UInt64)}
    (fails : ∀ ledger supply, Outcome.FailsAs Fault.Placed (close ledger supply)) :
    Serves (Roster.writable r) excuse (closeBy env r close) run := by
  rw [show Roster.writable r = [r.periodLedger] from rfl]
  unfold closeBy
  refine .bind .load fun _ _ _ => .bind (.rule (by simp)) fun _ _ _ => ?_
  refine .bind .load fun _ _ _ => .bind .load fun _ _ _ => .bind (.rule (fails _ _)) fun _ _ _ => ?_
  exact .bind (.store (by simp)) fun _ _ _ => .emit

theorem serves_closePeriod {r : CloseRoster} (signed : r.signer ∈ env.signers) :
    Serves (Roster.writable r) excuse (closePeriod env r) run := by
  unfold closePeriod
  refine .bind (.signer signed) fun _ _ _ => .bind .load fun _ _ _ => serves_closeBy ?_
  have aborts : Fault.Placed .aborted := Fault.placed_aborted
  exact fun ledger supply =>
    ledger.failsAs_closeCurrent (.inr aborts) (failsAs_plainElapsed.mpr (.inr aborts)) _ supply

theorem serves_closeSecondary {r : CloseRoster} {id : UInt64} {duration : Int64}
    (signed : r.signer ∈ env.signers) :
    Serves (Roster.writable r) excuse (closeSecondary env r id duration) run := by
  unfold closeSecondary
  refine .bind (.signer signed) fun _ _ _ => .bind .load fun _ _ _ => ?_
  refine .bind (.check_of_not (by decide)) fun _ _ _ => serves_closeBy fun ledger supply => ?_
  exact ledger.failsAs_closeFromRelayer (.inr Fault.placed_aborted) _ id duration _ supply

theorem serves_importPeriod {r : LedgerRoster} {index : UInt8} {history : PeriodImport}
    (signed : r.signer ∈ env.signers) :
    Serves (Roster.writable r) excuse (importPeriod env r index history) run := by
  rw [show Roster.writable r = [r.periodLedger] from rfl]
  unfold importPeriod
  refine .bind (.forAuthority signed) fun _ _ _ => .bind .load fun _ _ _ => ?_
  exact .bind (.rule (by simp)) fun _ _ _ => .bind (.store (by simp)) fun _ _ _ => .emit

/-! ## Claims -/

theorem serves_setApproval {r : ApprovalRoster} {delegate : Key} {canClaim : Bool}
    (signed : r.authoriser ∈ env.signers)
    (lies : (Place.approval r.authoriser delegate).key? env.program = some r.approval) :
    Serves (Roster.writable r) excuse (setApproval env r delegate canClaim) run := by
  rw [show Roster.writable r = [r.authoriser, r.approval] from rfl]
  unfold setApproval
  refine .bind (.signer signed) fun _ _ _ => .bind (.place (.inl lies)) fun _ _ _ => ?_
  refine .bind ?_ fun _ _ _ => .bind (.store (by simp)) fun _ _ _ => .say
  unfold approvalFor
  refine .bind .account fun _ _ _ => .ite (fun _ => ?_) fun _ => ?_
  · exact .bind (.create (by simp) (by simp)) fun _ _ _ => .pure _
  · exact .bind .load fun _ _ _ => .pure _

theorem serves_settle {writable : List Key} {claim : Claiming Entitlement} {books : ClaimBooks}
    (fails : claim.FailsAs Fault.Placed) :
    Serves writable excuse (settle claim books) run := by
  unfold settle
  cases followed : claim.run books with
  | ok claimed after => exact .pure _
  | error fault after =>
    exact .throw fun blames => absurd blames (fails books fault after followed).not_blamesList

theorem serves_payClaim {r : ClaimRoster} {owner : Key}
    {claim : ClaimTerms → Claiming Entitlement}
    (accepted : run.accounts.All env.program (Config.Accepted env.program) ∨ excuse)
    (lies : Place.vaultAuthority.key? env.program = some r.vaultAuthority)
    (fails : ∀ terms, (claim terms).FailsAs Fault.Placed) :
    Serves (Roster.writable r) excuse (payClaim env r owner claim) run := by
  rw [show Roster.writable r = [r.periodLedger, r.staker, r.tokens.feeVault,
    r.tokens.feeDestination, r.tokens.rewardVault, r.tokens.rewardDestination] from rfl]
  unfold payClaim
  -- The configuration is kept in sight: its bump has to be the one of the owner of the vaults.
  refine .seen .load load_eq_ok fun config known => ?_
  refine .bind .load fun _ _ _ => .bind .load fun _ _ _ => .bind .load fun _ _ _ => ?_
  refine .bind .stakerOf fun _ _ _ => .bind .oracle fun _ _ _ => .bind .vault fun _ _ _ => ?_
  refine .bind .vault fun _ _ _ => .bind .tokenOwner fun _ _ _ => .bind .tokenOwner fun _ _ _ => ?_
  refine .bind (.vaultAuthority (accepted.imp_left fun all => all _ _ known) lies) fun _ _ _ => ?_
  refine .bind .tokenProgram fun _ _ _ => .bind (serves_settle (fails _)) fun _ _ _ => ?_
  refine .bind (.store (by simp)) fun _ _ _ => .bind (.store (by simp)) fun _ _ _ => ?_
  refine .bind (.payFrom (by simp) (by simp)) fun _ _ _ => ?_
  exact .bind (.payFrom (by simp) (by simp)) fun _ _ _ => .emit

/-- The roster of a claim is read from what it lists. -/
theorem claimRoster_listing (r : ClaimRoster) :
    claimRoster ((Roster.listing r).map Listed.key) = pure r := by
  rw [claimRoster, LawfulRoster.ofKeys?_listing r]

theorem serves_claimFees {r : ClaimRoster} {claimant : Key} (signed : claimant ∈ env.signers)
    (accepted : run.accounts.All env.program (Config.Accepted env.program) ∨ excuse)
    (vaults : Place.vaultAuthority.key? env.program = some r.vaultAuthority) :
    Serves (Roster.writable r) excuse
      (claimFees env (claimant :: (Roster.listing r).map Listed.key)) run := by
  rw [claimFees, claimRoster_listing, pure_bind]
  refine .seen (.signer signed) requireSigner_eq_ok fun _ _ => ?_
  exact serves_payClaim accepted vaults fun _ =>
    Claiming.failsAs_claim (.inr Fault.placed_aborted)

theorem serves_claimOnBehalf {r : ClaimRoster} {delegate approval : Key}
    (signed : delegate ∈ env.signers)
    (accepted : run.accounts.All env.program (Config.Accepted env.program) ∨ excuse)
    (vaults : Place.vaultAuthority.key? env.program = some r.vaultAuthority) :
    Serves (Roster.writable r) excuse
      (claimOnBehalf env (delegate :: approval :: (Roster.listing r).map Listed.key)) run := by
  rw [claimOnBehalf, claimRoster_listing]
  refine .seen (.signer signed) requireSigner_eq_ok fun _ _ => ?_
  refine .seen .load load_eq_ok fun approval _ => ?_
  rw [pure_bind]
  exact serves_payClaim accepted vaults fun _ =>
    Claiming.failsAs_claimOnBehalf approval delegate (.inr Fault.placed_aborted)

/-! ## Custody -/

theorem serves_depositCollateral {r : DepositRoster} {amount : UInt64}
    (signed : r.owner ∈ env.signers) :
    Serves (Roster.writable r) excuse (depositCollateral env r amount) run := by
  rw [show Roster.writable r = [r.staker, r.source, r.collateralVault] from rfl]
  unfold depositCollateral
  refine .bind (.signer signed) fun _ _ _ => .bind (.check_of_not (by decide)) fun _ _ _ => ?_
  refine .bind .whileActive fun _ _ _ => .bind .stakerOf fun _ _ _ => .bind .vault fun _ _ _ => ?_
  refine .bind .tokenProgram fun _ _ _ => .bind (.rule (by simp)) fun _ _ _ => ?_
  refine .bind (.store (by simp)) fun _ _ _ => ?_
  exact .bind (.transfer (by simp) (by simp)) fun _ _ _ => .say

theorem serves_withdrawCollateral {r : WithdrawRoster} {amount : UInt64}
    (signed : r.owner ∈ env.signers)
    (accepted : run.accounts.All env.program (Config.Accepted env.program) ∨ excuse)
    (vaults : Place.vaultAuthority.key? env.program = some r.vaultAuthority)
    (entry : (Place.entry r.owner).key? env.program = some r.entry) :
    Serves (Roster.writable r) excuse (withdrawCollateral env r amount) run := by
  rw [show Roster.writable r = [r.staker, r.collateralVault, r.destination] from rfl]
  unfold withdrawCollateral
  refine .seen (.signer signed) requireSigner_eq_ok fun _ _ => ?_
  refine .seen (.check_of_not (by decide)) check_eq_ok fun _ _ => ?_
  refine .seen .whileActive loadWhileActive_eq_ok fun config ⟨known, _⟩ => ?_
  refine .bind .load fun _ _ _ => .bind (.entry (.inl entry)) fun _ _ _ => ?_
  refine .bind .stakerOf fun _ _ _ => .bind .oracle fun _ _ _ => .bind .vault fun _ _ _ => ?_
  refine .bind .tokenOwner fun _ _ _ => ?_
  refine .bind (.vaultAuthority (accepted.imp_left fun all => all _ _ known) vaults) fun _ _ _ => ?_
  refine .bind .tokenProgram fun _ _ _ => .bind (.check_of_not (by decide)) fun _ _ _ => ?_
  refine .bind (.check_of_not (by decide)) fun _ _ _ => .bind (.rule (by simp)) fun _ _ _ => ?_
  refine .bind (.rule (by simp)) fun _ _ _ => .bind (.rule (by simp)) fun _ _ _ => ?_
  refine .bind (.check_of_not (by decide)) fun _ _ _ => .bind (.store (by simp)) fun _ _ _ => ?_
  exact .bind (.payFrom (by simp) (by simp)) fun _ _ _ => .say

theorem serves_takeReward {r : RewardRoster} (signed : r.owner ∈ env.signers)
    (accepted : run.accounts.All env.program (Config.Accepted env.program) ∨ excuse)
    (vaults : Place.vaultAuthority.key? env.program = some r.vaultAuthority) :
    Serves (Roster.writable r) excuse (takeReward env r) run := by
  rw [show Roster.writable r = [r.rewardPool, r.staker, r.collateralVault, r.destination] from rfl]
  unfold takeReward
  refine .seen (.signer signed) requireSigner_eq_ok fun _ _ => ?_
  refine .seen .whileActive loadWhileActive_eq_ok fun config ⟨known, _⟩ => ?_
  refine .bind .load fun _ _ _ => .bind .stakerOf fun _ _ _ => .bind .vault fun _ _ _ => ?_
  refine .bind .tokenOwner fun _ _ _ => ?_
  refine .bind (.vaultAuthority (accepted.imp_left fun all => all _ _ known) vaults) fun _ _ _ => ?_
  refine .bind .tokenProgram fun _ _ _ => .bind (.rule (by simp)) fun _ _ _ => ?_
  refine .ite (fun _ => .say) fun _ => ?_
  refine .bind (.store (by simp)) fun _ _ _ => .bind (.store (by simp)) fun _ _ _ => ?_
  exact .bind (.payFrom (by simp) (by simp)) fun _ _ _ => .emit

/-! ## Liquidations -/

theorem serves_flagAccount {r : FlagRoster} (signed : r.flagger ∈ env.signers)
    (own : run.EntryOf env.program r.staker r.entry ∨ excuse) :
    Serves (Roster.writable r) excuse (flagAccount env r) run := by
  rw [show Roster.writable r = [r.flagger, r.liquidationBook, r.entry] from rfl]
  unfold flagAccount
  -- Up to the staker account nothing is written, so that the account is one of the run at first.
  refine .seen (.signer signed) requireSigner_eq_ok fun _ _ => ?_
  refine .seen .whileActive loadWhileActive_eq_ok fun config _ => ?_
  refine .seen .load load_eq_ok fun registry _ => .seen .load load_eq_ok fun book _ => ?_
  refine .seen .load load_eq_ok fun staker found => ?_
  refine .bind .oracle fun _ _ _ => .bind (.rule (by simp)) fun _ _ _ => ?_
  refine .bind (.rule (by simp)) fun _ _ _ => ?_
  refine .bind (.entry (own.imp_left fun own => own staker found)) fun _ _ _ => ?_
  refine .bind (.rule (by simp)) fun flagged _ _ => ?_
  have records (after : Run) : Serves [r.flagger, r.liquidationBook, r.entry] excuse (do
      store r.entry flagged.1.entry
      store r.liquidationBook flagged.1.book
      emit (.accountFlagged staker.owner flagged.2)) after :=
    .bind (.store (by simp)) fun _ _ _ => .bind (.store (by simp)) fun _ _ _ => .emit
  refine .bind .account fun _ _ _ => .ite (fun _ => ?_) fun _ => records _
  exact .bind (.create (by simp) (by simp)) fun _ after _ => records after

theorem serves_removeFlag {r : RemoveRoster} (signed : r.caller ∈ env.signers)
    (own : run.EntryOf env.program r.staker r.entry ∨ excuse) :
    Serves (Roster.writable r) excuse (removeFlag env r) run := by
  rw [show Roster.writable r = [r.liquidationBook, r.entry] from rfl]
  unfold removeFlag
  refine .seen (.signer signed) requireSigner_eq_ok fun _ _ => ?_
  refine .seen .load load_eq_ok fun config _ => .seen .load load_eq_ok fun registry _ => ?_
  refine .seen .load load_eq_ok fun book _ => .seen .load load_eq_ok fun staker found => ?_
  refine .bind .oracle fun _ _ _ => .bind (.rule (by simp)) fun _ _ _ => ?_
  refine .bind (.rule (by simp)) fun _ _ _ => ?_
  refine .bind (.entry (own.imp_left fun own => own staker found)) fun _ _ _ => ?_
  refine .bind (.rule (by simp)) fun _ _ _ => .ite (fun _ => ?_) fun _ => .say
  exact .bind (.store (by simp)) fun _ _ _ => .bind (.store (by simp)) fun _ _ _ => .emit

theorem serves_announce {writable : List Key} {account liquidator : Key} {plan : LiquidationPlan}
    {bySelf : Bool} : Serves writable excuse (announce account plan liquidator bySelf) run :=
  .bind .emit fun _ _ _ => .ite (fun _ => .emit) fun _ => .pure ()

theorem serves_liquidateAccount {roster : DelinquentRoster}
    (signed : roster.common.signer ∈ env.signers)
    (accepted : run.accounts.All env.program (Config.Accepted env.program) ∨ excuse)
    (vaults : Place.vaultAuthority.key? env.program = some roster.vaultAuthority)
    (own : run.EntryOf env.program roster.common.staker roster.common.entry ∨ excuse) :
    Serves (Roster.writable roster) excuse (liquidateAccount env roster) run := by
  rw [show Roster.writable roster = [roster.common.periodLedger, roster.common.shareRegistry,
    roster.common.rewardPool, roster.common.liquidationBook, roster.common.entry,
    roster.common.staker, roster.collateralVault, roster.flaggerDestination,
    roster.liquidatorDestination] from rfl]
  have aborts : Fault.Placed .aborted := Fault.placed_aborted
  unfold liquidateAccount
  refine .seen (.signer signed) requireSigner_eq_ok fun _ _ => ?_
  refine .seen .whileActive loadWhileActive_eq_ok fun config ⟨known, _⟩ => ?_
  refine .seen .load load_eq_ok fun ledger _ => .seen .load load_eq_ok fun registry _ => ?_
  refine .seen .load load_eq_ok fun pool _ => .seen .load load_eq_ok fun book _ => ?_
  refine .seen .load load_eq_ok fun staker found => .bind .oracle fun _ _ _ => ?_
  refine .bind .vault fun _ _ _ => ?_
  refine .bind (.vaultAuthority (accepted.imp_left fun all => all _ _ known) vaults) fun _ _ _ => ?_
  refine .bind .tokenProgram fun _ _ _ => .bind (.rule (by simp)) fun _ _ _ => ?_
  refine .bind (.rule (by simp)) fun _ _ _ => ?_
  refine .bind (.entry (own.imp_left fun own => own staker found)) fun _ _ _ => ?_
  refine .bind (.rule (by simp)) fun _ _ _ => .bind .tokenOwner fun _ _ _ => ?_
  refine .bind .tokenOwner fun _ _ _ => .bind (.rule (by simp)) fun _ _ _ => ?_
  refine .bind (.rule (Position.failsAs_plan (.inr aborts) _)) fun _ _ _ => ?_
  refine .bind (.rule (ShareBooks.failsAs_liquidate (.inr aborts) _ _ _)) fun _ _ _ => ?_
  refine .bind (.store (by simp)) fun _ _ _ => .bind (.store (by simp)) fun _ _ _ => ?_
  refine .bind (.store (by simp)) fun _ _ _ => .bind (.store (by simp)) fun _ _ _ => ?_
  refine .bind (.store (by simp)) fun _ _ _ => .bind (.store (by simp)) fun _ _ _ => ?_
  refine .bind (.payFrom (by simp) (by simp)) fun _ _ _ => ?_
  refine .bind (.payFrom (by simp) (by simp)) fun _ _ _ => ?_
  exact .bind .say fun _ _ _ => serves_announce

theorem serves_liquidateSelf {r : LiquidationRoster} (signed : r.signer ∈ env.signers)
    (entry : (Place.entry r.signer).key? env.program = some r.entry) :
    Serves (Roster.writable r) excuse (liquidateSelf env r) run := by
  rw [show Roster.writable r = [r.periodLedger, r.shareRegistry, r.rewardPool, r.liquidationBook,
    r.entry, r.staker] from rfl]
  have aborts : Fault.Placed .aborted := Fault.placed_aborted
  unfold liquidateSelf
  refine .bind (.signer signed) fun _ _ _ => .bind .whileActive fun _ _ _ => ?_
  refine .bind .load fun _ _ _ => .bind .load fun _ _ _ => .bind .load fun _ _ _ => ?_
  refine .bind .load fun _ _ _ => .bind (.entry (.inl entry)) fun _ _ _ => ?_
  refine .bind .stakerOf fun _ _ _ => .bind .oracle fun _ _ _ => ?_
  refine .bind (.rule (by simp)) fun _ _ _ => .bind (.rule (by simp)) fun _ _ _ => ?_
  refine .bind (.rule (by simp)) fun _ _ _ => .bind (.rule (by simp)) fun _ _ _ => ?_
  refine .bind (.rule (Position.failsAs_plan (.inr aborts) _)) fun plan _ _ => ?_
  refine .bind (.rule (ShareBooks.failsAs_liquidate (.inr aborts) _ _ _)) fun liquidated _ _ => ?_
  -- Whatever is closed is written to accounts that may be written.
  generalize LiquidationRecords.close _ true = closed
  have rest (after : Run) : Serves [r.periodLedger, r.shareRegistry, r.rewardPool,
      r.liquidationBook, r.entry, r.staker] excuse (do
        store r.staker liquidated.1.staker
        announce r.signer plan r.signer true) after :=
    .bind (.store (by simp)) fun _ _ _ => serves_announce
  refine .bind (.store (by simp)) fun _ _ _ => .bind (.store (by simp)) fun _ _ _ => ?_
  refine .bind (.store (by simp)) fun _ _ _ => .ite (fun _ => ?_) fun _ => rest _
  refine .bind (.store (by simp)) fun _ _ _ => ?_
  exact .bind (.store (by simp)) fun _ after _ => rest after

end Program

end FeeTreasury
