import FeeTreasury.Chain.Address
import FeeTreasury.Instruction.Roster
import FeeTreasury.Instruction.Wire

/-!
# Calls made by clients

For each instruction, the call that carries it: the program, the accounts in the order in which the
program reads them, and the written form of the instruction. The accounts of the treasury are found
by their addresses. There is no call if one of the addresses does not exist.
-/

namespace FeeTreasury

/-- A call of a program. -/
structure ClientCall where
  program : Key
  accounts : List Listed
  data : Bytes
  deriving DecidableEq, Repr

namespace ClientCall

/-- A call with a roster of accounts. -/
def make {α : Type} [Roster α] (program : Key) (instruction : Instruction) (roster : α) :
    ClientCall :=
  ⟨program, Roster.listing roster, instruction.pack⟩

/-- The call with accounts listed before the others. -/
def listFirst (call : ClientCall) (accounts : List Listed) : ClientCall :=
  { call with accounts := accounts ++ call.accounts }

variable (program : Key)

/-- Set the treasury up with three vaults. -/
def setUp (authority : Key) (vaults : Vaults) (settings : Settings) : Option ClientCall := do
  let a ← Addresses.derive? program
  return make program (.setUp settings) (⟨authority, a.config, a.statusBoard, a.periodLedger,
    a.shareRegistry, a.rewardPool, a.liquidationBook, a.vaultAuthority, vaults.fee, vaults.reward,
    vaults.collateral, systemProgram⟩ : SetUpRoster)

/-- Change settings. -/
def updateSettings (authority : Key) (update : SettingsUpdate) : Option ClientCall := do
  let a ← Addresses.derive? program
  return make program (.updateSettings update) (⟨authority, a.config⟩ : ConfigRoster)

/-- Change roles. -/
def updateRoles (authority : Key) (update : RolesUpdate) : Option ClientCall := do
  let a ← Addresses.derive? program
  return make program (.updateRoles update) (⟨authority, a.config⟩ : ConfigRoster)

/-- Suspend or resume a section. -/
def setSuspension (authority : Key) (part : UInt8) (suspended : Bool) (reason : UInt16) :
    Option ClientCall := do
  let a ← Addresses.derive? program
  return make program (.setSuspension part suspended reason)
    (⟨authority, a.config, a.statusBoard⟩ : SuspensionRoster)

/-- Create a feed. -/
def createFeed (authority : Key) (asset : AssetKey) : Option ClientCall := do
  let a ← Addresses.derive? program
  let feed ← (Place.feed asset).key? program
  return make program (.createFeed asset)
    (⟨authority, a.config, feed, systemProgram⟩ : NewFeedRoster)

/-- Submit a rate. -/
def submitRate (oracleAuthority : Key) (asset : AssetKey) (rate : UInt64) :
    Option ClientCall := do
  let a ← Addresses.derive? program
  let feed ← (Place.feed asset).key? program
  return make program (.submitRate rate) (⟨oracleAuthority, a.config, feed⟩ : RateRoster)

/-- Create a staker. -/
def createStaker (payer owner : Key) : Option ClientCall := do
  let a ← Addresses.derive? program
  let staker ← (Place.staker owner).key? program
  return make program .createStaker
    (⟨payer, owner, staker, a.shareRegistry, systemProgram⟩ : NewStakerRoster)

/-- Report the balance of a staker. -/
def recordShares (issuer owner : Key) (shares : UInt64) : Option ClientCall := do
  let a ← Addresses.derive? program
  let staker ← (Place.staker owner).key? program
  return make program (.recordShares shares)
    (⟨issuer, a.config, a.periodLedger, a.shareRegistry, a.rewardPool, staker⟩ : SharesRoster)

/-- Record fees. -/
def recordFee (feeRecorder : Key) (amount : UInt64) : Option ClientCall := do
  let a ← Addresses.derive? program
  return make program (.recordFee amount)
    (⟨feeRecorder, a.config, a.periodLedger⟩ : LedgerRoster)

/-- Record rewards. -/
def recordReward (feeRecorder : Key) (amount : UInt64) : Option ClientCall := do
  let a ← Addresses.derive? program
  return make program (.recordReward amount)
    (⟨feeRecorder, a.config, a.periodLedger⟩ : LedgerRoster)

/-- Close the open period. -/
def closePeriod (caller : Key) : Option ClientCall := do
  let a ← Addresses.derive? program
  return make program .closePeriod
    (⟨caller, a.config, a.statusBoard, a.periodLedger, a.shareRegistry⟩ : CloseRoster)

/-- Close the open period for the companion ledger. -/
def closeSecondary (relayer : Key) (id : UInt64) (duration : Int64) : Option ClientCall := do
  let a ← Addresses.derive? program
  return make program (.closeSecondary id duration)
    (⟨relayer, a.config, a.statusBoard, a.periodLedger, a.shareRegistry⟩ : CloseRoster)

/-- Import history. -/
def importPeriod (authority : Key) (index : UInt8) (history : PeriodImport) :
    Option ClientCall := do
  let a ← Addresses.derive? program
  return make program (.importPeriod index history)
    (⟨authority, a.config, a.periodLedger⟩ : LedgerRoster)

/-- Approve a delegate, or withdraw the approval. -/
def setApproval (authoriser delegate : Key) (canClaim : Bool) : Option ClientCall := do
  let approval ← (Place.approval authoriser delegate).key? program
  return make program (.setApproval delegate canClaim)
    (⟨authoriser, approval, systemProgram⟩ : ApprovalRoster)

/-- The accounts of a claim for an owner. -/
def claimRoster (owner : Key) (tokens : ClaimTokens) : Option ClaimRoster := do
  let a ← Addresses.derive? program
  let staker ← (Place.staker owner).key? program
  return ⟨a.config, a.statusBoard, a.periodLedger, a.shareRegistry, staker, a.collateralFeed,
    a.debtFeed, tokens, a.vaultAuthority, tokenProgram⟩

/-- Claim. -/
def claimFees (claimant : Key) (tokens : ClaimTokens) : Option ClientCall := do
  let roster ← claimRoster program claimant tokens
  return (make program .claimFees roster).listFirst [.signing claimant]

/-- Claim for somebody else. -/
def claimOnBehalf (delegate authoriser : Key) (tokens : ClaimTokens) : Option ClientCall := do
  let approval ← (Place.approval authoriser delegate).key? program
  let roster ← claimRoster program authoriser tokens
  return (make program .claimOnBehalf roster).listFirst [.signing delegate, .reading approval]

/-- Deposit collateral. -/
def depositCollateral (owner source collateralVault : Key) (amount : UInt64) :
    Option ClientCall := do
  let a ← Addresses.derive? program
  let staker ← (Place.staker owner).key? program
  return make program (.depositCollateral amount)
    (⟨owner, a.config, a.statusBoard, staker, source, collateralVault, tokenProgram⟩ :
      DepositRoster)

/-- Withdraw collateral. -/
def withdrawCollateral (owner collateralVault destination : Key) (amount : UInt64) :
    Option ClientCall := do
  let a ← Addresses.derive? program
  let staker ← (Place.staker owner).key? program
  let entry ← (Place.entry owner).key? program
  return make program (.withdrawCollateral amount)
    (⟨owner, a.config, a.statusBoard, a.shareRegistry, entry, staker, a.collateralFeed, a.debtFeed,
      collateralVault, destination, a.vaultAuthority, tokenProgram⟩ : WithdrawRoster)

/-- Flag an account. -/
def flagAccount (flagger account : Key) : Option ClientCall := do
  let a ← Addresses.derive? program
  let staker ← (Place.staker account).key? program
  let entry ← (Place.entry account).key? program
  return make program .flagAccount
    (⟨flagger, a.config, a.statusBoard, a.shareRegistry, a.liquidationBook, entry, staker,
      a.collateralFeed, a.debtFeed, systemProgram⟩ : FlagRoster)

/-- Remove a flag. -/
def removeFlag (caller account : Key) : Option ClientCall := do
  let a ← Addresses.derive? program
  let staker ← (Place.staker account).key? program
  let entry ← (Place.entry account).key? program
  return make program .removeFlag
    (⟨caller, a.config, a.shareRegistry, a.liquidationBook, entry, staker, a.collateralFeed,
      a.debtFeed⟩ : RemoveRoster)

/-- The accounts of a liquidation of an account. -/
def liquidationRoster (signer account : Key) : Option LiquidationRoster := do
  let a ← Addresses.derive? program
  let staker ← (Place.staker account).key? program
  let entry ← (Place.entry account).key? program
  return ⟨signer, a.config, a.statusBoard, a.periodLedger, a.shareRegistry, a.rewardPool,
    a.liquidationBook, entry, staker, a.collateralFeed, a.debtFeed⟩

/-- Liquidate a flagged account. -/
def liquidateAccount (liquidator account collateralVault flaggerDestination
    liquidatorDestination : Key) : Option ClientCall := do
  let a ← Addresses.derive? program
  let common ← liquidationRoster program liquidator account
  return make program .liquidateAccount
    (⟨common, collateralVault, flaggerDestination, liquidatorDestination, a.vaultAuthority,
      tokenProgram⟩ : DelinquentRoster)

/-- Liquidate one's own account. -/
def liquidateSelf (owner : Key) : Option ClientCall := do
  let roster ← liquidationRoster program owner owner
  return make program .liquidateSelf roster

/-- Take what the reward pool owes. -/
def takeReward (owner collateralVault destination : Key) : Option ClientCall := do
  let a ← Addresses.derive? program
  let staker ← (Place.staker owner).key? program
  return make program .takeReward
    (⟨owner, a.config, a.statusBoard, a.rewardPool, staker, collateralVault, destination,
      a.vaultAuthority, tokenProgram⟩ : RewardRoster)

end ClientCall

end FeeTreasury
