import FeeTreasury.Config
import FeeTreasury.PeriodLedger

/-!
# Instructions

Everything that can be asked of the treasury. The accounts that an instruction works on are not part
of it; they are listed beside it (`FeeTreasury.Instruction.Roster`).
-/

namespace FeeTreasury

/-- A request to the treasury. -/
inductive Instruction where
  /-- Create the accounts of which there is one. The first fee period opens with id 1. -/
  | setUp (settings : Settings)
  /-- Change settings. -/
  | updateSettings (update : SettingsUpdate)
  /-- Change roles. -/
  | updateRoles (update : RolesUpdate)
  /-- Suspend or resume a section, given by its number. -/
  | setSuspension (part : UInt8) (suspended : Bool) (reason : UInt16)
  /-- Create the feed of an asset. -/
  | createFeed (asset : AssetKey)
  /-- Submit a rate to a feed. -/
  | submitRate (rate : UInt64)
  /-- Create the account of a staker. -/
  | createStaker
  /-- Report the balance of debt shares of a staker. -/
  | recordShares (shares : UInt64)
  /-- Add fees to the open period. -/
  | recordFee (amount : UInt64)
  /-- Add rewards to the open period. -/
  | recordReward (amount : UInt64)
  /-- Close the open period because its time has passed. -/
  | closePeriod
  /-- Close the open period because the companion ledger has. -/
  | closeSecondary (id : UInt64) (duration : Int64)
  /-- Overwrite a retained period with migrated history. -/
  | importPeriod (index : UInt8) (history : PeriodImport)
  /-- Approve a delegate, or withdraw the approval. -/
  | setApproval (delegate : Key) (canClaim : Bool)
  /-- Claim fees and rewards. -/
  | claimFees
  /-- Claim fees and rewards for somebody else. -/
  | claimOnBehalf
  /-- Put collateral into the vault. -/
  | depositCollateral (amount : UInt64)
  /-- Take collateral out of the vault. -/
  | withdrawCollateral (amount : UInt64)
  /-- Flag an account for liquidation. -/
  | flagAccount
  /-- Remove the flag of an account that is healthy again. -/
  | removeFlag
  /-- Liquidate a flagged account. -/
  | liquidateAccount
  /-- Liquidate one's own account. -/
  | liquidateSelf
  /-- Take what the reward pool owes. -/
  | takeReward
  deriving DecidableEq, Repr

namespace Instruction

/-- The name under which the log mentions an instruction. -/
def name : Instruction → String
  | setUp .. => "InitializeFeePool"
  | updateSettings .. => "UpdateSettings"
  | updateRoles .. => "UpdateRoles"
  | setSuspension .. => "SetSuspension"
  | createFeed .. => "InitializeRateFeed"
  | submitRate .. => "SubmitRate"
  | createStaker => "InitializeStaker"
  | recordShares .. => "RecordDebtShareChange"
  | recordFee .. => "RecordFee"
  | recordReward .. => "RecordReward"
  | closePeriod => "CloseCurrentPeriod"
  | closeSecondary .. => "CloseSecondary"
  | importPeriod .. => "ImportFeePeriod"
  | setApproval .. => "SetDelegateApproval"
  | claimFees => "ClaimFees"
  | claimOnBehalf => "ClaimOnBehalf"
  | depositCollateral .. => "DepositCollateral"
  | withdrawCollateral .. => "WithdrawCollateral"
  | flagAccount => "FlagAccountForLiquidation"
  | removeFlag => "RemoveAccountInLiquidation"
  | liquidateAccount => "LiquidateDelinquentAccount"
  | liquidateSelf => "LiquidateSelf"
  | takeReward => "GetReward"

end Instruction

end FeeTreasury
