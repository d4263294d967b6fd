import FeeTreasury.Section

/-!
# Reasons to refuse

Every rule of the treasury that can turn a request down has one reason here. A reason has a number,
under which callers see it, a message, and a broad class for callers that react to the class alone.
No two reasons share a number (`Refusal.ofCode?_code`).
-/

namespace FeeTreasury

/-- Broad class of a refusal. -/
inductive RefusalKind where
  /-- A required setting is unset or out of range. -/
  | configuration
  /-- The section concerned is suspended. -/
  | suspension
  /-- A rate or the debt snapshot is too old, or a period id is out of date. -/
  | staleness
  /-- The caller lacks the role or the approval. -/
  | authorization
  /-- The request is well formed, but the state does not admit it. -/
  | precondition
  /-- Arithmetic or bookkeeping would break an invariant. -/
  | invariantViolation
  deriving DecidableEq, Repr

namespace RefusalKind

/-- The name of a class. -/
def name : RefusalKind → String
  | configuration => "Configuration"
  | suspension => "Suspension"
  | staleness => "Staleness"
  | authorization => "Authorization"
  | precondition => "Precondition"
  | invariantViolation => "InvariantViolation"

end RefusalKind

/-- Why a request is turned down. -/
inductive Refusal where
  | invalidInstruction
  | notInitialized
  | alreadyInitialized
  | invalidDiscriminator
  | invalidAddress
  | invalidAuthority
  | periodDurationNotSet
  | issuanceRatioNotSet
  | liquidationRatioNotSet
  | invalidSettings
  | unknownSection
  | suspended (part : Section)
  | collateralRateStale
  | debtSnapshotStale
  | periodIdMismatch
  | notRelayer
  | notIssuer
  | notFeeRecorder
  | notOracleAuthority
  | notApprovedToClaim
  | setupWindowClosed
  | tokenAccountMismatch
  | stakerOwnerMismatch
  | periodNotElapsed
  | nothingToClaim
  | ratioAboveClaimLimit
  | alreadyFlagged
  | belowLiquidationRatio
  | notFlagged
  | deadlineNotPassed
  | accountHealthy
  | invalidPeriodIndex
  | insufficientCollateral
  | withdrawalBreachesRatio
  | accountFlagged
  | zeroAmount
  | arithmeticOverflow
  | divisionByZero
  | claimExceedsDistributable
  | shareTotalMismatch
  | rewardPoolInsufficient
  deriving DecidableEq, Repr

namespace Refusal

/-- Every refusal once, by rising number. -/
def all : List Refusal :=
  [invalidInstruction, notInitialized, alreadyInitialized, invalidDiscriminator, invalidAddress,
    invalidAuthority, periodDurationNotSet, issuanceRatioNotSet, liquidationRatioNotSet,
    invalidSettings, unknownSection, suspended .system, suspended .issuance, suspended .exchange,
    suspended .synth, collateralRateStale, debtSnapshotStale, periodIdMismatch, notRelayer,
    notIssuer, notFeeRecorder, notOracleAuthority, notApprovedToClaim, setupWindowClosed,
    tokenAccountMismatch, stakerOwnerMismatch, periodNotElapsed, nothingToClaim,
    ratioAboveClaimLimit, alreadyFlagged, belowLiquidationRatio, notFlagged, deadlineNotPassed,
    accountHealthy, invalidPeriodIndex, insufficientCollateral, withdrawalBreachesRatio,
    accountFlagged, zeroAmount, arithmeticOverflow, divisionByZero, claimExceedsDistributable,
    shareTotalMismatch, rewardPoolInsufficient]

/-- The number under which callers see a refusal. -/
def code : Refusal → Nat
  | invalidInstruction => 0
  | notInitialized => 1
  | alreadyInitialized => 2
  | invalidDiscriminator => 3
  | invalidAddress => 4
  | invalidAuthority => 5
  | periodDurationNotSet => 10
  | issuanceRatioNotSet => 11
  | liquidationRatioNotSet => 12
  | invalidSettings => 13
  | unknownSection => 14
  | suspended part => 20 + part.index
  | collateralRateStale => 30
  | debtSnapshotStale => 31
  | periodIdMismatch => 32
  | notRelayer => 40
  | notIssuer => 41
  | notFeeRecorder => 42
  | notOracleAuthority => 43
  | notApprovedToClaim => 44
  | setupWindowClosed => 45
  | tokenAccountMismatch => 46
  | stakerOwnerMismatch => 47
  | periodNotElapsed => 50
  | nothingToClaim => 51
  | ratioAboveClaimLimit => 52
  | alreadyFlagged => 53
  | belowLiquidationRatio => 54
  | notFlagged => 55
  | deadlineNotPassed => 56
  | accountHealthy => 58
  | invalidPeriodIndex => 60
  | insufficientCollateral => 61
  | withdrawalBreachesRatio => 62
  | accountFlagged => 63
  | zeroAmount => 64
  | arithmeticOverflow => 70
  | divisionByZero => 71
  | claimExceedsDistributable => 72
  | shareTotalMismatch => 73
  | rewardPoolInsufficient => 74

/-- The refusal with a given number, if there is one. -/
def ofCode? (n : Nat) : Option Refusal :=
  all.find? fun reason => reason.code == n

/-- The class of a refusal. -/
def kind : Refusal → RefusalKind
  | periodDurationNotSet | issuanceRatioNotSet | liquidationRatioNotSet | invalidSettings
  | unknownSection => .configuration
  | suspended _ => .suspension
  | collateralRateStale | debtSnapshotStale | periodIdMismatch => .staleness
  | invalidAuthority | notRelayer | notIssuer | notFeeRecorder | notOracleAuthority
  | notApprovedToClaim | setupWindowClosed | tokenAccountMismatch
  | stakerOwnerMismatch => .authorization
  | arithmeticOverflow | divisionByZero | claimExceedsDistributable | shareTotalMismatch
  | rewardPoolInsufficient => .invariantViolation
  | _ => .precondition

/-- The name under which clients list a refusal. -/
def name : Refusal → String
  | invalidInstruction => "InvalidInstruction"
  | notInitialized => "NotInitialized"
  | alreadyInitialized => "AlreadyInitialized"
  | invalidDiscriminator => "InvalidDiscriminator"
  | invalidAddress => "InvalidPDA"
  | invalidAuthority => "InvalidAuthority"
  | periodDurationNotSet => "FeePeriodDurationNotSet"
  | issuanceRatioNotSet => "IssuanceRatioNotSet"
  | liquidationRatioNotSet => "LiquidationRatioNotSet"
  | invalidSettings => "InvalidSettings"
  | unknownSection => "UnknownSection"
  | suspended part => part.name ++ "Suspended"
  | collateralRateStale => "CollateralRateStale"
  | debtSnapshotStale => "DebtSnapshotStale"
  | periodIdMismatch => "FeePeriodIdMismatch"
  | notRelayer => "NotRelayer"
  | notIssuer => "NotIssuer"
  | notFeeRecorder => "NotFeeRecorder"
  | notOracleAuthority => "NotOracleAuthority"
  | notApprovedToClaim => "NotApprovedToClaim"
  | setupWindowClosed => "SetupWindowClosed"
  | tokenAccountMismatch => "TokenAccountMismatch"
  | stakerOwnerMismatch => "StakerOwnerMismatch"
  | periodNotElapsed => "FeePeriodNotElapsed"
  | nothingToClaim => "NothingToClaim"
  | ratioAboveClaimLimit => "CRatioBelowPenaltyThreshold"
  | alreadyFlagged => "AccountAlreadyFlagged"
  | belowLiquidationRatio => "BelowLiquidationRatio"
  | notFlagged => "AccountNotFlagged"
  | deadlineNotPassed => "LiquidationDeadlineNotPassed"
  | accountHealthy => "AccountHealthy"
  | invalidPeriodIndex => "InvalidPeriodIndex"
  | insufficientCollateral => "InsufficientCollateral"
  | withdrawalBreachesRatio => "WithdrawalBreachesIssuanceRatio"
  | accountFlagged => "AccountFlagged"
  | zeroAmount => "ZeroAmount"
  | arithmeticOverflow => "ArithmeticOverflow"
  | divisionByZero => "DivisionByZero"
  | claimExceedsDistributable => "ClaimExceedsDistributable"
  | shareTotalMismatch => "DebtShareTotalMismatch"
  | rewardPoolInsufficient => "RewardPoolInsufficient"

/-- What a refusal tells the caller. -/
def message : Refusal → String
  | invalidInstruction => "Invalid instruction"
  | notInitialized => "Account not initialized"
  | alreadyInitialized => "Account already initialized"
  | invalidDiscriminator => "Invalid account discriminator"
  | invalidAddress => "Invalid PDA"
  | invalidAuthority => "Invalid authority"
  | periodDurationNotSet => "Fee period duration not set"
  | issuanceRatioNotSet => "Issuance ratio not set"
  | liquidationRatioNotSet => "Liquidation ratio not set"
  | invalidSettings => "Invalid settings"
  | unknownSection => "Unknown system section"
  | suspended .system => "Operation prohibited: system suspended"
  | suspended .issuance => "Operation prohibited: issuance suspended"
  | suspended .exchange => "Operation prohibited: exchange suspended"
  | suspended .synth => "Operation prohibited: synth suspended"
  | collateralRateStale => "Collateral rate is stale or invalid"
  | debtSnapshotStale => "Debt snapshot is stale or invalid"
  | periodIdMismatch => "Fee period id does not match the open period"
  | notRelayer => "Caller is not the relayer"
  | notIssuer => "Caller is not the debt share issuer"
  | notFeeRecorder => "Caller is not the fee recorder"
  | notOracleAuthority => "Caller is not the oracle authority"
  | notApprovedToClaim => "Not approved to claim on behalf"
  | setupWindowClosed => "Can only perform this action during setup"
  | tokenAccountMismatch => "Token account does not match"
  | stakerOwnerMismatch => "Staker account does not belong to signer"
  | periodNotElapsed => "Too early to close fee period"
  | nothingToClaim => "No fees or rewards available for period, or fees already claimed"
  | ratioAboveClaimLimit => "C-Ratio below penalty threshold"
  | alreadyFlagged => "Account already flagged for liquidation"
  | belowLiquidationRatio => "Account issuance ratio is less than liquidation ratio"
  | notFlagged => "Account has no liquidation set"
  | deadlineNotPassed => "Liquidation deadline has not passed"
  | accountHealthy => "Account is healthy, nothing to liquidate"
  | invalidPeriodIndex => "Fee period index out of range"
  | insufficientCollateral => "Insufficient collateral"
  | withdrawalBreachesRatio => "Withdrawal would breach issuance ratio"
  | accountFlagged => "Account is flagged for liquidation"
  | zeroAmount => "Amount must be greater than zero"
  | arithmeticOverflow => "Arithmetic overflow"
  | divisionByZero => "Division by zero"
  | claimExceedsDistributable => "Claim exceeds distributable amount"
  | shareTotalMismatch => "Debt share total out of sync"
  | rewardPoolInsufficient => "Reward pool balance insufficient"

/-- The log line that reports a refusal. -/
def logLine (reason : Refusal) : String :=
  "FeePoolError: " ++ reason.message

/-- A refusal is found again by its number. -/
theorem ofCode?_code (reason : Refusal) : ofCode? reason.code = some reason := by
  cases reason with
  | suspended part => cases part <;> rfl
  | _ => rfl

/-- Two refusals with one number are the same refusal. -/
theorem code_inj {a b : Refusal} (same : a.code = b.code) : a = b := by
  have found := ofCode?_code a
  rw [same, ofCode?_code] at found
  exact (Option.some.inj found).symm

end Refusal

end FeeTreasury
