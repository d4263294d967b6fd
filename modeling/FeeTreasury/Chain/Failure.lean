import FeeTreasury.Outcome
import FeeTreasury.Wire.Codec

/-!
# Failures of a call

A call of the program fails for one cause: a refusal of the treasury's own rules, a failure of the
system program or the token program that it calls, or a fault of the accounts and bytes it was
given. The chain shows the first three kinds as numbers only. The numbers overlap: 4 is an address
that does not match as well as a token account of another owner.
-/

namespace FeeTreasury

/-- Why the token program turns a transfer down. -/
inductive TokenFailure where
  | insufficientFunds
  | mintMismatch
  | ownerMismatch
  | overflow
  | frozen
  deriving DecidableEq, Repr

namespace TokenFailure

/-- The number that the token program gives. -/
def code : TokenFailure → Nat
  | insufficientFunds => 1
  | mintMismatch => 3
  | ownerMismatch => 4
  | overflow => 14
  | frozen => 17

end TokenFailure

/-- Why a call fails. -/
inductive Failure where
  /-- The treasury's rules turned it down. -/
  | refused (reason : Refusal)
  /-- The account to create belongs to a program already. -/
  | accountInUse
  /-- A transfer was turned down. -/
  | token (cause : TokenFailure)
  /-- The bytes do not name an instruction. -/
  | invalidInstructionData
  /-- The bytes of an instruction do not hold what it needs. -/
  | malformed (cause : DecodeError)
  /-- The data of an account cannot be read. -/
  | invalidAccountData
  /-- The data of an account has no room for what is written. -/
  | accountDataTooSmall
  /-- An account or a program is not the expected program's. -/
  | incorrectProgramId
  /-- Somebody has to sign who did not. -/
  | missingSignature
  /-- A token account was not set up. -/
  | uninitializedAccount
  /-- There are fewer accounts than the instruction takes. -/
  | notEnoughAccounts
  /-- Plain arithmetic left its width, or no address exists for some seeds. -/
  | aborted
  deriving DecidableEq, Repr

namespace Failure

/-- The number of a failure that the chain shows as a number. -/
def code? : Failure → Option Nat
  | refused reason => some reason.code
  | accountInUse => some 0
  | token cause => some cause.code
  | _ => none

/-- The name of a failure. All that the chain shows as numbers share one. -/
def name : Failure → String
  | refused _ | accountInUse | token _ => "Custom"
  | invalidInstructionData => "InvalidInstructionData"
  | malformed _ => "BorshIoError"
  | invalidAccountData => "InvalidAccountData"
  | accountDataTooSmall => "AccountDataTooSmall"
  | incorrectProgramId => "IncorrectProgramId"
  | missingSignature => "MissingRequiredSignature"
  | uninitializedAccount => "UninitializedAccount"
  | notEnoughAccounts => "NotEnoughAccountKeys"
  | aborted => "panic"

/-- What a failure tells the caller. -/
def message : Failure → String
  | refused reason => custom reason.code
  | accountInUse => custom 0
  | token cause => custom cause.code
  | invalidInstructionData => "An instruction's data contents was invalid"
  | malformed cause => "IO Error: " ++ cause.message
  | invalidAccountData => "An account's data contents was invalid"
  | accountDataTooSmall => "An account's data was too small"
  | incorrectProgramId => "The account did not have the expected program id"
  | missingSignature => "A signature was required but not found"
  | uninitializedAccount => "An attempt to operate on an account that hasn't been initialized"
  | notEnoughAccounts => "The instruction expected additional account keys"
  | aborted => ""
where
  /-- The text for a number, which is written to base sixteen. -/
  custom (n : Nat) : String :=
    "Custom program error: 0x" ++ String.ofList (Nat.toDigits 16 n)

/-- How a fault of a rule ends a call. -/
def ofFault : Fault → Failure
  | .refused reason => refused reason
  | .aborted => aborted

end Failure

end FeeTreasury
