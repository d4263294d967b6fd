import FeeTreasury.Instruction.Call
import FeeTreasury.Program.Claims
import FeeTreasury.Program.Liquidations
import FeeTreasury.Program.Periods

/-!
# The program

The program reads an instruction, names it in the log, gives the listed accounts their places in the
instruction's roster, and does what it asks. A call that fails changes no account.
-/

namespace FeeTreasury.Program

open Exec

/-- Do something with a roster, if there are enough accounts for it. -/
def withRoster {α : Type} [Roster α] (keys : List Key) (work : α → Exec Unit) : Exec Unit :=
  match Roster.ofKeys? keys with
  | some roster => work roster
  | none => throw .notEnoughAccounts

/-- Do what an instruction asks, with the listed accounts. -/
def perform (env : Env) (keys : List Key) : Instruction → Exec Unit
  | .setUp settings => withRoster keys fun r => setUp env r settings
  | .updateSettings update => withRoster keys fun r => updateSettings env r update
  | .updateRoles update => withRoster keys fun r => updateRoles env r update
  | .setSuspension part suspended reason =>
    withRoster keys fun r => setSuspension env r part suspended reason
  | .createFeed asset => withRoster keys fun r => createFeed env r asset
  | .submitRate rate => withRoster keys fun r => submitRate env r rate
  | .createStaker => withRoster keys fun r => createStaker env r
  | .recordShares shares => withRoster keys fun r => recordShares env r shares
  | .recordFee amount =>
    withRoster keys fun r => recordIncome env r fun ledger => ledger.recordFee amount
  | .recordReward amount =>
    withRoster keys fun r => recordIncome env r fun ledger => ledger.recordReward amount
  | .closePeriod => withRoster keys fun r => closePeriod env r
  | .closeSecondary id duration => withRoster keys fun r => closeSecondary env r id duration
  | .importPeriod index history => withRoster keys fun r => importPeriod env r index history
  | .setApproval delegate canClaim =>
    withRoster keys fun r => setApproval env r delegate canClaim
  | .claimFees => claimFees env keys
  | .claimOnBehalf => claimOnBehalf env keys
  | .depositCollateral amount => withRoster keys fun r => depositCollateral env r amount
  | .withdrawCollateral amount => withRoster keys fun r => withdrawCollateral env r amount
  | .flagAccount => withRoster keys fun r => flagAccount env r
  | .removeFlag => withRoster keys fun r => removeFlag env r
  | .liquidateAccount => withRoster keys fun r => liquidateAccount env r
  | .liquidateSelf => withRoster keys fun r => liquidateSelf env r
  | .takeReward => withRoster keys fun r => takeReward env r

/-- Read an instruction and do what it asks. -/
def process (env : Env) (keys : List Key) (data : Bytes) : Exec Unit := do
  match Instruction.unpack data with
  | .error failure => throw failure
  | .ok instruction =>
    say ("Instruction: " ++ instruction.name)
    perform env keys instruction

end FeeTreasury.Program

namespace FeeTreasury

/-- What a call of the program shows: whether it failed, the accounts after it, its lines in the log
and the calls it made. -/
structure Report where
  failure : Option Failure
  accounts : Accounts
  log : List String
  calls : List OutsideCall

namespace ClientCall

/-- Those who sign a call. -/
def signers (call : ClientCall) : List Key :=
  (call.accounts.filter Listed.signer).map Listed.key

/-- Run a call on the accounts of the chain at a time. If it fails, they stay as they were. -/
def run (call : ClientCall) (accounts : Accounts) (now : Int64) : Report :=
  let env : Env := ⟨call.program, now, call.signers⟩
  let keys := call.accounts.map Listed.key
  match (Program.process env keys call.data).run (Run.start accounts) with
  | .ok _ run => ⟨none, run.accounts, run.log, run.calls⟩
  | .error failure run => ⟨some failure, accounts, run.log, run.calls⟩

end ClientCall

end FeeTreasury
