import FeeTreasury.Chain.Address
import FeeTreasury.Chain.Token
import FeeTreasury.Event
import FeeTreasury.RateFeed
import FeeTreasury.Wire.Stored

/-!
# Runs of the program

A run works on the accounts of the chain, writes lines to the log, and calls the system program and
the token program. It ends with a result or with a failure; the lines and calls up to the failure
are known in both cases, and whoever starts the run drops its writes if it fails.

This module holds what the instructions have in common: to load and store accounts of the treasury,
to check signers, addresses and token accounts, to create accounts and to move tokens.
-/

namespace FeeTreasury

/-- What the program asks of the programs that it calls. -/
inductive OutsideCall where
  | createAccount (payer target : Key) (lamports space : Nat) (owner : Key)
  | transfer (source destination authority : Key) (amount : UInt64)
  deriving DecidableEq, Repr

/-- What a run can rely on: the key of the program, the time, and who signed the call. -/
structure Env where
  program : Key
  now : Int64
  signers : List Key

/-- What a run has done so far. -/
structure Run where
  accounts : Accounts
  log : List String
  calls : List OutsideCall

namespace Run

/-- A run that has done nothing yet. -/
def start (accounts : Accounts) : Run := ⟨accounts, [], []⟩

end Run

/-- A part of a run. -/
abbrev Exec := EStateM Failure Run

namespace Exec

/-- Write a line to the log. -/
def say (line : String) : Exec Unit :=
  modify fun run => { run with log := run.log ++ [line] }

/-- Write an event to the log. -/
def emit (event : Event) : Exec Unit :=
  modify fun run => { run with log := run.log ++ event.lines }

/-- Note a call. -/
def note (call : OutsideCall) : Exec Unit :=
  modify fun run => { run with calls := run.calls ++ [call] }

/-- Follow a rule of the treasury. -/
def rule {α : Type} (outcome : Outcome α) : Exec α :=
  match outcome with
  | .ok value => pure value
  | .error fault => throw (Failure.ofFault fault)

/-- Turn the call down. -/
def refuse {α : Type} (reason : Refusal) : Exec α := throw (.refused reason)

/-- Go on only if a condition holds. -/
def check (condition : Bool) (failure : Failure) : Exec Unit :=
  if condition then pure () else throw failure

/-- The account of a key. -/
def account (key : Key) : Exec Account := do
  return (← get).accounts.get key

/-- Replace the account of a key. -/
def setAccount (key : Key) (account : Account) : Exec Unit :=
  modify fun run => { run with accounts := run.accounts.set key account }

/-- Read an account of the treasury. It has to belong to the program, hold a value of the type, and
have the header of the type. -/
def load {α : Type} [Stored α] (env : Env) (key : Key) : Exec α := do
  let account ← account key
  check (account.owner = env.program) .incorrectProgramId
  match (Stored.codec : Codec α).decode? account.data with
  | none => throw .invalidAccountData
  | some value =>
    rule (Stored.validate value)
    return value

/-- Write an account of the treasury over the front of the data. -/
def store {α : Type} [Stored α] (key : Key) (value : α) : Exec Unit := do
  match (← account key).overwrite? (Stored.codec.encode value) with
  | none => throw .accountDataTooSmall
  | some account => setAccount key account

/-- Whoever is named has to have signed. -/
def requireSigner (env : Env) (key : Key) : Exec Unit :=
  check (env.signers.contains key) .missingSignature

/-- The bump of a place, if a key is its address. -/
def checkPlace (env : Env) (place : Place) (key : Key) : Exec UInt8 := do
  match place.address? env.program with
  | none => throw .aborted
  | some address =>
    check (address.key = key) (.refused .invalidAddress)
    return address.bump

/-- What an account of some length has to hold so that it stays. -/
def rent (space : Nat) : Nat := (128 + space) * 6960

/-- Create an account of the program. An account with data exists already. -/
def create (env : Env) (payer target : Key) (space : Nat) : Exec Unit := do
  check (← account target).data.isEmpty (.refused .alreadyInitialized)
  note (.createAccount payer target (rent space) space env.program)
  check ((← account target).owner = systemProgram) .accountInUse
  setAccount target ⟨env.program, List.replicate space 0⟩

/-- Read the account of a staker, which has to be the owner's. -/
def loadStakerOf (env : Env) (key owner : Key) : Exec Staker := do
  let staker : Staker ← load env key
  check (staker.owner = owner) (.refused .stakerOwnerMismatch)
  return staker

/-- Read the liquidation entry of an account. An entry that was never created is closed. -/
def loadEntry (env : Env) (key account : Key) : Exec LiquidationEntry := do
  let bump ← checkPlace env (.entry account) key
  if (← Exec.account key).data.isEmpty then
    return LiquidationEntry.new account bump
  load env key

/-- Read the feeds, and see them at the time of the run. -/
def loadOracle (env : Env) (settings : Settings) (collateralFeed debtFeed : Key) : Exec Oracle := do
  let collateral : RateFeed ← load env collateralFeed
  let totalDebt : RateFeed ← load env debtFeed
  return Oracle.new collateral totalDebt settings env.now

/-- A token account has to belong to an owner. -/
def requireTokenOwner (key owner : Key) : Exec Unit := do
  let account ← account key
  check (account.owner = tokenProgram) (.refused .tokenAccountMismatch)
  match TokenAccount.read account.data with
  | .error failure => throw failure
  | .ok token => check (token.owner = owner) (.refused .tokenAccountMismatch)

/-- A vault has to be the expected one. -/
def requireVault (key expected : Key) : Exec Unit :=
  check (key = expected) (.refused .tokenAccountMismatch)

/-- The token program has to be the real one. -/
def requireTokenProgram (key : Key) : Exec Unit :=
  check (key = tokenProgram) .incorrectProgramId

/-- The owner of the vaults has to be the one that the configuration knows. -/
def checkVaultAuthority (env : Env) (config : Config) (key : Key) : Exec Unit :=
  check
    (Address.derive? (Place.vaultAuthority.seeds ++ [[config.vaultAuthorityBump]]) env.program =
      some key)
    (.refused .invalidAddress)

/-- Move tokens. -/
def transfer (source destination authority : Key) (amount : UInt64) : Exec Unit := do
  note (.transfer source destination authority amount)
  match (← get).accounts.transfer source destination authority amount with
  | .error failure => throw failure
  | .ok accounts => modify fun run => { run with accounts }

/-- Move tokens out of a vault. Nothing is moved if the amount is nothing. -/
def payFrom (vault destination vaultAuthority : Key) (amount : UInt64) : Exec Unit := do
  if amount ≠ 0 then
    transfer vault destination vaultAuthority amount

end Exec

end FeeTreasury
