import FeeTreasury.Proofs.Program.Consent
import FeeTreasury.Proofs.Program.Rosters
import FeeTreasury.Proofs.Wire.Instruction

/-!
# Clients and the program agree

The two sides of a call know the accounts of an instruction apart from each other: a client lists
them, with those that sign and those that may be written, and the program gives them their places
and works on them. A request is one of the calls that a client can build, with whatever it says
itself (`FeeTreasury.Request`). Whatever it says, the call is read as the instruction that it asks
for, with the same parameters. Whatever the accounts hold, the program stores to, creates, and moves
tokens between accounts only that the call lists as writable. And on accounts that the program has
come to, it never finds that the list is too short, that a signature is missing, or that an account
does not lie at its address (`FeeTreasury.Request.agrees_with_program`).
-/

namespace FeeTreasury

/-! ## Requests -/

/-- What a client can ask for, with what it has to say. -/
inductive Request where
  | setUp (authority : Key) (vaults : Vaults) (settings : Settings)
  | updateSettings (authority : Key) (update : SettingsUpdate)
  | updateRoles (authority : Key) (update : RolesUpdate)
  | setSuspension (authority : Key) (part : UInt8) (suspended : Bool) (reason : UInt16)
  | createFeed (authority : Key) (asset : AssetKey)
  | submitRate (oracleAuthority : Key) (asset : AssetKey) (rate : UInt64)
  | createStaker (payer owner : Key)
  | recordShares (issuer owner : Key) (shares : UInt64)
  | recordFee (feeRecorder : Key) (amount : UInt64)
  | recordReward (feeRecorder : Key) (amount : UInt64)
  | closePeriod (caller : Key)
  | closeSecondary (relayer : Key) (id : UInt64) (duration : Int64)
  | importPeriod (authority : Key) (index : UInt8) (history : PeriodImport)
  | setApproval (authoriser delegate : Key) (canClaim : Bool)
  | claimFees (claimant : Key) (tokens : ClaimTokens)
  | claimOnBehalf (delegate authoriser : Key) (tokens : ClaimTokens)
  | depositCollateral (owner source collateralVault : Key) (amount : UInt64)
  | withdrawCollateral (owner collateralVault destination : Key) (amount : UInt64)
  | flagAccount (flagger account : Key)
  | removeFlag (caller account : Key)
  | liquidateAccount (liquidator account collateralVault flaggerDestination
      liquidatorDestination : Key)
  | liquidateSelf (owner : Key)
  | takeReward (owner collateralVault destination : Key)

/-- The places whose addresses every client looks up: those of which there is one, and the feeds. -/
def Addresses.places : List Place :=
  [.config, .statusBoard, .periodLedger, .shareRegistry, .rewardPool, .liquidationBook,
    .vaultAuthority, .feed .collateral, .feed .totalDebt]

namespace Request

/-- The call that a client builds. -/
def build? (program : Key) : Request → Option ClientCall
  | setUp authority vaults settings => ClientCall.setUp program authority vaults settings
  | updateSettings authority update => ClientCall.updateSettings program authority update
  | updateRoles authority update => ClientCall.updateRoles program authority update
  | setSuspension authority part suspended reason =>
    ClientCall.setSuspension program authority part suspended reason
  | createFeed authority asset => ClientCall.createFeed program authority asset
  | submitRate oracleAuthority asset rate =>
    ClientCall.submitRate program oracleAuthority asset rate
  | createStaker payer owner => ClientCall.createStaker program payer owner
  | recordShares issuer owner shares => ClientCall.recordShares program issuer owner shares
  | recordFee feeRecorder amount => ClientCall.recordFee program feeRecorder amount
  | recordReward feeRecorder amount => ClientCall.recordReward program feeRecorder amount
  | closePeriod caller => ClientCall.closePeriod program caller
  | closeSecondary relayer id duration => ClientCall.closeSecondary program relayer id duration
  | importPeriod authority index history => ClientCall.importPeriod program authority index history
  | setApproval authoriser delegate canClaim =>
    ClientCall.setApproval program authoriser delegate canClaim
  | claimFees claimant tokens => ClientCall.claimFees program claimant tokens
  | claimOnBehalf delegate authoriser tokens =>
    ClientCall.claimOnBehalf program delegate authoriser tokens
  | depositCollateral owner source collateralVault amount =>
    ClientCall.depositCollateral program owner source collateralVault amount
  | withdrawCollateral owner collateralVault destination amount =>
    ClientCall.withdrawCollateral program owner collateralVault destination amount
  | flagAccount flagger account => ClientCall.flagAccount program flagger account
  | removeFlag caller account => ClientCall.removeFlag program caller account
  | liquidateAccount liquidator account collateralVault flaggerDestination liquidatorDestination =>
    ClientCall.liquidateAccount program liquidator account collateralVault flaggerDestination
      liquidatorDestination
  | liquidateSelf owner => ClientCall.liquidateSelf program owner
  | takeReward owner collateralVault destination =>
    ClientCall.takeReward program owner collateralVault destination

/-- The instruction that a client means, with its parameters. -/
def instruction : Request → Instruction
  | setUp _ _ settings => .setUp settings
  | updateSettings _ update => .updateSettings update
  | updateRoles _ update => .updateRoles update
  | setSuspension _ part suspended reason => .setSuspension part suspended reason
  | createFeed _ asset => .createFeed asset
  | submitRate _ _ rate => .submitRate rate
  | createStaker _ _ => .createStaker
  | recordShares _ _ shares => .recordShares shares
  | recordFee _ amount => .recordFee amount
  | recordReward _ amount => .recordReward amount
  | closePeriod _ => .closePeriod
  | closeSecondary _ id duration => .closeSecondary id duration
  | importPeriod _ index history => .importPeriod index history
  | setApproval _ delegate canClaim => .setApproval delegate canClaim
  | claimFees _ _ => .claimFees
  | claimOnBehalf _ _ _ => .claimOnBehalf
  | depositCollateral _ _ _ amount => .depositCollateral amount
  | withdrawCollateral _ _ _ amount => .withdrawCollateral amount
  | flagAccount _ _ => .flagAccount
  | removeFlag _ _ => .removeFlag
  | liquidateAccount _ _ _ _ _ => .liquidateAccount
  | liquidateSelf _ => .liquidateSelf
  | takeReward _ _ _ => .takeReward

/-- The places whose addresses a client has to look up. -/
def places : Request → List Place
  | createFeed _ asset => Addresses.places ++ [.feed asset]
  | submitRate _ asset _ => Addresses.places ++ [.feed asset]
  | createStaker _ owner => Addresses.places ++ [.staker owner]
  | recordShares _ owner _ => Addresses.places ++ [.staker owner]
  | setApproval authoriser delegate _ => [.approval authoriser delegate]
  | claimFees claimant _ => Addresses.places ++ [.staker claimant]
  | claimOnBehalf delegate authoriser _ =>
    .approval authoriser delegate :: (Addresses.places ++ [.staker authoriser])
  | depositCollateral owner _ _ _ => Addresses.places ++ [.staker owner]
  | withdrawCollateral owner _ _ _ => Addresses.places ++ [.staker owner, .entry owner]
  | flagAccount _ account => Addresses.places ++ [.staker account, .entry account]
  | removeFlag _ account => Addresses.places ++ [.staker account, .entry account]
  | liquidateAccount _ account _ _ _ => Addresses.places ++ [.staker account, .entry account]
  | liquidateSelf owner => Addresses.places ++ [.staker owner, .entry owner]
  | takeReward owner _ _ => Addresses.places ++ [.staker owner]
  | _ => Addresses.places

/-- The staker whose account and entry a client lists without the staker being named in the list. -/
def about? : Request → Option Key
  | flagAccount _ account => some account
  | removeFlag _ account => some account
  | liquidateAccount _ account _ _ _ => some account
  | _ => none

end Request

/-! ## Calls that are built -/

/-- A condition that does not look at the value. -/
theorem any_const {α : Type} (x : Option α) (b : Bool) :
    (x.any fun _ => b) = (x.isSome && b) := by
  cases x <;> simp

theorem Addresses.isSome_derive?_iff {program : Key} :
    (derive? program).isSome ↔ ∀ place ∈ places, (place.key? program).isSome := by
  simp only [derive?, places, List.forall_mem_cons, List.not_mem_nil, false_implies, implies_true,
    Option.bind_eq_bind, Option.pure_def, Option.isSome_bind, Option.isSome_some, any_const,
    Bool.and_eq_true, Bool.and_true, and_true]

/-- A client builds a call unless an address does not exist. -/
theorem Request.isSome_build?_iff {request : Request} {program : Key} :
    (request.build? program).isSome ↔ ∀ place ∈ request.places, (place.key? program).isSome := by
  cases request <;>
    simp only [build?, places, ClientCall.setUp, ClientCall.updateSettings, ClientCall.updateRoles,
      ClientCall.setSuspension, ClientCall.createFeed, ClientCall.submitRate,
      ClientCall.createStaker, ClientCall.recordShares, ClientCall.recordFee,
      ClientCall.recordReward, ClientCall.closePeriod, ClientCall.closeSecondary,
      ClientCall.importPeriod, ClientCall.setApproval, ClientCall.claimRoster,
      ClientCall.claimFees, ClientCall.claimOnBehalf, ClientCall.depositCollateral,
      ClientCall.withdrawCollateral, ClientCall.flagAccount, ClientCall.removeFlag,
      ClientCall.liquidationRoster, ClientCall.liquidateAccount, ClientCall.liquidateSelf,
      ClientCall.takeReward, Option.bind_eq_bind, Option.pure_def, Option.isSome_bind,
      Option.isSome_some, any_const, List.forall_mem_append, List.forall_mem_cons,
      List.not_mem_nil, false_implies, implies_true, Bool.and_eq_true, Bool.and_true, and_true,
      and_self_left, ← Addresses.isSome_derive?_iff]

/-- The accounts that a call may write. -/
def ClientCall.writable (call : ClientCall) : List Key :=
  (call.accounts.filter Listed.writable).map Listed.key

/-- The derived addresses are those of their places. -/
structure Addresses.Lie (a : Addresses) (program : Key) : Prop where
  config : Place.config.key? program = some a.config
  statusBoard : Place.statusBoard.key? program = some a.statusBoard
  periodLedger : Place.periodLedger.key? program = some a.periodLedger
  shareRegistry : Place.shareRegistry.key? program = some a.shareRegistry
  rewardPool : Place.rewardPool.key? program = some a.rewardPool
  liquidationBook : Place.liquidationBook.key? program = some a.liquidationBook
  vaultAuthority : Place.vaultAuthority.key? program = some a.vaultAuthority
  collateralFeed : (Place.feed .collateral).key? program = some a.collateralFeed
  debtFeed : (Place.feed .totalDebt).key? program = some a.debtFeed

theorem Addresses.lie_of_derive? {program : Key} {a : Addresses}
    (derived : derive? program = some a) : a.Lie program := by
  simp only [derive?, Option.bind_eq_bind, Option.bind_eq_some_iff, Option.pure_def,
    Option.some.injEq] at derived
  obtain ⟨_, config, _, board, _, ledger, _, registry, _, pool, _, book, _, vaults, _, price, _,
    total, rfl⟩ := derived
  exact ⟨config, board, ledger, registry, pool, book, vaults, price, total⟩

/-- No staker but the account's own lies at the address of the account's: no hash collides there. -/
def Accounts.StakersApart (accounts : Accounts) (program account : Key) : Prop :=
  ∀ (key : Key) (staker : Staker), accounts.held program key = some staker →
    (Place.staker staker.owner).key? program = (Place.staker account).key? program →
      staker.owner = account

/-- Accounts on which a request gives no reason to blame the list. -/
structure Request.Fits (request : Request) (program : Key) (accounts : Accounts) : Prop where
  sound : accounts.Sound program
  accepted : accounts.All program (Config.Accepted program)
  apart : ∀ account ∈ request.about?, accounts.StakersApart program account

section Serving

open Program

variable {program : Key} {run : Run}

/-- The staker account at the address of an account is the account's, and so is its entry. -/
theorem Request.Fits.entryOf {request : Request} {account staker entry : Key}
    (fits : request.Fits program run.accounts) (about : account ∈ request.about?)
    (stakerLies : (Place.staker account).key? program = some staker)
    (entryLies : (Place.entry account).key? program = some entry) :
    run.EntryOf program staker entry := by
  intro value held
  have lies : (Place.staker value.owner).key? program = some staker :=
    ((fits.sound staker).of_record? (Accounts.held_eq_some.mp held)).2.2
  rw [fits.apart account about staker value held (lies.trans stakerLies.symm)]
  exact entryLies

/-- A call asks a program for an instruction: it is the written form of the instruction, and what
the instruction does serves the list, on accounts that fit or else with an excuse. -/
structure ClientCall.Asks (call : ClientCall) (program : Key) (instruction : Instruction)
    (fits : Accounts → Prop) : Prop where
  own : call.program = program
  packed : call.data = instruction.pack
  serves : ∀ {run : Run} {excuse : Prop} {now : Int64}, fits run.accounts ∨ excuse →
    Exec.Serves call.writable excuse
      (perform ⟨program, now, call.signers⟩ (call.accounts.map Listed.key) instruction) run

/-- A call with a roster asks for an instruction that serves the roster. -/
theorem asks_make {α : Type} [Roster α] [LawfulRoster α] {instruction : Instruction} {roster : α}
    {fits : Accounts → Prop} (work : Env → α → Exec Unit)
    (does : ∀ env keys, perform env keys instruction = withRoster keys (work env))
    (serves : ∀ {run : Run} {excuse : Prop} {now : Int64}, fits run.accounts ∨ excuse →
      Exec.Serves (Roster.writable roster) excuse
        (work ⟨program, now, (ClientCall.make program instruction roster).signers⟩ roster) run) :
    (ClientCall.make program instruction roster).Asks program instruction fits := by
  refine ⟨rfl, rfl, fun fit => ?_⟩
  have read : Roster.ofKeys? ((Roster.listing roster).map Listed.key) = some roster :=
    LawfulRoster.ofKeys?_listing roster
  rw [does, withRoster, show (ClientCall.make program instruction roster).accounts =
    Roster.listing roster from rfl, read]
  exact serves fit

/-- **What a client builds** asks for what the client means. -/
theorem Request.asks_of_build? {request : Request} {call : ClientCall}
    (built : request.build? program = some call) :
    call.Asks program request.instruction (request.Fits program) := by
  cases request with
  | setUp authority vaults settings =>
    obtain ⟨a, derived, ⟨⟩⟩ := Option.bind_eq_some_iff.mp built
    refine asks_make (fun env r => Program.setUp env r settings) (fun _ _ => rfl) fun _ => ?_
    have lie := Addresses.lie_of_derive? derived
    exact serves_setUp (.head _) lie.vaultAuthority lie.config lie.statusBoard lie.periodLedger
      lie.shareRegistry lie.rewardPool lie.liquidationBook
  | updateSettings authority update =>
    obtain ⟨_, _, ⟨⟩⟩ := Option.bind_eq_some_iff.mp built
    refine asks_make (fun env r => Program.updateSettings env r update) (fun _ _ => rfl)
      fun _ => ?_
    exact serves_updateSettings (.head _)
  | updateRoles authority update =>
    obtain ⟨_, _, ⟨⟩⟩ := Option.bind_eq_some_iff.mp built
    refine asks_make (fun env r => Program.updateRoles env r update) (fun _ _ => rfl) fun _ => ?_
    exact serves_updateRoles (.head _)
  | setSuspension authority part suspended reason =>
    obtain ⟨_, _, ⟨⟩⟩ := Option.bind_eq_some_iff.mp built
    refine asks_make (fun env r => Program.setSuspension env r part suspended reason)
      (fun _ _ => rfl) fun _ => ?_
    exact serves_setSuspension (.head _)
  | createFeed authority asset =>
    obtain ⟨_, _, built⟩ := Option.bind_eq_some_iff.mp built
    obtain ⟨_, lies, ⟨⟩⟩ := Option.bind_eq_some_iff.mp built
    refine asks_make (fun env r => Program.createFeed env r asset) (fun _ _ => rfl) fun _ => ?_
    exact serves_createFeed (.head _) lies
  | submitRate oracleAuthority asset rate =>
    obtain ⟨_, _, built⟩ := Option.bind_eq_some_iff.mp built
    obtain ⟨_, _, ⟨⟩⟩ := Option.bind_eq_some_iff.mp built
    refine asks_make (fun env r => Program.submitRate env r rate) (fun _ _ => rfl) fun _ => ?_
    exact serves_submitRate (.head _)
  | createStaker payer owner =>
    obtain ⟨_, _, built⟩ := Option.bind_eq_some_iff.mp built
    obtain ⟨_, lies, ⟨⟩⟩ := Option.bind_eq_some_iff.mp built
    refine asks_make (fun env r => Program.createStaker env r) (fun _ _ => rfl) fun _ => ?_
    exact serves_createStaker (.head _) lies
  | recordShares issuer owner shares =>
    obtain ⟨_, _, built⟩ := Option.bind_eq_some_iff.mp built
    obtain ⟨_, _, ⟨⟩⟩ := Option.bind_eq_some_iff.mp built
    refine asks_make (fun env r => Program.recordShares env r shares) (fun _ _ => rfl)
      fun _ => ?_
    exact serves_recordShares (.head _)
  | recordFee feeRecorder amount =>
    obtain ⟨_, _, ⟨⟩⟩ := Option.bind_eq_some_iff.mp built
    refine asks_make (fun env r => recordIncome env r fun ledger => ledger.recordFee amount)
      (fun _ _ => rfl) fun _ => ?_
    exact serves_recordIncome (.head _) (by simp)
  | recordReward feeRecorder amount =>
    obtain ⟨_, _, ⟨⟩⟩ := Option.bind_eq_some_iff.mp built
    refine asks_make (fun env r => recordIncome env r fun ledger => ledger.recordReward amount)
      (fun _ _ => rfl) fun _ => ?_
    exact serves_recordIncome (.head _) (by simp)
  | closePeriod caller =>
    obtain ⟨_, _, ⟨⟩⟩ := Option.bind_eq_some_iff.mp built
    refine asks_make (fun env r => Program.closePeriod env r) (fun _ _ => rfl) fun _ => ?_
    exact serves_closePeriod (.head _)
  | closeSecondary relayer id duration =>
    obtain ⟨_, _, ⟨⟩⟩ := Option.bind_eq_some_iff.mp built
    refine asks_make (fun env r => Program.closeSecondary env r id duration) (fun _ _ => rfl)
      fun _ => ?_
    exact serves_closeSecondary (.head _)
  | importPeriod authority index history =>
    obtain ⟨_, _, ⟨⟩⟩ := Option.bind_eq_some_iff.mp built
    refine asks_make (fun env r => Program.importPeriod env r index history) (fun _ _ => rfl)
      fun _ => ?_
    exact serves_importPeriod (.head _)
  | setApproval authoriser delegate canClaim =>
    obtain ⟨_, lies, ⟨⟩⟩ := Option.bind_eq_some_iff.mp built
    refine asks_make (fun env r => Program.setApproval env r delegate canClaim) (fun _ _ => rfl)
      fun _ => ?_
    exact serves_setApproval (.head _) lies
  | claimFees claimant tokens =>
    obtain ⟨_, common, ⟨⟩⟩ := Option.bind_eq_some_iff.mp built
    obtain ⟨a, derived, common⟩ := Option.bind_eq_some_iff.mp common
    obtain ⟨_, _, ⟨⟩⟩ := Option.bind_eq_some_iff.mp common
    refine ⟨rfl, rfl, fun fits => serves_claimFees (.head _) (fits.imp_left Fits.accepted) ?_⟩
    exact (Addresses.lie_of_derive? derived).vaultAuthority
  | claimOnBehalf delegate authoriser tokens =>
    obtain ⟨_, _, built⟩ := Option.bind_eq_some_iff.mp built
    obtain ⟨_, common, ⟨⟩⟩ := Option.bind_eq_some_iff.mp built
    obtain ⟨a, derived, common⟩ := Option.bind_eq_some_iff.mp common
    obtain ⟨_, _, ⟨⟩⟩ := Option.bind_eq_some_iff.mp common
    refine ⟨rfl, rfl, fun fits => serves_claimOnBehalf (.head _) (fits.imp_left Fits.accepted) ?_⟩
    exact (Addresses.lie_of_derive? derived).vaultAuthority
  | depositCollateral owner source collateralVault amount =>
    obtain ⟨_, _, built⟩ := Option.bind_eq_some_iff.mp built
    obtain ⟨_, _, ⟨⟩⟩ := Option.bind_eq_some_iff.mp built
    refine asks_make (fun env r => Program.depositCollateral env r amount) (fun _ _ => rfl)
      fun _ => ?_
    exact serves_depositCollateral (.head _)
  | withdrawCollateral owner collateralVault destination amount =>
    obtain ⟨a, derived, built⟩ := Option.bind_eq_some_iff.mp built
    obtain ⟨_, _, built⟩ := Option.bind_eq_some_iff.mp built
    obtain ⟨_, lies, ⟨⟩⟩ := Option.bind_eq_some_iff.mp built
    have vaults := (Addresses.lie_of_derive? derived).vaultAuthority
    refine asks_make (fun env r => Program.withdrawCollateral env r amount) (fun _ _ => rfl)
      fun fits => ?_
    exact serves_withdrawCollateral (.head _) (fits.imp_left Fits.accepted) vaults lies
  | flagAccount flagger account =>
    obtain ⟨_, _, built⟩ := Option.bind_eq_some_iff.mp built
    obtain ⟨_, placed, built⟩ := Option.bind_eq_some_iff.mp built
    obtain ⟨_, lies, ⟨⟩⟩ := Option.bind_eq_some_iff.mp built
    refine asks_make (fun env r => Program.flagAccount env r) (fun _ _ => rfl) fun fits => ?_
    have own := fits.imp_left fun fits => fits.entryOf rfl placed lies
    exact serves_flagAccount (.head _) own
  | removeFlag caller account =>
    obtain ⟨_, _, built⟩ := Option.bind_eq_some_iff.mp built
    obtain ⟨_, placed, built⟩ := Option.bind_eq_some_iff.mp built
    obtain ⟨_, lies, ⟨⟩⟩ := Option.bind_eq_some_iff.mp built
    refine asks_make (fun env r => Program.removeFlag env r) (fun _ _ => rfl) fun fits => ?_
    have own := fits.imp_left fun fits => fits.entryOf rfl placed lies
    exact serves_removeFlag (.head _) own
  | liquidateAccount liquidator account collateralVault flaggerDestination liquidatorDestination =>
    obtain ⟨a, derived, built⟩ := Option.bind_eq_some_iff.mp built
    obtain ⟨_, common, ⟨⟩⟩ := Option.bind_eq_some_iff.mp built
    obtain ⟨_, _, common⟩ := Option.bind_eq_some_iff.mp common
    obtain ⟨_, placed, common⟩ := Option.bind_eq_some_iff.mp common
    obtain ⟨_, lies, ⟨⟩⟩ := Option.bind_eq_some_iff.mp common
    have vaults := (Addresses.lie_of_derive? derived).vaultAuthority
    refine asks_make (fun env r => Program.liquidateAccount env r) (fun _ _ => rfl) fun fits => ?_
    have own := fits.imp_left fun fits => fits.entryOf rfl placed lies
    exact serves_liquidateAccount (.head _) (fits.imp_left Fits.accepted) vaults own
  | liquidateSelf owner =>
    obtain ⟨_, common, ⟨⟩⟩ := Option.bind_eq_some_iff.mp built
    obtain ⟨_, _, common⟩ := Option.bind_eq_some_iff.mp common
    obtain ⟨_, _, common⟩ := Option.bind_eq_some_iff.mp common
    obtain ⟨_, lies, ⟨⟩⟩ := Option.bind_eq_some_iff.mp common
    refine asks_make (fun env r => Program.liquidateSelf env r) (fun _ _ => rfl) fun _ => ?_
    exact serves_liquidateSelf (.head _) lies
  | takeReward owner collateralVault destination =>
    obtain ⟨a, derived, built⟩ := Option.bind_eq_some_iff.mp built
    obtain ⟨_, _, ⟨⟩⟩ := Option.bind_eq_some_iff.mp built
    have vaults := (Addresses.lie_of_derive? derived).vaultAuthority
    refine asks_make (fun env r => Program.takeReward env r) (fun _ _ => rfl) fun fits => ?_
    exact serves_takeReward (.head _) (fits.imp_left Fits.accepted) vaults

end Serving

/-! ## What a call does -/

namespace ClientCall

variable {call : ClientCall} {accounts : Accounts} {now : Int64} {after : Run} {excuse : Prop}

/-- What the program does for a call. -/
def work (call : ClientCall) (now : Int64) : Exec Unit :=
  Program.process ⟨call.program, now, call.signers⟩ (call.accounts.map Listed.key) call.data

theorem run_of_ok {u : Unit} (ended : call.work now (Run.start accounts) = .ok u after) :
    call.run accounts now = ⟨none, after.accounts, after.log, after.calls⟩ := by
  rw [work] at ended
  simp only [run, EStateM.run, ended]

theorem run_of_error {failure : Failure}
    (ended : call.work now (Run.start accounts) = .error failure after) :
    call.run accounts now = ⟨some failure, accounts, after.log, after.calls⟩ := by
  rw [work] at ended
  simp only [run, EStateM.run, ended]

/-- The program serves a call if it serves the instruction that it reads. -/
theorem serves_work {instruction : Instruction}
    (read : Instruction.unpack call.data = .ok instruction)
    (serves : ∀ begun : Run, begun.accounts = accounts →
      Exec.Serves call.writable excuse (Program.perform ⟨call.program, now, call.signers⟩
        (call.accounts.map Listed.key) instruction) begun) :
    Exec.Serves call.writable excuse (call.work now) (Run.start accounts) := by
  rw [work, Program.process, read]
  refine .bind .say fun _ begun said => serves begun ?_
  obtain rfl := Stateful.modify_eq_ok.mp said
  rfl

/-- What the program does for a call serves the accounts that the call may write. So, whether it
fails or not, all other accounts stay as they were, and no other one is named to the programs that
it calls. -/
structure WritesAsListed (call : ClientCall) (accounts : Accounts) (now : Int64) : Prop where
  serves : Exec.Serves call.writable True (call.work now) (Run.start accounts)
  kept : ∀ key ∉ call.writable, (call.run accounts now).accounts.get key = accounts.get key
  named : ∀ outside ∈ (call.run accounts now).calls, outside.ends ⊆ call.writable

theorem writesAsListed_of_serves
    (serves : Exec.Serves call.writable True (call.work now) (Run.start accounts)) :
    call.WritesAsListed accounts now := by
  obtain ⟨kept, made, calls, within⟩ := serves.behaves.confined
  cases ended : call.work now (Run.start accounts) with
  | ok u after =>
    rw [Exec.left, ended] at kept calls
    refine ⟨serves, ?_, ?_⟩
    · rw [run_of_ok ended]
      exact kept
    · rw [run_of_ok ended, calls]
      exact within
  | error failure after =>
    rw [Exec.left, ended] at calls
    refine ⟨serves, ?_, ?_⟩
    · rw [run_of_error ended]
      exact fun _ _ => rfl
    · rw [run_of_error ended, calls]
      exact within

/-- A call that is served without an excuse does not fail because of its list. -/
theorem not_blamesList_of_serves {failure : Failure}
    (serves : Exec.Serves call.writable False (call.work now) (Run.start accounts))
    (failed : (call.run accounts now).failure = some failure) : ¬ failure.BlamesList := by
  cases ended : call.work now (Run.start accounts) with
  | ok u after =>
    rw [run_of_ok ended] at failed
    cases failed
  | error other after =>
    rw [run_of_error ended] at failed
    obtain rfl := Option.some.inj failed
    exact serves.behaves.excused _ _ ended

end ClientCall

/-- **Clients and the program agree.** Whatever a client asks for, of whatever program whose
addresses exist: the client builds a call, which is read as the instruction that the client means.
Whatever the accounts hold and whenever it is, the program stores to, creates, and moves tokens
between accounts only that the call lists as writable. And it does not fail because the list is too
short, because a signature is missing, or because an account does not lie at its address, whatever
was called before, unless the addresses of two staker accounts collide. -/
theorem Request.agrees_with_program {request : Request} {program : Key}
    (derived : ∀ place ∈ request.places, (place.key? program).isSome) :
    ∃ call, request.build? program = some call ∧ call.program = program ∧
      Instruction.unpack call.data = .ok request.instruction ∧
      (∀ accounts now, call.WritesAsListed accounts now) ∧
      ∀ {start accounts : Accounts} {history : List Called}, start.Uninitialised program →
        start.Evolves program history accounts →
        (∀ account ∈ request.about?, accounts.StakersApart program account) →
        ∀ now failure, (call.run accounts now).failure = some failure → ¬ failure.BlamesList := by
  obtain ⟨call, built⟩ := Option.isSome_iff_exists.mp (isSome_build?_iff.mpr derived)
  obtain ⟨own, packed, serves⟩ := asks_of_build? built
  subst own
  have read : Instruction.unpack call.data = .ok request.instruction :=
    Instruction.unpack_eq_ok_iff.mpr ⟨[], by rw [packed, List.append_nil], .inr rfl⟩
  refine ⟨call, built, rfl, read, fun accounts now => ?_, ?_⟩
  · apply ClientCall.writesAsListed_of_serves
    exact ClientCall.serves_work read fun begun _ => serves (.inr trivial)
  · intro start accounts history fresh evolves apart now failure failed
    refine ClientCall.not_blamesList_of_serves (ClientCall.serves_work read fun begun same => ?_)
      failed
    exact serves (.inl (same ▸ ⟨evolves.sound fresh.sound, evolves.accepted fresh, apart⟩))

namespace FirstLiquidation

open FirstDeposit (program key staker)

/-- The liquidation is the call that a client builds for it. -/
theorem built : (Request.liquidateAccount (key 6) (key 9) (key 103) (key 105)
    (key 106)).build? program = some liquidate.call := by
  delta Request.build? ClientCall.liquidateAccount ClientCall.liquidationRoster Addresses.derive?
    Place.key?
  rewrite [Place.address?_eq]
  decide +kernel

/-- There is only one staker. -/
theorem stakersApart : liquidate.before.StakersApart program (key 9) := by
  obtain ⟨past, _⟩ := evolves.upTo rfl
  have sound := past.sound uninitialised.sound
  obtain ⟨liquidated, found, owned⟩ := exists_liquidated
  have own : (Place.staker liquidated.owner).key? program = some staker :=
    ((sound staker).of_record? (Accounts.held_eq_some.mp found)).2.2
  intro other value held same
  have lies : (Place.staker value.owner).key? program = some other :=
    ((sound other).of_record? (Accounts.held_eq_some.mp held)).2.2
  rw [same, ← owned, own] at lies
  obtain rfl := Option.some.inj lies
  obtain rfl := Option.some.inj (held.symm.trans found)
  exact owned

theorem agrees_with_program_firstLiquidation :
    ((∀ place ∈ (Request.liquidateAccount (key 6) (key 9) (key 103) (key 105) (key 106)).places,
        (place.key? program).isSome) ∧
      start.Uninitialised program ∧ start.Evolves program earlier liquidate.before ∧
      liquidate.before.StakersApart program (key 9)) ∧
    Instruction.unpack liquidate.call.data = .ok .liquidateAccount ∧
    liquidate.call.WritesAsListed liquidate.before liquidate.now ∧
    ∀ now failure, (liquidate.call.run liquidate.before now).failure = some failure →
      ¬ failure.BlamesList := by
  obtain ⟨past, _⟩ := evolves.upTo rfl
  have derived := Request.isSome_build?_iff.mp (Option.isSome_of_mem built)
  obtain ⟨_, same, _, read, writes, blameless⟩ := Request.agrees_with_program derived
  obtain rfl := Option.some.inj (built.symm.trans same)
  refine ⟨⟨derived, uninitialised, past, stakersApart⟩, read, writes _ _, ?_⟩
  refine blameless uninitialised past fun account about => ?_
  obtain rfl := Option.some.inj about
  exact stakersApart

end FirstLiquidation

end FeeTreasury
