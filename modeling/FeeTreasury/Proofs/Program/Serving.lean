import FeeTreasury.Proofs.Crypto.Sha256
import FeeTreasury.Proofs.Faults
import FeeTreasury.Proofs.Program.Configuration

/-!
# What a call may write, and what it may be blamed for

A call says of each account in its list whether it may be written. An instruction serves the call if
it is put together of parts that only read, and of stores, creations of accounts and transfers whose
accounts may all be written (`FeeTreasury.Exec.Serves`). A store counts as one even if it writes
what was there before. The parts that only read may fail, but not because of the list: they find as
many accounts as they ask for, the signatures that they ask for, and every account at its address,
or else there is an excuse.

Whichever way such an instruction ends, it has changed no other account and has named no other one
to the programs that it called, and if it fails because of the list, there is an excuse
(`FeeTreasury.Exec.Serves.behaves`).
-/

namespace FeeTreasury

open Outcome

/-! ## Blame -/

/-- The list of accounts is to blame for a failure: it is too short, it does not let somebody sign
who has to, or it lists an account that does not lie at its address. -/
def Failure.BlamesList (failure : Failure) : Prop :=
  failure ∈ [.notEnoughAccounts, .missingSignature, .refused .invalidAddress]

instance (failure : Failure) : Decidable failure.BlamesList :=
  inferInstanceAs (Decidable (failure ∈ _))

/-- A fault of a rule blames the list only if it is about an address. -/
theorem Fault.Placed.not_blamesList {fault : Fault} (placed : fault.Placed) :
    ¬ (Failure.ofFault fault).BlamesList := by
  cases fault with
  | aborted => decide
  | refused reason =>
    intro blames
    simp only [Failure.BlamesList, Failure.ofFault, List.mem_cons, reduceCtorEq,
      Failure.refused.injEq, List.not_mem_nil, or_false, false_or] at blames
    exact placed (congrArg Fault.refused blames)

/-- The accounts that a call to another program changes. -/
def OutsideCall.ends : OutsideCall → List Key
  | createAccount payer target .. => [payer, target]
  | transfer source destination .. => [source, destination]

/-- A transfer changes the accounts at its ends alone. -/
theorem Accounts.get_of_transfer {accounts after : Accounts} {source destination authority : Key}
    {amount : UInt64} (moved : accounts.transfer source destination authority amount = .ok after)
    {key : Key} (first : key ≠ source) (last : key ≠ destination) :
    after.get key = accounts.get key := by
  simp only [transfer, bind_eq_ok, ite_eq_ok, throw_ne_ok, pure_eq_ok, false_and, and_false,
    exists_false, false_or] at moved
  obtain ⟨_, _, _, _, _, _, _, _, _, ⟨_, rfl⟩ | ⟨_, _, rfl⟩⟩ := moved
  · rfl
  · rw [get_set_of_ne _ _ last, get_set_of_ne _ _ first]

theorem TokenAccount.failsAs_read (data : Bytes) :
    FailsAs (¬ Failure.BlamesList ·) (read data) := by
  unfold read
  split
  · exact failsAs_error.mpr (by decide)
  split
  · exact failsAs_error.mpr (by decide)
  split
  · exact failsAs_error.mpr (by decide)
  split
  · exact failsAs_error.mpr (by decide)
  · exact failsAs_ok _
  · exact failsAs_ok _
  · exact failsAs_error.mpr (by decide)

/-- The token program does not look at the list of accounts. -/
theorem Accounts.failsAs_transfer (accounts : Accounts) (source destination authority : Key)
    (amount : UInt64) :
    FailsAs (¬ Failure.BlamesList ·) (accounts.transfer source destination authority amount) := by
  have cause (cause : TokenFailure) : ¬ (Failure.token cause).BlamesList := by
    cases cause <;> decide
  have program : ¬ Failure.incorrectProgramId.BlamesList := by decide
  simp only [transfer, failsAs_bind, failsAs_ite, failsAs_throw, failsAs_pure,
    TokenAccount.failsAs_read, cause, program, throw_ne_ok, not_false_eq_true, implies_true,
    and_self]

namespace Exec

open Stateful

variable {α β : Type} {part : Exec α} {rest : α → Exec β} {run : Run} {writable : List Key}
  {excuse : Prop} {env : Env} {key : Key}

/-- What a part leaves behind, whether it comes to its end or fails. -/
def left (part : Exec α) (run : Run) : Run :=
  match part run with
  | .ok _ after => after
  | .error _ after => after

/-- Whatever it is run on, a part writes no account and calls no other program. -/
def Reads (part : Exec α) : Prop :=
  ∀ run, (part.left run).accounts = run.accounts ∧ (part.left run).calls = run.calls

/-- A part of an instruction serves a call that may write some accounts: it reads, or it writes
such accounts, and if it fails because of the list of accounts, there is an excuse. -/
inductive Serves (writable : List Key) (excuse : Prop) : {α : Type} → Exec α → Run → Prop
  | read {α : Type} {part : Exec α} {run : Run} (reads : part.Reads)
      (excused : ∀ failure after, part run = .error failure after → failure.BlamesList → excuse) :
      Serves writable excuse part run
  | store {α : Type} [Stored α] {key : Key} {value : α} {run : Run} (may : key ∈ writable) :
      Serves writable excuse (store key value) run
  | create {env : Env} {payer target : Key} {space : Nat} {run : Run} (pays : payer ∈ writable)
      (may : target ∈ writable) : Serves writable excuse (create env payer target space) run
  | transfer {source destination authority : Key} {amount : UInt64} {run : Run}
      (gives : source ∈ writable) (takes : destination ∈ writable) :
      Serves writable excuse (transfer source destination authority amount) run
  | bind {α β : Type} {part : Exec α} {rest : α → Exec β} {run : Run}
      (first : Serves writable excuse part run)
      (second : ∀ a after, part run = .ok a after → Serves writable excuse (rest a) after) :
      Serves writable excuse (part >>= rest) run

/-! ## What serving means -/

/-- A run has changed no account that may not be written, and has named none to other programs. -/
structure Confined (writable : List Key) (before after : Run) : Prop where
  kept : ∀ key ∉ writable, after.accounts.get key = before.accounts.get key
  made : ∃ made, after.calls = before.calls ++ made ∧ ∀ call ∈ made, call.ends ⊆ writable

/-- A part is confined to the accounts that may be written, and it blames the list of accounts only
with an excuse. -/
structure Behaves (writable : List Key) (excuse : Prop) (part : Exec α) (run : Run) : Prop where
  confined : Confined writable run (part.left run)
  excused : ∀ failure after, part run = .error failure after → failure.BlamesList → excuse

namespace Confined

variable {before middle after : Run}

theorem of_eq (accounts : after.accounts = before.accounts) (calls : after.calls = before.calls) :
    Confined writable before after where
  kept _ _ := by rw [accounts]
  made := ⟨[], by rw [calls, List.append_nil], fun _ member => absurd member List.not_mem_nil⟩

theorem trans (first : Confined writable before middle) (second : Confined writable middle after) :
    Confined writable before after where
  kept key other := (second.kept key other).trans (first.kept key other)
  made := by
    obtain ⟨made, calls, within⟩ := first.made
    obtain ⟨more, others, also⟩ := second.made
    refine ⟨made ++ more, by rw [others, calls, List.append_assoc], fun call member => ?_⟩
    exact (List.mem_append.mp member).elim (within call) (also call)

end Confined

namespace Behaves

theorem of_ok {a : α} {after : Run} (ran : part run = .ok a after)
    (confined : Confined writable run after) : Behaves writable excuse part run where
  confined := by simpa only [left, ran] using confined
  excused _ _ failed := nomatch ran.symm.trans failed

/-- A part that fails where it stands. -/
theorem of_error {failure : Failure} (ran : part run = .error failure run)
    (excused : failure.BlamesList → excuse) : Behaves writable excuse part run where
  confined := by
    simp only [left, ran]
    exact .of_eq rfl rfl
  excused other after failed := by
    obtain ⟨rfl, rfl⟩ := EStateM.Result.error.inj (ran.symm.trans failed)
    exact excused

theorem bind (first : Behaves writable excuse part run)
    (second : ∀ a after, part run = .ok a after → Behaves writable excuse (rest a) after) :
    Behaves writable excuse (part >>= rest) run := by
  have whole : (part >>= rest) run = EStateM.bind part rest run := rfl
  unfold EStateM.bind at whole
  cases ran : part run with
  | error failure after =>
    rw [ran] at whole
    refine ⟨?_, fun other last failed => ?_⟩
    · have confined := first.confined
      simpa only [left, whole, ran] using confined
    · obtain ⟨rfl, rfl⟩ := EStateM.Result.error.inj (whole.symm.trans failed)
      exact first.excused _ _ ran
  | ok a after =>
    rw [ran] at whole
    have confined := first.confined
    simp only [left, ran] at confined
    refine ⟨?_, fun other last failed => ?_⟩
    · have rest := (second a after ran).confined
      simpa only [left, whole] using confined.trans rest
    · exact (second a after ran).excused other last (whole.symm.trans failed)

theorem check {condition : Bool} {failure : Failure}
    (excused : condition = false → failure.BlamesList → excuse) :
    Behaves writable excuse (check condition failure) run := by
  cases condition with
  | false => exact of_error rfl (excused rfl)
  | true => exact of_ok rfl (.of_eq rfl rfl)

theorem account : Behaves writable excuse (account key) run := of_ok rfl (.of_eq rfl rfl)

theorem setAccount {account : Account} (may : key ∈ writable) :
    Behaves writable excuse (setAccount key account) run := by
  refine of_ok rfl ⟨fun other outside => ?_, [], (List.append_nil _).symm, nofun⟩
  exact Accounts.get_set_of_ne _ _ fun same => outside (same ▸ may)

theorem note {call : OutsideCall} (within : call.ends ⊆ writable) :
    Behaves writable excuse (note call) run := by
  refine of_ok rfl ⟨fun _ _ => rfl, [call], rfl, fun other member => ?_⟩
  rw [List.mem_singleton.mp member]
  exact within

theorem store [Stored α] {value : α} (may : key ∈ writable) :
    Behaves writable excuse (store key value) run := by
  unfold Exec.store
  refine account.bind fun found _ _ => ?_
  cases found.overwrite? (Stored.codec.encode value) with
  | none => exact of_error rfl fun blames => absurd blames (by decide)
  | some written => exact setAccount may

theorem create {payer target : Key} {space : Nat} (pays : payer ∈ writable)
    (may : target ∈ writable) : Behaves writable excuse (create env payer target space) run := by
  have within : [payer, target] ⊆ writable := List.cons_subset.mpr ⟨pays, by simpa using may⟩
  unfold Exec.create
  refine account.bind fun _ _ _ => (check ?_).bind fun _ _ _ => ?_
  · exact fun _ blames => absurd blames (by decide)
  refine (note within).bind fun _ _ _ => account.bind fun _ _ _ => (check ?_).bind fun _ _ _ => ?_
  · exact fun _ blames => absurd blames (by decide)
  · exact setAccount may

theorem transfer {source destination authority : Key} {amount : UInt64}
    (gives : source ∈ writable) (takes : destination ∈ writable) :
    Behaves writable excuse (transfer source destination authority amount) run := by
  have within : [source, destination] ⊆ writable :=
    List.cons_subset.mpr ⟨gives, by simpa using takes⟩
  unfold Exec.transfer
  refine (note within).bind fun _ noted _ => ?_
  refine Behaves.bind (of_ok rfl (.of_eq rfl rfl)) fun seen _ got => ?_
  obtain ⟨rfl, rfl⟩ := get_eq_ok.mp got
  cases moved : noted.accounts.transfer source destination authority amount with
  | error failure =>
    exact of_error rfl fun blames =>
      absurd blames (noted.accounts.failsAs_transfer _ _ _ _ failure moved)
  | ok accounts =>
    refine of_ok rfl ⟨fun other outside => ?_, [], (List.append_nil _).symm, nofun⟩
    exact Accounts.get_of_transfer moved (fun same => outside (same ▸ gives)) fun same =>
      outside (same ▸ takes)

end Behaves

/-- **What serving means.** -/
theorem Serves.behaves (serves : Serves writable excuse part run) :
    Behaves writable excuse part run := by
  induction serves with
  | read reads excused => exact ⟨.of_eq (reads _).1 (reads _).2, excused⟩
  | store may => exact .store may
  | create pays may => exact .create pays may
  | transfer gives takes => exact .transfer gives takes
  | bind _ _ first second => exact first.bind second

/-! ## The parts that read -/

namespace Serves

variable {failure : Failure} {fact : α → Prop}

/-- A part that leaves the run as it was, and what follows on what it has seen. -/
theorem seen (first : Serves writable excuse part run)
    (sees : ∀ {a after}, part run = .ok a after ↔ fact a ∧ run = after)
    (second : ∀ a, fact a → Serves writable excuse (rest a) run) :
    Serves writable excuse (part >>= rest) run := by
  refine first.bind fun a after ran => ?_
  obtain ⟨holds, rfl⟩ := sees.mp ran
  exact second a holds

theorem pure (a : α) : Serves writable excuse (pure a) run :=
  .read (fun _ => ⟨rfl, rfl⟩) fun _ _ failed => nomatch failed

theorem throw (excused : failure.BlamesList → excuse) :
    Serves writable excuse (throw failure : Exec α) run := by
  refine .read (fun _ => ⟨rfl, rfl⟩) fun other after failed => ?_
  obtain ⟨rfl, rfl⟩ := EStateM.Result.error.inj failed
  exact excused

theorem account : Serves writable excuse (account key) run :=
  .read (fun _ => ⟨rfl, rfl⟩) fun _ _ failed => nomatch failed

theorem say {line : String} : Serves writable excuse (say line) run :=
  .read (fun _ => ⟨rfl, rfl⟩) fun _ _ failed => nomatch failed

theorem emit {event : Event} : Serves writable excuse (emit event) run :=
  .read (fun _ => ⟨rfl, rfl⟩) fun _ _ failed => nomatch failed

theorem rule {outcome : Outcome α} (fails : FailsAs Fault.Placed outcome) :
    Serves writable excuse (rule outcome) run := by
  cases outcome with
  | ok a => exact pure a
  | error fault => exact throw fun blames => absurd blames (fails fault rfl).not_blamesList

/-- A condition that holds, or whose failure is not about the list. -/
theorem check {condition : Bool}
    (excused : failure.BlamesList → condition = true ∨ excuse) :
    Serves writable excuse (check condition failure) run := by
  cases condition with
  | true => exact pure ()
  | false => exact throw fun blames => (excused blames).resolve_left Bool.false_ne_true

theorem check_of_not {condition : Bool} (other : ¬ failure.BlamesList) :
    Serves writable excuse (Exec.check condition failure) run :=
  check fun blames => absurd blames other

theorem signer (signed : key ∈ env.signers) :
    Serves writable excuse (requireSigner env key) run :=
  check fun _ => .inl (List.contains_iff_mem.mpr signed)

theorem load [Stored α] : Serves writable excuse (load env key : Exec α) run := by
  unfold Exec.load
  refine .bind account fun found _ _ => .bind (check_of_not (by decide)) fun _ _ _ => ?_
  cases (Stored.codec : Codec α).decode? found.data with
  | none => exact throw fun blames => absurd blames (by decide)
  | some value =>
    exact .bind (rule (by simp [Stored.validate, Header.validate])) fun _ _ _ => pure _

/-- An account at its address. -/
theorem place {place : Place} (lies : place.key? env.program = some key ∨ excuse) :
    Serves writable excuse (checkPlace env place key) run := by
  rw [checkPlace_eq_fun]
  beta_reduce
  unfold Place.key? at lies
  cases found : place.address? env.program with
  | none => exact throw fun blames => absurd blames (by decide)
  | some address =>
    rw [found, Option.map_some, Option.some.injEq] at lies
    exact .bind (check fun _ => lies.imp_left decide_eq_true) fun _ _ _ => pure _

theorem stakerOf {owner : Key} : Serves writable excuse (loadStakerOf env key owner) run :=
  .bind load fun _ _ _ => .bind (check_of_not (by decide)) fun _ _ _ => pure _

theorem entry {of : Key} (lies : (Place.entry of).key? env.program = some key ∨ excuse) :
    Serves writable excuse (loadEntry env key of) run := by
  unfold loadEntry
  refine .bind (place lies) fun bump _ _ => .bind account fun found _ _ => ?_
  cases found.data.isEmpty with
  | true => exact pure _
  | false => exact load

theorem oracle {settings : Settings} {collateralFeed debtFeed : Key} :
    Serves writable excuse (loadOracle env settings collateralFeed debtFeed) run :=
  .bind load fun _ _ _ => .bind load fun _ _ _ => pure _

theorem tokenOwner {owner : Key} : Serves writable excuse (requireTokenOwner key owner) run := by
  unfold requireTokenOwner
  refine .bind account fun found _ _ => .bind (check_of_not (by decide)) fun _ _ _ => ?_
  cases read : TokenAccount.read found.data with
  | error failure =>
    exact throw fun blames => absurd blames (TokenAccount.failsAs_read found.data failure read)
  | ok token => exact check_of_not (by decide)

/-- The owner of the vaults, where the configuration has the bump of it. -/
theorem vaultAuthority {config : Config} (accepted : config.Accepted env.program ∨ excuse)
    (lies : Place.vaultAuthority.key? env.program = some key) :
    Serves writable excuse (checkVaultAuthority env config key) run := by
  refine check fun _ => accepted.imp_left fun accepted => ?_
  obtain ⟨owner, found⟩ := accepted.vaults
  have made := Place.derive?_of_address? found
  rw [Place.key?, found, Option.map_some] at lies
  rw [decide_eq_true_eq, made, lies]

theorem vault {expected : Key} : Serves writable excuse (requireVault key expected) run :=
  check_of_not (by decide)

theorem tokenProgram : Serves writable excuse (requireTokenProgram key) run :=
  check_of_not (by decide)

theorem whileActive {config board : Key} :
    Serves writable excuse (Program.loadWhileActive env config board) run :=
  .bind load fun _ _ _ => .bind load fun _ _ _ => .bind (rule (by simp)) fun _ _ _ => pure _

theorem forAuthority {authority : Key} (signed : authority ∈ env.signers) :
    Serves writable excuse (Program.loadForAuthority env authority key) run := by
  refine .bind (signer signed) fun _ _ _ => .bind load fun _ _ _ => ?_
  exact .bind (rule (by simp [Config.requireAuthority])) fun _ _ _ => pure _

theorem ite {condition : Prop} [Decidable condition] {other : Exec α}
    (yes : condition → Serves writable excuse part run)
    (no : ¬ condition → Serves writable excuse other run) :
    Serves writable excuse (if condition then part else other) run := by
  split
  · exact yes ‹_›
  · exact no ‹_›

theorem payFrom {vault destination authority : Key} {amount : UInt64} (gives : vault ∈ writable)
    (takes : destination ∈ writable) :
    Serves writable excuse (payFrom vault destination authority amount) run := by
  exact .ite (fun _ => .transfer gives takes) fun _ => pure ()

end Serves

end Exec

end FeeTreasury
