import FeeTreasury.Proofs.Program.Writes
import FeeTreasury.Program.Custody
import FeeTreasury.Program.Process

/-!
# The building blocks of the instructions

A building block that only reads answers exactly if it has seen what it asks for, and it leaves the
run as it was (`FeeTreasury.Exec.load_eq_ok` and the others up to the end of their section). The
other building blocks do what `FeeTreasury.Run.Writes` says: a value is stored over the one that it
follows, or in an account that was just created at the address of its place.
-/

namespace FeeTreasury

open Stateful

/-- The account of a key is a token account of an owner. -/
def Accounts.TokensOf (accounts : Accounts) (key owner : Key) : Prop :=
  (accounts.get key).owner = tokenProgram ∧
    ∃ token, TokenAccount.read (accounts.get key).data = .ok token ∧ token.owner = owner

/-- What an account shows of the liquidation entry of a staker: the entry that it holds, or a closed
one if it is empty. -/
def Run.EntryAt (run : Run) (program key of : Key) (entry : LiquidationEntry) : Prop :=
  ∃ bump, (Place.entry of).address? program = some ⟨key, bump⟩ ∧
    ((run.accounts.get key).data.isEmpty = true ∧ LiquidationEntry.new of bump = entry ∨
      (run.accounts.get key).data.isEmpty = false ∧ run.Holds program key entry)

/-- An open entry is stored. -/
theorem Run.EntryAt.holds {run : Run} {program key of : Key} {entry : LiquidationEntry}
    (seen : run.EntryAt program key of entry) (active : entry.active = true) :
    run.Holds program key entry := by
  obtain ⟨bump, _, ⟨_, rfl⟩ | ⟨_, held⟩⟩ := seen
  · exact nomatch active
  · exact held

/-- An entry that is held at a key is the one that was seen there. -/
theorem Run.EntryAt.eq_of_held {run : Run} {program key of : Key} {entry old : LiquidationEntry}
    (seen : run.EntryAt program key of entry) (held : run.Holds program key old) : entry = old := by
  obtain ⟨_, _, ⟨empty, _⟩ | ⟨_, found⟩⟩ := seen
  · rw [Run.Holds, Accounts.held_of_vacant fun _ => Account.blank_of_isEmpty empty] at held
    cases held
  · exact Option.some.inj (found.symm.trans held)

/-- The oracle that two feeds make under some settings, seen at the time of a run. -/
def Run.OracleAt (run : Run) (env : Env) (settings : Settings) (collateralFeed debtFeed : Key)
    (oracle : Oracle) : Prop :=
  ∃ collateral totalDebt, run.Holds env.program collateralFeed collateral ∧
    run.Holds env.program debtFeed totalDebt ∧
    Oracle.new collateral totalDebt settings env.now = oracle

namespace Exec

variable {env : Env} {key owner : Key} {run after : Run}

/-! ## What a run sees -/

section Reading

theorem rule_eq_ok {α : Type} {outcome : Outcome α} {a : α} :
    rule outcome run = .ok a after ↔ outcome = .ok a ∧ run = after := by
  cases outcome with
  | error fault => simp only [rule, throw_ne_ok, reduceCtorEq, false_and]
  | ok value => simp only [rule, pure_eq_ok, Except.ok.injEq]

theorem check_eq_ok {condition : Bool} {failure : Failure} {u : Unit} :
    check condition failure run = .ok u after ↔ condition = true ∧ run = after := by
  cases condition with
  | false => simp only [check, Bool.false_eq_true, ↓reduceIte, throw_ne_ok, false_and]
  | true => simp only [check, ↓reduceIte, pure_eq_ok]

theorem account_eq_ok {found : Account} :
    account key run = .ok found after ↔ run.accounts.get key = found ∧ run = after := by
  simp only [account, bind_eq_ok, get_eq_ok, pure_eq_ok]
  constructor
  · rintro ⟨_, _, ⟨rfl, rfl⟩, same, rfl⟩
    exact ⟨same, rfl⟩
  · rintro ⟨same, rfl⟩
    exact ⟨_, _, ⟨rfl, rfl⟩, same, rfl⟩

/-- What is read is what the account holds. -/
theorem load_eq_ok {α : Type} [Stored α] [Recorded α] {value : α} :
    load env key run = .ok value after ↔
      run.accounts.held env.program key = some value ∧ run = after := by
  rw [Accounts.held_eq_some, record?_eq_some]
  simp only [load, bind_eq_ok, account_eq_ok, check_eq_ok, decide_eq_true_eq, and_assoc,
    exists_and_left, exists_eq_left', exists_unit]
  refine and_congr_right fun _ => ?_
  cases (Stored.codec : Codec α).decode? (run.accounts.get key).data with
  | none => simp only [throw_ne_ok, reduceCtorEq, false_and]
  | some read =>
    simp only [bind_eq_ok, rule_eq_ok, pure_eq_ok, and_assoc, exists_and_left, exists_eq_left',
      exists_unit, Option.some.injEq]
    constructor
    · rintro ⟨valid, rfl, same⟩
      exact ⟨rfl, valid, same⟩
    · rintro ⟨rfl, valid, same⟩
      exact ⟨valid, rfl, same⟩

theorem requireSigner_eq_ok {u : Unit} :
    requireSigner env key run = .ok u after ↔ key ∈ env.signers ∧ run = after := by
  simp only [requireSigner, check_eq_ok, List.contains_eq_mem, decide_eq_true_eq]

theorem requireVault_eq_ok {expected : Key} {u : Unit} :
    requireVault key expected run = .ok u after ↔ key = expected ∧ run = after := by
  simp only [requireVault, check_eq_ok, decide_eq_true_eq]

theorem requireTokenProgram_eq_ok {u : Unit} :
    requireTokenProgram key run = .ok u after ↔ key = tokenProgram ∧ run = after := by
  simp only [requireTokenProgram, check_eq_ok, decide_eq_true_eq]

theorem checkVaultAuthority_eq_ok {config : Config} {u : Unit} :
    checkVaultAuthority env config key run = .ok u after ↔
      Address.derive? (Place.vaultAuthority.seeds ++ [[config.vaultAuthorityBump]]) env.program =
        some key ∧ run = after := by
  simp only [checkVaultAuthority, check_eq_ok, decide_eq_true_eq]

theorem requireTokenOwner_eq_ok {u : Unit} :
    requireTokenOwner key owner run = .ok u after ↔
      run.accounts.TokensOf key owner ∧ run = after := by
  simp only [requireTokenOwner, bind_eq_ok, account_eq_ok, check_eq_ok, decide_eq_true_eq,
    and_assoc, exists_and_left, exists_eq_left', exists_unit, Accounts.TokensOf]
  refine and_congr_right fun _ => ?_
  cases TokenAccount.read (run.accounts.get key).data with
  | error failure => simp only [throw_ne_ok, reduceCtorEq, false_and, exists_false]
  | ok token => simp only [check_eq_ok, decide_eq_true_eq, Except.ok.injEq, exists_eq_left']

/-- The rule as a function. Applied to a place it must not be unfolded by computation, which would
look for the address. -/
theorem checkPlace_eq_fun : checkPlace = fun env place key =>
    match place.address? env.program with
    | none => throw .aborted
    | some address => do
      check (address.key = key) (.refused .invalidAddress)
      return address.bump := by
  delta checkPlace
  rfl

theorem checkPlace_eq_ok {place : Place} {bump : UInt8} :
    checkPlace env place key run = .ok bump after ↔
      place.address? env.program = some ⟨key, bump⟩ ∧ run = after := by
  rw [checkPlace_eq_fun]
  beta_reduce
  cases place.address? env.program with
  | none => simp only [throw_ne_ok, reduceCtorEq, false_and]
  | some address =>
    obtain ⟨lies, last⟩ := address
    simp only [bind_eq_ok, check_eq_ok, pure_eq_ok, decide_eq_true_eq, and_assoc, exists_and_left,
      exists_eq_left', exists_unit, Option.some.injEq, Address.mk.injEq]

theorem loadStakerOf_eq_ok {staker : Staker} :
    loadStakerOf env key owner run = .ok staker after ↔
      (run.accounts.held env.program key = some staker ∧ staker.owner = owner) ∧ run = after := by
  simp only [loadStakerOf, bind_eq_ok, load_eq_ok, check_eq_ok, pure_eq_ok, decide_eq_true_eq,
    and_assoc, exists_and_left, exists_eq_left', exists_unit]
  constructor
  · rintro ⟨_, found, owned, rfl, same⟩
    exact ⟨found, owned, same⟩
  · rintro ⟨found, owned, same⟩
    exact ⟨_, found, owned, rfl, same⟩

theorem loadEntry_eq_ok {of : Key} {entry : LiquidationEntry} :
    loadEntry env key of run = .ok entry after ↔
      run.EntryAt env.program key of entry ∧ run = after := by
  simp only [loadEntry, Run.EntryAt, bind_eq_ok, checkPlace_eq_ok, account_eq_ok, and_assoc,
    exists_and_left, exists_eq_left']
  cases (run.accounts.get key).data.isEmpty with
  | false =>
    simp only [Bool.false_eq_true, ↓reduceIte, load_eq_ok, false_and, false_or, true_and]
    constructor
    · rintro ⟨bump, lies, found, same⟩
      exact ⟨⟨bump, lies, found⟩, same⟩
    · rintro ⟨⟨bump, lies, found⟩, same⟩
      exact ⟨bump, lies, found, same⟩
  | true =>
    simp only [↓reduceIte, pure_eq_ok, true_and, Bool.true_eq_false, false_and, or_false]
    constructor
    · rintro ⟨bump, lies, closed, same⟩
      exact ⟨⟨bump, lies, closed⟩, same⟩
    · rintro ⟨⟨bump, lies, closed⟩, same⟩
      exact ⟨bump, lies, closed, same⟩

theorem loadOracle_eq_ok {settings : Settings} {collateralFeed debtFeed : Key} {oracle : Oracle} :
    loadOracle env settings collateralFeed debtFeed run = .ok oracle after ↔
      run.OracleAt env settings collateralFeed debtFeed oracle ∧ run = after := by
  simp only [loadOracle, Run.OracleAt, bind_eq_ok, load_eq_ok, pure_eq_ok, and_assoc,
    exists_and_left, exists_eq_left']
  constructor
  · rintro ⟨collateral, first, totalDebt, second, seen, same⟩
    exact ⟨⟨collateral, first, totalDebt, second, seen⟩, same⟩
  · rintro ⟨⟨collateral, first, totalDebt, second, seen⟩, same⟩
    exact ⟨collateral, first, totalDebt, second, seen, same⟩

theorem loadWhileActive_eq_ok {config board : Key} {value : Config} :
    Program.loadWhileActive env config board run = .ok value after ↔
      (run.accounts.held env.program config = some value ∧
        ∃ suspensions : StatusBoard, run.accounts.held env.program board = some suspensions ∧
          suspensions.requireActive [.system] = .ok ()) ∧ run = after := by
  simp only [Program.loadWhileActive, bind_eq_ok, load_eq_ok, rule_eq_ok, pure_eq_ok, and_assoc,
    exists_and_left, exists_eq_left', exists_unit]
  constructor
  · rintro ⟨_, found, board, shown, active, rfl, same⟩
    exact ⟨found, ⟨board, shown, active⟩, same⟩
  · rintro ⟨found, ⟨board, shown, active⟩, same⟩
    exact ⟨_, found, board, shown, active, rfl, same⟩

theorem withRoster_eq_ok {α : Type} [Roster α] {keys : List Key} {work : α → Exec Unit} {u : Unit} :
    Program.withRoster keys work run = .ok u after ↔
      ∃ roster, Roster.ofKeys? keys = some roster ∧ work roster run = .ok u after := by
  unfold Program.withRoster
  cases (Roster.ofKeys? keys : Option α) with
  | none => simp only [throw_ne_ok, reduceCtorEq, false_and, exists_false]
  | some roster => simp only [Option.some.injEq, exists_eq_left']

end Reading

/-! ## What a run does -/

section Writing

variable {program : Key} {u : Unit}

theorem writes_of_say {line : String} (sound : run.accounts.Sound program)
    (said : say line run = .ok u after) : run.Writes program after [] [] := by
  obtain rfl := modify_eq_ok.mp said
  exact .of_spares sound (fun _ => .inl rfl) (List.append_nil _).symm

theorem writes_of_emit {event : Event} (sound : run.accounts.Sound program)
    (emitted : emit event run = .ok u after) : run.Writes program after [] [] := by
  obtain rfl := modify_eq_ok.mp emitted
  exact .of_spares sound (fun _ => .inl rfl) (List.append_nil _).symm

theorem writes_of_transfer {source destination authority : Key} {amount : UInt64}
    (sound : run.accounts.Sound program)
    (moved : transfer source destination authority amount run = .ok u after) :
    run.Writes program after [] [.transfer source destination authority amount] := by
  simp only [transfer, bind_eq_ok, note, modify_eq_ok, get_eq_ok] at moved
  obtain ⟨_, _, rfl, _, _, ⟨rfl, rfl⟩, moved⟩ := moved
  cases answer : run.accounts.transfer source destination authority amount with
  | error failure =>
    simp only [answer, throw_ne_ok] at moved
  | ok accounts =>
    simp only [answer, modify_eq_ok] at moved
    obtain rfl := moved
    exact .of_spares sound (Accounts.spares_of_transfer sound answer) rfl

/-- The calls of a payment: none if the amount is nothing. -/
def payment (vault destination authority : Key) (amount : UInt64) : List OutsideCall :=
  if amount = 0 then [] else [.transfer vault destination authority amount]

theorem writes_of_payFrom {vault destination authority : Key} {amount : UInt64}
    (sound : run.accounts.Sound program)
    (paid : payFrom vault destination authority amount run = .ok u after) :
    run.Writes program after [] (payment vault destination authority amount) := by
  unfold payFrom at paid
  unfold payment
  by_cases nothing : amount = 0
  · simp only [nothing, ne_eq, not_true_eq_false, ↓reduceIte, pure_eq_ok] at paid
    obtain ⟨_, rfl⟩ := paid
    rw [if_pos nothing]
    exact .of_spares sound (fun _ => .inl rfl) (List.append_nil _).symm
  · simp only [nothing, ne_eq, not_false_eq_true, ↓reduceIte] at paid
    rw [if_neg nothing]
    exact writes_of_transfer sound paid

variable {α : Type} [Stored α] [Recorded α] {old value : α}

/-- A value is written in an account of the program that has the room of its type. -/
theorem writes_of_overwrite (sound : run.accounts.Sound program) (begins : Begins program key value)
    (owned : (run.accounts.get key).owner = program)
    (room : (run.accounts.get key).data.length = Stored.size α)
    (replaces : ∀ old, (run.accounts.get key).record? program = some old →
      old.kind = Recorded.kind α)
    (stored : store key value run = .ok u after) :
    run.Writes program after [(key, record value)] [] := by
  simp only [store, bind_eq_ok, account_eq_ok, and_assoc, exists_and_left, exists_eq_left']
    at stored
  cases answer : (run.accounts.get key).overwrite? (Stored.codec.encode value) with
  | none =>
    simp only [answer, throw_ne_ok] at stored
  | some written =>
    simp only [answer, setAccount, modify_eq_ok] at stored
    obtain rfl := stored
    obtain ⟨holds, _, length⟩ :=
      record?_of_overwrite? owned begins.valid begins.canonical answer
    refine ⟨sound.set fun _ => .inr ⟨_, holds, ?_, begins.place⟩,
      Accounts.held_set holds replaces, (List.append_nil _).symm⟩
    rw [length, room, Recorded.kind_record, Recorded.size_kind]

/-- A value is stored over the one that it follows. -/
theorem writes_of_store (sound : run.accounts.Sound program)
    (found : run.Holds program key old) (stored : store key value run = .ok u after)
    (follows : Follows old value) : run.Writes program after [(key, record value)] [] := by
  have holds := Accounts.held_eq_some.mp found
  obtain ⟨owned, room, _⟩ := (sound key).of_record? holds
  apply writes_of_overwrite sound ((begins_of_held sound found).follow follows) owned ?_ ?_ stored
  · rw [room, Recorded.kind_record, Recorded.size_kind]
  · intro other held
    rw [← Option.some.inj (holds.symm.trans held), Recorded.kind_record]

theorem held_of_isEmpty {β : Type} [Stored β] [Recorded β]
    (empty : (run.accounts.get key).data.isEmpty = true) :
    run.accounts.held program key = (none : Option β) :=
  Accounts.held_of_vacant fun _ => Account.blank_of_isEmpty empty

theorem create_eq_ok {payer : Key} {space : Nat} :
    create env payer key space run = .ok u after ↔
      ((run.accounts.get key).data.isEmpty = true ∧
        (run.accounts.get key).owner = systemProgram) ∧
      { run with
        accounts := run.accounts.set key ⟨env.program, List.replicate space 0⟩
        calls := run.calls ++
          [.createAccount payer key (rent space) space env.program] } = after := by
  simp only [create, bind_eq_ok, account_eq_ok, check_eq_ok, note, setAccount, modify_eq_ok,
    decide_eq_true_eq, and_assoc, exists_and_left, exists_eq_left', exists_unit]

theorem writes_of_create {payer : Key} {space : Nat} (sound : run.accounts.Sound env.program)
    (created : create env payer key space run = .ok u after) :
    run.Writes env.program after []
      [.createAccount payer key (rent space) space env.program] := by
  obtain ⟨⟨empty, _⟩, rfl⟩ := create_eq_ok.mp created
  apply Run.Writes.of_spares sound _ rfl
  intro other
  by_cases same : other = key
  · rw [same, Accounts.get_set_self]
    exact .inr ⟨fun _ => Account.blank_of_isEmpty empty,
      fun _ _ member => List.eq_of_mem_replicate member⟩
  · exact .inl (Accounts.get_set_of_ne _ _ same)

/-- The call that creates an account with the room of a type. -/
def creation (α : Type) [Stored α] (env : Env) (payer target : Key) : OutsideCall :=
  .createAccount payer target (rent (Stored.size α)) (Stored.size α) env.program

/-- The first value of an account that was just created. -/
theorem writes_of_create_store {payer : Key} {middle : Run} {v : Unit}
    (sound : run.accounts.Sound env.program)
    (created : create env payer key (Stored.size α) run = .ok u middle)
    (stored : store key value middle = .ok v after) (begins : Begins env.program key value) :
    run.Writes env.program after [(key, record value)] [creation α env payer key] := by
  have creates := writes_of_create sound created
  obtain ⟨_, rfl⟩ := create_eq_ok.mp created
  have lies := Accounts.get_set_self run.accounts key
    ⟨env.program, List.replicate (Stored.size α) 0⟩
  apply creates.trans (writes_of_overwrite creates.sound begins ?_ ?_ ?_ stored)
  · rw [lies]
  · rw [lies, List.length_replicate]
  · intro old held
    rw [lies, Account.record?_of_blank fun _ member => List.eq_of_mem_replicate member] at held
    exact nomatch held

end Writing

end Exec

/-! ## One step after another -/

namespace Run.Writes

variable {program key : Key} {before middle after : Run} {puts : List (Key × Record)}
  {calls : List OutsideCall} {u : Unit}

/-- A value is stored over one that was held before the other values were written. -/
theorem store {α : Type} [Stored α] [Recorded α] {old value : α}
    (writes : before.Writes program middle puts calls) (found : before.Holds program key old)
    (others : valuesOf α puts = []) (stored : Exec.store key value middle = .ok u after)
    (follows : Follows old value) :
    before.Writes program after (puts ++ [(key, record value)]) calls :=
  writes.trans_silent
    (Exec.writes_of_store writes.sound (writes.holds found others) stored follows)

theorem pay {vault destination authority : Key} {amount : UInt64}
    (writes : before.Writes program middle puts calls)
    (paid : Exec.payFrom vault destination authority amount middle = .ok u after) :
    before.Writes program after puts
      (calls ++ Exec.payment vault destination authority amount) := by
  have both := writes.trans (Exec.writes_of_payFrom writes.sound paid)
  rwa [List.append_nil] at both

theorem say {line : String} (writes : before.Writes program middle puts calls)
    (said : Exec.say line middle = .ok u after) : before.Writes program after puts calls :=
  writes.trans_still (Exec.writes_of_say writes.sound said)

theorem emit {event : Event} (writes : before.Writes program middle puts calls)
    (emitted : Exec.emit event middle = .ok u after) : before.Writes program after puts calls :=
  writes.trans_still (Exec.writes_of_emit writes.sound emitted)

end Run.Writes

end FeeTreasury
