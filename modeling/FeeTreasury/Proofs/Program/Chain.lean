import FeeTreasury.Proofs.Program.Custody

/-!
# The life of the program on the chain

Anybody calls the program, with any instruction, signers and accounts and at any time. Between the
calls everybody else does what they like with the accounts that are not the program's or are blank
(`FeeTreasury.Accounts.Evolves`). Where the program had not been set up before, its accounts are
sound all the time (`FeeTreasury.Accounts.Evolves.sound`), so that what each instruction does to
sound accounts can be added up over the whole life of the program.
-/

namespace FeeTreasury

/-! ## Calls -/

/-- A call of the program, with the accounts that it met and the time of it. -/
structure Called where
  call : ClientCall
  before : Accounts
  now : Int64

namespace Called

def report (called : Called) : Report := called.call.run called.before called.now

def env (called : Called) : Env := ⟨called.call.program, called.now, called.call.signers⟩

/-- The instruction that was done, if the call was successful. -/
def done? (called : Called) : Option Instruction :=
  match called.report.failure, Instruction.unpack called.call.data with
  | none, .ok instruction => some instruction
  | _, _ => none

/-- Calls at some times, each on the accounts that the report of the one before leaves. -/
def inTurn (report : Called → Report) : Accounts → List (ClientCall × Int64) → List Called
  | _, [] => []
  | accounts, (call, now) :: rest =>
    ⟨call, accounts, now⟩ :: inTurn report (report ⟨call, accounts, now⟩).accounts rest

/-- An amount of what was done, or nothing if the call failed. -/
def moved (amount : Instruction → List OutsideCall → Nat) (called : Called) : Nat :=
  called.done?.elim 0 fun instruction => amount instruction called.report.calls

variable {called : Called}

theorem moved_of_done {amount : Instruction → List OutsideCall → Nat} {instruction : Instruction}
    (did : called.done? = some instruction) :
    called.moved amount = amount instruction called.report.calls := by
  rw [moved, did, Option.elim_some]

theorem moved_of_failed {amount : Instruction → List OutsideCall → Nat}
    (failed : called.done? = none) : called.moved amount = 0 := by
  rw [moved, failed, Option.elim_none]

end Called

/-- A call that comes to its end read an instruction and did what it asks. -/
theorem Program.process_eq_ok {env : Env} {keys : List Key} {data : Bytes} {run after : Run}
    {u : Unit} :
    process env keys data run = .ok u after ↔
      ∃ instruction, Instruction.unpack data = .ok instruction ∧
        perform env keys instruction
          { run with log := run.log ++ ["Instruction: " ++ instruction.name] } = .ok u after := by
  unfold process
  cases Instruction.unpack data with
  | error failure => simp only [Stateful.throw_ne_ok, reduceCtorEq, false_and, exists_false]
  | ok instruction =>
    simp only [Stateful.bind_eq_ok, Exec.say, Stateful.modify_eq_ok, Stateful.exists_unit,
      exists_eq_left', Except.ok.injEq]

/-- A call either fails and leaves the accounts as they were, or does what its instruction asks. -/
theorem Called.failed_or_done (called : Called) :
    (called.done? = none ∧ called.report.accounts = called.before) ∨
      ∃ instruction begun after, called.done? = some instruction ∧
        Program.perform called.env (called.call.accounts.map Listed.key) instruction begun =
          .ok () after ∧
        begun.accounts = called.before ∧ begun.calls = [] ∧
        called.report.accounts = after.accounts ∧ called.report.calls = after.calls := by
  cases ended : Program.process called.env (called.call.accounts.map Listed.key) called.call.data
      (Run.start called.before) with
  | error failure after =>
    have report : called.report = ⟨some failure, called.before, after.log, after.calls⟩ := by
      rw [env] at ended
      simp only [Called.report, ClientCall.run, EStateM.run, ended]
    left
    constructor
    · rw [done?, report]
    · rw [report]
  | ok u after =>
    have report : called.report = ⟨none, after.accounts, after.log, after.calls⟩ := by
      rw [env] at ended
      simp only [Called.report, ClientCall.run, EStateM.run, ended]
    obtain ⟨instruction, read, performed⟩ := Program.process_eq_ok.mp ended
    right
    refine ⟨instruction, _, after, ?_, performed, rfl, rfl, ?_, ?_⟩
    · rw [done?, report, read]
    all_goals rw [report]

/-- A call that is done did what its instruction asks. -/
theorem Called.performed_of_done {called : Called} {instruction : Instruction}
    (did : called.done? = some instruction) :
    ∃ begun after,
      Program.perform called.env (called.call.accounts.map Listed.key) instruction begun =
        .ok () after ∧
      begun.accounts = called.before ∧ begun.calls = [] ∧
      called.report.accounts = after.accounts ∧ called.report.calls = after.calls := by
  rcases called.failed_or_done with ⟨failed, _⟩ | ⟨_, begun, after, did', performed, rest⟩
  · exact nomatch failed.symm.trans did
  · obtain rfl := Option.some.inj (did'.symm.trans did)
    exact ⟨begun, after, performed, rest⟩

/-- What a call does to the custody of collateral, whether it fails or not. -/
theorem Called.custody (called : Called) (sound : called.before.Sound called.call.program) :
    called.report.accounts.Sound called.call.program ∧
      called.report.accounts.custody called.call.program + called.moved Instruction.released =
        called.before.custody called.call.program +
          called.moved fun instruction _ => instruction.deposited := by
  rcases called.failed_or_done with
    ⟨failed, same⟩ | ⟨instruction, begun, after, did, performed, start, silent, accounts, calls⟩
  · rw [same, moved_of_failed failed, moved_of_failed failed]
    exact ⟨sound, rfl⟩
  · rw [← start] at sound
    obtain ⟨_, made, writes, balanced⟩ := Program.custody_of_perform sound performed
    have all : called.report.calls = made := by
      rw [calls, writes.calls, silent, List.nil_append]
    rw [accounts, moved_of_done did, moved_of_done did, all, ← start]
    exact ⟨writes.sound, balanced⟩

/-! ## The life of the program -/

namespace Accounts

/-- The program was not set up: no account of it holds anything. -/
def Uninitialised (accounts : Accounts) (program : Key) : Prop :=
  ∀ key, (accounts.get key).Vacant program

theorem Uninitialised.sound {accounts : Accounts} {program : Key}
    (fresh : accounts.Uninitialised program) : accounts.Sound program :=
  fun key => .of_vacant (fresh key)

/-- Where no listed account is the program's, it was not set up. -/
theorem uninitialised_of_forall {accounts : Accounts} {program : Key}
    (foreign : ∀ entry ∈ accounts.entries, entry.2.owner ≠ program)
    (other : systemProgram ≠ program) : accounts.Uninitialised program := by
  intro key owned
  rw [get, find?] at owned
  cases found : accounts.entries.find? fun entry => entry.1 = key with
  | none =>
    rw [found] at owned
    exact absurd owned other
  | some entry =>
    rw [found] at owned
    exact absurd owned (foreign entry (List.mem_of_find?_eq_some found))

/-- **The life of a program on the chain,** with the history of its calls, those that failed
included. A call leaves its accounts behind. Everybody else only changes accounts that are not the
program's or are blank, into others of that sort. -/
inductive Evolves (program : Key) (start : Accounts) : List Called → Accounts → Prop
  | start : Evolves program start [] start
  | call {history : List Called} {accounts : Accounts}
      (evolves : Evolves program start history accounts) (call : ClientCall) (now : Int64)
      (own : call.program = program) :
      Evolves program start (history ++ [⟨call, accounts, now⟩])
        (Called.report ⟨call, accounts, now⟩).accounts
  | others {history : List Called} {before after : Accounts}
      (evolves : Evolves program start history before) (spares : before.Spares program after) :
      Evolves program start history after

variable {program : Key} {start accounts : Accounts} {history earlier later : List Called}
  {called : Called}

/-- A call of the program on the accounts of the chain is the next one of its life. -/
theorem Evolves.next (called : Called) (evolves : start.Evolves program history called.before)
    (own : called.call.program = program) :
    start.Evolves program (history ++ [called]) called.report.accounts :=
  evolves.call called.call called.now own

/-- Sound accounts stay sound. -/
theorem Evolves.sound (evolves : start.Evolves program history accounts)
    (sound : start.Sound program) : accounts.Sound program := by
  induction evolves with
  | start => exact sound
  | @call _ accounts _ call now own ih =>
    subst own
    exact (Called.custody ⟨call, accounts, now⟩ ih).1
  | others _ spares ih => exact ih.spare spares

/-- A call of a history met the accounts that the calls before it had led to. -/
theorem Evolves.upTo (evolves : start.Evolves program history accounts)
    (splits : history = earlier ++ called :: later) :
    start.Evolves program earlier called.before ∧ called.call.program = program := by
  induction evolves generalizing later with
  | start => exact absurd splits (by simp)
  | @call history accounts evolves call now own ih =>
    rcases List.eq_nil_or_concat later with rfl | ⟨rest, last, rfl⟩
    · obtain ⟨rfl, same⟩ := List.append_inj' splits rfl
      obtain rfl := List.singleton_inj.mp same
      exact ⟨evolves, own⟩
    · rw [List.concat_eq_append, ← List.cons_append, ← List.append_assoc] at splits
      exact ih (List.append_inj' splits rfl).1
  | others _ _ ih => exact ih splits

/-- The calls of a history are calls of the program, and met sound accounts. -/
theorem Evolves.sound_of_mem (fresh : start.Uninitialised program)
    (evolves : start.Evolves program history accounts) (member : called ∈ history) :
    called.call.program = program ∧ called.before.Sound called.call.program := by
  obtain ⟨_, _, splits⟩ := List.append_of_mem member
  obtain ⟨past, own⟩ := evolves.upTo splits
  rw [own]
  exact ⟨rfl, past.sound fresh.sound⟩

end Accounts

end FeeTreasury
