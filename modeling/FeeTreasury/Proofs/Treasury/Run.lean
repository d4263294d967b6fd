import FeeTreasury.Claim
import FeeTreasury.Liquidation.Rules
import FeeTreasury.Proofs.Answer

/-!
# Runs of the treasury

The treasury of a set of stakers is its ledger, its registry, its reward pool, and one account for
each staker. An operation applies one rule to these books and writes back what the rule gives. What
a successful one did is read off that rule's answer (`FeeTreasury.Treasury.performs_of_perform`). A
run is any sequence of operations that succeed, in any order and at any times. Its history lists the
steps, the last one first, each with the treasury before and after it, so that a quantity over a
whole run is a sum over the history.
-/

namespace FeeTreasury

open Outcome

/-- The books of a treasury. -/
structure Treasury (ι : Type) where
  ledger : PeriodLedger
  registry : ShareRegistry
  pool : RewardPool
  stakers : ι → Staker

/-- In a sum over accounts the part of one is replaced. -/
theorem sum_update_add {κ β : Type} [DecidableEq κ] {keys : Finset κ} {key : κ}
    (member : key ∈ keys) (accounts : κ → β) (part : β → Nat) (value : β) :
    ∑ other ∈ keys, part (Function.update accounts key value other) + part (accounts key) =
      ∑ other ∈ keys, part (accounts other) + part value := by
  have others : ∑ other ∈ keys.erase key, part (Function.update accounts key value other) =
      ∑ other ∈ keys.erase key, part (accounts other) :=
    Finset.sum_congr rfl fun other member => by
      rw [Function.update_of_ne (Finset.ne_of_mem_erase member)]
  rw [← Finset.add_sum_erase _ _ member, others, Function.update_self,
    ← Finset.add_sum_erase _ (fun other => part (accounts other)) member]
  omega

/-- One request to the treasury's rules. -/
inductive Operation (ι : Type) where
  | recordFee (amount : UInt64)
  | recordReward (amount : UInt64)
  /-- Bring the ownership index forward with a supply. -/
  | accrue (now : Int64) (supply : UInt64)
  | setShares (who : ι) (balance : UInt64) (now : Int64)
  | liquidate (who : ι) (plan : LiquidationPlan) (now : Int64)
  /-- Anyone closes the open period. -/
  | close (now duration : Int64) (supply : UInt64)
  | closeFromRelayer (now : Int64) (id : UInt64) (duration configured : Int64) (supply : UInt64)
  | claim (who : ι) (terms : ClaimTerms)
  | claimOnBehalf (who : ι) (approval : Approval) (delegate : Key) (terms : ClaimTerms)
  | importPeriod (now : Int64) (index : Nat) (history : PeriodImport)
  /-- Collateral of a staker is deposited or withdrawn. -/
  | setCollateral (who : ι) (collateral : UInt64)
  /-- The reward pool receives an amount. -/
  | deposit (amount supply : UInt64)
  | credit (who : ι)
  | takeReward (who : ι)

/-- What an operation hands out. -/
inductive Receipt where
  | nothing
  /-- The id of the closed period. -/
  | closed (id : UInt64)
  | claimed (entitlement : Entitlement)
  | released (amount : UInt64)
  deriving DecidableEq, Repr

namespace Operation

variable {ι : Type}

/-- Whether the operation overwrites a period with migrated history. -/
def isImport : Operation ι → Bool
  | .importPeriod .. => true
  | _ => false

/-- The supply that the request brings the ownership index forward with, if it names one. -/
def namedSupply : Operation ι → Option UInt64
  | .accrue _ supply | .close _ _ supply | .closeFromRelayer _ _ _ _ supply => some supply
  | _ => none

/-- The operation brings the ownership index forward with no other supply than the given one. -/
def InStep (supply : UInt64) (operation : Operation ι) : Prop :=
  ∀ named ∈ operation.namedSupply, named = supply

instance (supply : UInt64) (operation : Operation ι) : Decidable (operation.InStep supply) :=
  Option.decidableForallMem operation.namedSupply

end Operation

namespace Treasury

variable {ι : Type}

/-- One step of a run. -/
structure Step (ι : Type) where
  before : Treasury ι
  operation : Operation ι
  after : Treasury ι
  receipt : Receipt

/-- No step of the history imports a period. -/
def ImportFree (history : List (Step ι)) : Prop :=
  ∀ step ∈ history, step.operation.isImport = false

/-- Every step of the history brings the ownership index forward with the registry's supply. -/
def InStep (history : List (Step ι)) : Prop :=
  ∀ step ∈ history, step.operation.InStep step.before.registry.supply

instance (history : List (Step ι)) : Decidable (ImportFree history) :=
  List.decidableBAll _ history

instance (history : List (Step ι)) : Decidable (InStep history) :=
  List.decidableBAll _ history

theorem importFree_cons {step : Step ι} {history : List (Step ι)} :
    ImportFree (step :: history) ↔ step.operation.isImport = false ∧ ImportFree history :=
  List.forall_mem_cons

theorem inStep_cons {step : Step ι} {history : List (Step ι)} :
    InStep (step :: history) ↔
      step.operation.InStep step.before.registry.supply ∧ InStep history :=
  List.forall_mem_cons

/-- A treasury with a new ledger, a new registry and new stakers. A staker that joins later is one
that no step has touched before. -/
structure Fresh (treasury : Treasury ι) : Prop where
  ledger : ∃ now bump, treasury.ledger = PeriodLedger.new now bump
  registry : ∃ bump, treasury.registry = ShareRegistry.new bump
  stakers : ∀ who, ∃ owner bump now, treasury.stakers who = Staker.new owner bump now

/-- A treasury that is set up at a time. -/
def opened (now : Int64) : Treasury ι where
  ledger := PeriodLedger.new now 255
  registry := ShareRegistry.new 255
  pool := RewardPool.new 255
  stakers _ := Staker.new Key.zero 255 now

theorem fresh_opened (now : Int64) : (opened now : Treasury ι).Fresh where
  ledger := ⟨now, 255, rfl⟩
  registry := ⟨255, rfl⟩
  stakers _ := ⟨Key.zero, 255, now, rfl⟩

variable [DecidableEq ι]

/-- Write back the account of one staker. -/
def putStaker (treasury : Treasury ι) (who : ι) (staker : Staker) : Treasury ι :=
  { treasury with stakers := Function.update treasury.stakers who staker }

/-- The books that a change of a staker's shares reads and writes. -/
def shareBooks (treasury : Treasury ι) (who : ι) : ShareBooks :=
  ⟨treasury.ledger, treasury.registry, treasury.stakers who⟩

/-- Write back the books of a change of a staker's shares. -/
def putShareBooks (treasury : Treasury ι) (who : ι) (books : ShareBooks) : Treasury ι :=
  { treasury.putStaker who books.staker with ledger := books.ledger, registry := books.registry }

/-- Write back the books of a staker's claim that came to its end. -/
def settleClaim (treasury : Treasury ι) (who : ι) (claiming : Claiming Entitlement) :
    Outcome (Treasury ι × Receipt) :=
  match claiming ⟨treasury.ledger, treasury.stakers who⟩ with
  | .ok entitlement books =>
    .ok ({ treasury.putStaker who books.staker with ledger := books.ledger }, .claimed entitlement)
  | .error fault _ => .error fault

/-- Carry out an operation. -/
def perform (treasury : Treasury ι) : Operation ι → Outcome (Treasury ι × Receipt)
  | .recordFee amount => do
    let ledger ← treasury.ledger.recordFee amount
    return ({ treasury with ledger }, .nothing)
  | .recordReward amount => do
    let ledger ← treasury.ledger.recordReward amount
    return ({ treasury with ledger }, .nothing)
  | .accrue now supply => do
    let ledger ← treasury.ledger.accrue now supply
    return ({ treasury with ledger }, .nothing)
  | .setShares who balance now => do
    let books ← (treasury.shareBooks who).setShares treasury.pool balance now
    return (treasury.putShareBooks who books, .nothing)
  | .liquidate who plan now => do
    let (books, pool) ← (treasury.shareBooks who).liquidate treasury.pool plan now
    return ({ treasury.putShareBooks who books with pool }, .nothing)
  | .close now duration supply => do
    let (ledger, id) ← treasury.ledger.closeCurrent now duration supply
    return ({ treasury with ledger }, .closed id)
  | .closeFromRelayer now id duration configured supply => do
    let (ledger, id) ← treasury.ledger.closeFromRelayer now id duration configured supply
    return ({ treasury with ledger }, .closed id)
  | .claim who terms => treasury.settleClaim who (Claiming.claim terms)
  | .claimOnBehalf who approval delegate terms =>
    treasury.settleClaim who (Claiming.claimOnBehalf approval delegate terms)
  | .importPeriod now index history => do
    let ledger ← treasury.ledger.importPeriod now index history
    return ({ treasury with ledger }, .nothing)
  | .setCollateral who collateral =>
    pure (treasury.putStaker who { treasury.stakers who with collateral }, .nothing)
  | .deposit amount supply => do
    let pool ← treasury.pool.deposit amount supply
    return ({ treasury with pool }, .nothing)
  | .credit who => do
    let rewards ← treasury.pool.credit (treasury.stakers who).rewards (treasury.stakers who).shares
    return (treasury.putStaker who { treasury.stakers who with rewards }, .nothing)
  | .takeReward who => do
    let (pool, rewards, amount) ←
      treasury.pool.takeReward (treasury.stakers who).rewards (treasury.stakers who).shares
    return ({ treasury.putStaker who { treasury.stakers who with rewards } with pool },
      .released amount)

/-- What it takes to carry out an operation: the rule that answers, and where its answer is written.
-/
inductive Performs (treasury : Treasury ι) : Operation ι → Treasury ι → Receipt → Prop
  | recordFee {amount : UInt64} {ledger : PeriodLedger}
      (recorded : treasury.ledger.recordFee amount = .ok ledger) :
      Performs treasury (.recordFee amount) { treasury with ledger } .nothing
  | recordReward {amount : UInt64} {ledger : PeriodLedger}
      (recorded : treasury.ledger.recordReward amount = .ok ledger) :
      Performs treasury (.recordReward amount) { treasury with ledger } .nothing
  | accrue {now : Int64} {supply : UInt64} {ledger : PeriodLedger}
      (accrued : treasury.ledger.accrue now supply = .ok ledger) :
      Performs treasury (.accrue now supply) { treasury with ledger } .nothing
  | setShares {who : ι} {balance : UInt64} {now : Int64} {books : ShareBooks}
      (changed : (treasury.shareBooks who).setShares treasury.pool balance now = .ok books) :
      Performs treasury (.setShares who balance now) (treasury.putShareBooks who books) .nothing
  | liquidate {who : ι} {plan : LiquidationPlan} {now : Int64} {books : ShareBooks}
      {pool : RewardPool}
      (liquidated : (treasury.shareBooks who).liquidate treasury.pool plan now =
        .ok (books, pool)) :
      Performs treasury (.liquidate who plan now) { treasury.putShareBooks who books with pool }
        .nothing
  | close {now duration : Int64} {supply id : UInt64} {ledger : PeriodLedger}
      (closed : treasury.ledger.closeCurrent now duration supply = .ok (ledger, id)) :
      Performs treasury (.close now duration supply) { treasury with ledger } (.closed id)
  | closeFromRelayer {now duration configured : Int64} {given supply id : UInt64}
      {ledger : PeriodLedger}
      (closed : treasury.ledger.closeFromRelayer now given duration configured supply =
        .ok (ledger, id)) :
      Performs treasury (.closeFromRelayer now given duration configured supply)
        { treasury with ledger } (.closed id)
  | claim {who : ι} {terms : ClaimTerms} {total : Entitlement} {books : ClaimBooks}
      (claimed : Claiming.claim terms ⟨treasury.ledger, treasury.stakers who⟩ = .ok total books) :
      Performs treasury (.claim who terms)
        { treasury.putStaker who books.staker with ledger := books.ledger } (.claimed total)
  | claimOnBehalf {who : ι} {approval : Approval} {delegate : Key} {terms : ClaimTerms}
      {total : Entitlement} {books : ClaimBooks}
      (claimed : Claiming.claimOnBehalf approval delegate terms
        ⟨treasury.ledger, treasury.stakers who⟩ = .ok total books) :
      Performs treasury (.claimOnBehalf who approval delegate terms)
        { treasury.putStaker who books.staker with ledger := books.ledger } (.claimed total)
  | importPeriod {now : Int64} {index : Nat} {history : PeriodImport} {ledger : PeriodLedger}
      (imported : treasury.ledger.importPeriod now index history = .ok ledger) :
      Performs treasury (.importPeriod now index history) { treasury with ledger } .nothing
  | setCollateral (who : ι) (collateral : UInt64) :
      Performs treasury (.setCollateral who collateral)
        (treasury.putStaker who { treasury.stakers who with collateral }) .nothing
  | deposit {amount supply : UInt64} {pool : RewardPool}
      (deposited : treasury.pool.deposit amount supply = .ok pool) :
      Performs treasury (.deposit amount supply) { treasury with pool } .nothing
  | credit {who : ι} {rewards : Checkpoint}
      (credited : treasury.pool.credit (treasury.stakers who).rewards
        (treasury.stakers who).shares = .ok rewards) :
      Performs treasury (.credit who)
        (treasury.putStaker who { treasury.stakers who with rewards }) .nothing
  | takeReward {who : ι} {pool : RewardPool} {rewards : Checkpoint} {amount : UInt64}
      (taken : treasury.pool.takeReward (treasury.stakers who).rewards
        (treasury.stakers who).shares = .ok (pool, rewards, amount)) :
      Performs treasury (.takeReward who)
        { treasury.putStaker who { treasury.stakers who with rewards } with pool }
        (.released amount)

variable {treasury after : Treasury ι} {receipt : Receipt}

theorem settleClaim_eq_ok {who : ι} {claiming : Claiming Entitlement}
    (settled : treasury.settleClaim who claiming = .ok (after, receipt)) :
    ∃ entitlement books, claiming ⟨treasury.ledger, treasury.stakers who⟩ = .ok entitlement books ∧
      receipt = .claimed entitlement ∧
      after = { treasury.putStaker who books.staker with ledger := books.ledger } := by
  unfold settleClaim at settled
  split at settled
  · simp only [Except.ok.injEq, Prod.mk.injEq] at settled
    exact ⟨_, _, ‹_›, settled.2.symm, settled.1.symm⟩
  · exact nomatch settled

/-- An operation that succeeds was carried out. What a step does is read off its rule's answer. -/
theorem performs_of_perform {operation : Operation ι}
    (performed : treasury.perform operation = .ok (after, receipt)) :
    treasury.Performs operation after receipt := by
  cases operation with
  | setCollateral who collateral =>
    simp only [perform, pure_eq_ok, Prod.mk.injEq] at performed
    obtain ⟨rfl, rfl⟩ := performed
    exact .setCollateral who collateral
  | claim who terms =>
    obtain ⟨_, _, claimed, rfl, rfl⟩ := settleClaim_eq_ok performed
    exact .claim claimed
  | claimOnBehalf who approval delegate terms =>
    obtain ⟨_, _, claimed, rfl, rfl⟩ := settleClaim_eq_ok performed
    exact .claimOnBehalf claimed
  | _ =>
    simp only [perform, bind_eq_ok, pure_eq_ok, Prod.mk.injEq] at performed
    obtain ⟨_, answered, rfl, rfl⟩ := performed
    constructor
    exact answered

/-- An operation whose rule answers succeeds. -/
theorem Performs.perform {operation : Operation ι}
    (performs : treasury.Performs operation after receipt) :
    treasury.perform operation = .ok (after, receipt) := by
  cases performs with
  | setCollateral => rfl
  | claim answered | claimOnBehalf answered =>
    simp only [Treasury.perform, settleClaim, answered]
  | recordFee answered | recordReward answered | accrue answered | setShares answered
  | liquidate answered | close answered | closeFromRelayer answered | importPeriod answered
  | deposit answered | credit answered | takeReward answered =>
    simp only [Treasury.perform, bind_eq_ok]
    exact ⟨_, answered, rfl⟩

/-- A run from a treasury: the steps so far, the last one first, and the treasury they lead to. -/
inductive Run (start : Treasury ι) : List (Step ι) → Treasury ι → Prop
  | start : Run start [] start
  | step {history : List (Step ι)} {before after : Treasury ι} {operation : Operation ι}
      {receipt : Receipt} (run : Run start history before)
      (performed : before.perform operation = .ok (after, receipt)) :
      Run start (⟨before, operation, after, receipt⟩ :: history) after

theorem Run.trans {start middle treasury : Treasury ι} {earlier later : List (Step ι)}
    (first : start.Run earlier middle) (second : middle.Run later treasury) :
    start.Run (later ++ earlier) treasury := by
  induction second with
  | start => exact first
  | step _ performed ih => exact ih.step performed

/-- Two stakers, which is enough to see how shares divide. -/
inductive Pair where
  | first
  | second
  deriving DecidableEq

instance : Fintype Pair where
  elems := {.first, .second}
  complete who := by cases who <;> decide

/-- Carry out an operation at the end of a run. One that fails leaves everything as it is. -/
def attempt (played : List (Step ι) × Treasury ι) (operation : Operation ι) :
    List (Step ι) × Treasury ι :=
  match played.2.perform operation with
  | .ok (after, receipt) => (⟨played.2, operation, after, receipt⟩ :: played.1, after)
  | .error _ => played

/-- Carry out some operations one after the other. -/
def play (start : Treasury ι) (operations : List (Operation ι)) : List (Step ι) × Treasury ι :=
  operations.foldl attempt ([], start)

theorem Run.attempt {start : Treasury ι} {played : List (Step ι) × Treasury ι}
    (run : start.Run played.1 played.2) (operation : Operation ι) :
    start.Run (attempt played operation).1 (attempt played operation).2 := by
  unfold Treasury.attempt
  split
  · exact run.step ‹_›
  · exact run

/-- Any operations make a run of those that succeed. -/
theorem run_play (start : Treasury ι) (operations : List (Operation ι)) :
    start.Run (start.play operations).1 (start.play operations).2 := by
  have continued : ∀ played : List (Step ι) × Treasury ι, start.Run played.1 played.2 →
      start.Run (operations.foldl Treasury.attempt played).1
        (operations.foldl Treasury.attempt played).2 := by
    induction operations with
    | nil => exact fun _ run => run
    | cons operation rest ih => exact fun _ run => ih _ (run.attempt operation)
  exact continued _ .start

end Treasury

end FeeTreasury
