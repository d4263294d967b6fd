import FeeTreasury.Proofs.Ledger.Capacity
import FeeTreasury.Proofs.Treasury.Claims
import FeeTreasury.Proofs.Treasury.Rewards

/-!
# What the books of a run tally with

To the ledger, a step without import does one of three things: it moves money, it brings the index
forward to its time, or it closes the open period (`FeeTreasury.Treasury.books_of_perform`). To the
reward pool, it brings what it deposits, or it has the pool pay
(`FeeTreasury.Treasury.pool_of_perform`). So along a run whose times lie before the horizon, the
ledger keeps pace with its clock, its pots collect no more than was recorded, its periods are
numbered by the closes, and a share is rewarded with no more than was deposited
(`FeeTreasury.Treasury.Run.tallies`).
-/

namespace FeeTreasury

open Outcome

namespace Operation

variable {ι : Type}

/-- The time that the operation is made at, if it depends on one. -/
def time : Operation ι → Option Int64
  | .accrue now _ | .setShares _ _ now | .liquidate _ _ now | .close now _ _
  | .closeFromRelayer now _ _ _ _ | .importPeriod now _ _ => some now
  | _ => none

/-- The operation is made at a time from the epoch to the horizon, if it depends on one. -/
def InTime (operation : Operation ι) : Prop := ∀ now ∈ operation.time, Timely now

instance (operation : Operation ι) : Decidable operation.InTime :=
  Option.decidableForallMem operation.time

/-- What the operation brings to the reward pool. -/
def deposited : Operation ι → Nat
  | .deposit amount _ => amount.toNat
  | .liquidate _ plan _ => plan.poolDeposit.toNat
  | _ => 0

end Operation

namespace Treasury

variable {ι : Type}

/-- All that was brought to the reward pool in a history. -/
def deposited (history : List (Step ι)) : Nat :=
  (history.map fun step => step.operation.deposited).sum

/-- How often a period was closed in a history. -/
def closings (history : List (Step ι)) : Nat :=
  history.countP fun step => step.operation.closes

theorem deposited_cons (step : Step ι) (history : List (Step ι)) :
    deposited (step :: history) = step.operation.deposited + deposited history := rfl

theorem closings_cons (step : Step ι) (history : List (Step ι)) :
    closings (step :: history) = closings history + if step.operation.closes then 1 else 0 :=
  List.countP_cons

/-! ## What a step does to the ledger and to the pool -/

/-- What an operation without import does to the ledger: it moves money, it brings the index forward
to its time, or it closes the open period at its time. -/
inductive Books (operation : Operation ι) (before after : PeriodLedger) : Prop where
  | pay (stays : operation.closes = false) (timeline : after.timeline = before.timeline)
      (collected : ∀ purse,
        after.collected purse = before.collected purse + operation.recorded purse)
  | accrue {now : Int64} {supply : UInt64} (stays : operation.closes = false)
      (timed : now ∈ operation.time) (accrued : before.accrue now supply = .ok after)
  | close {now duration : Int64} {supply id : UInt64} (closes : operation.closes = true)
      (timed : now ∈ operation.time)
      (rotated : before.rotate now duration supply = .ok (after, id))

variable [DecidableEq ι] {start treasury after : Treasury ι} {receipt : Receipt} {who : ι}
  {history : List (Step ι)} {operation : Operation ι}

omit [DecidableEq ι] in
/-- An operation that leaves the ledger alone moves nothing. -/
theorem Books.refl (stays : operation.closes = false)
    (nothing : ∀ purse, operation.recorded purse = 0) (ledger : PeriodLedger) :
    Books operation ledger ledger :=
  .pay stays rfl fun purse => by rw [nothing, Nat.add_zero]

theorem books_of_perform (free : operation.isImport = false)
    (performed : treasury.perform operation = .ok (after, receipt)) :
    Books operation treasury.ledger after.ledger := by
  cases performs_of_perform performed with
  | recordFee recorded =>
    refine .pay rfl (PeriodLedger.timeline_recordFee recorded) fun purse => ?_
    obtain ⟨_, rfl, pays⟩ := PeriodLedger.recordFee_pays recorded
    rw [PeriodLedger.collected_put (by decide) pays]
    cases purse <;> rfl
  | recordReward recorded =>
    refine .pay rfl (PeriodLedger.timeline_recordReward recorded) fun purse => ?_
    obtain ⟨_, rfl, pays⟩ := PeriodLedger.recordReward_pays recorded
    rw [PeriodLedger.collected_put (by decide) pays]
    cases purse <;> rfl
  | accrue accrued => exact .accrue rfl rfl accrued
  | setShares changed => exact .accrue rfl rfl (ShareBooks.setShares_eq_ok changed).1
  | liquidate liquidated =>
    obtain ⟨_, _, changed⟩ := ShareBooks.liquidate_eq_ok liquidated
    exact .accrue rfl rfl (ShareBooks.setShares_eq_ok changed).1
  | close closed =>
    obtain ⟨_, rotated⟩ := PeriodLedger.rotate_of_closeCurrent closed
    exact .close rfl rfl rotated
  | closeFromRelayer closed =>
    obtain ⟨_, rotated⟩ := PeriodLedger.rotate_of_closeFromRelayer closed
    exact .close rfl rfl rotated
  | claim claimed =>
    obtain ⟨_, _, _, _, _, _, summed, _, marked, _⟩ := Claiming.claim_eq_ok claimed
    exact .pay rfl (PeriodLedger.markAll_paysOut marked summed).timeline
      (PeriodLedger.collected_markAll marked)
  | claimOnBehalf claimed =>
    obtain ⟨_, _, _, _, _, _, summed, _, marked, _⟩ :=
      Claiming.claim_eq_ok (Claiming.claimOnBehalf_eq_ok claimed).2
    exact .pay rfl (PeriodLedger.markAll_paysOut marked summed).timeline
      (PeriodLedger.collected_markAll marked)
  | importPeriod => simp only [Operation.isImport, reduceCtorEq] at free
  | setCollateral | deposit | credit | takeReward => exact .refl rfl (fun _ => rfl) _

/-- An operation brings to the pool what it deposits, or has the pool pay. -/
theorem pool_of_perform (performed : treasury.perform operation = .ok (after, receipt)) :
    (∃ amount supply, treasury.pool.Receives after.pool amount supply ∧
      amount.toNat = operation.deposited) ∨
    operation.deposited = 0 ∧ ∃ amount, treasury.pool.Pays after.pool amount := by
  cases performs_of_perform performed with
  | liquidate liquidated =>
    obtain ⟨_, _, _, _, deposited⟩ := ShareBooks.liquidate_parts liquidated
    exact .inl ⟨_, _, RewardPool.receives_of_deposit deposited, rfl⟩
  | deposit deposited => exact .inl ⟨_, _, RewardPool.receives_of_deposit deposited, rfl⟩
  | takeReward taken => exact .inr ⟨rfl, _, (RewardPool.takeReward_eq_ok taken).2.2⟩
  | _ => exact .inl ⟨0, 0, .refl _ _, rfl⟩

/-! ## Tallies along a run -/

/-- What the books of a run tally with: the ledger keeps pace with its clock, its pots collected no
more than was recorded, its periods are numbered by the closes, and the pool received all deposits
and rewarded a share with no more. -/
structure Tallies (history : List (Step ι)) (treasury : Treasury ι) : Prop where
  paced : treasury.ledger.timeline.Paced
  collected_le : ∀ purse, treasury.ledger.collected purse ≤ recorded history purse
  counted : treasury.ledger.current.id.toNat = closings history + 1
  deposited : treasury.pool.totalDeposited.toNat = deposited history
  spreads : treasury.pool.Spreads

omit [DecidableEq ι] in
/-- The ledger's part of the tallies after a step. -/
theorem Books.tallies {before after : PeriodLedger} (books : Books operation before after)
    (inTime : operation.InTime) (paced : before.timeline.Paced) :
    after.timeline.Paced ∧
      (∀ purse, after.collected purse ≤ before.collected purse + operation.recorded purse) ∧
      after.current.id.toNat = before.current.id.toNat + if operation.closes then 1 else 0 := by
  cases books with
  | pay stays timeline collected =>
    refine ⟨timeline ▸ paced, fun purse => Nat.le_of_eq (collected purse), ?_⟩
    have same : after.current.id = before.current.id :=
      congrArg (fun line : Timeline => (line.spans 0).id) timeline
    simp only [same, stays, Bool.false_eq_true, ↓reduceIte, Nat.add_zero]
  | accrue stays timed accrued =>
    have same := PeriodLedger.window_accrue accrued
    refine ⟨PeriodLedger.paced_accrue paced (inTime _ timed) accrued, fun purse => ?_, ?_⟩
    · rw [PeriodLedger.collected_congr same]
      exact Nat.le_add_right ..
    · simp only [PeriodLedger.current, same, stays, Bool.false_eq_true, ↓reduceIte, Nat.add_zero]
  | close closes timed rotated =>
    obtain ⟨accrued, brought, _, rotates⟩ := PeriodLedger.rotate_eq_ok rotated
    have same := PeriodLedger.window_accrue brought
    have kept := PeriodLedger.paced_accrue paced (inTime _ timed) brought
    refine ⟨rotates.paced (inTime _ timed) kept, fun purse => ?_, ?_⟩
    · refine Nat.le_trans (rotates.collected_le purse) ?_
      rw [PeriodLedger.collected_congr same]
      exact Nat.le_add_right ..
    · obtain ⟨next, number, opened⟩ := rotates.opened
      simp only [closes, ↓reduceIte, PeriodLedger.current, opened]
      exact number.trans (congrArg (fun period : FeePeriod => period.id.toNat + 1) (same 0))

/-- A timely step keeps the tallies. -/
theorem Tallies.step (tallies : Tallies history treasury) (free : operation.isImport = false)
    (inTime : operation.InTime) (performed : treasury.perform operation = .ok (after, receipt)) :
    Tallies (⟨treasury, operation, after, receipt⟩ :: history) after := by
  obtain ⟨paced, collected, numbered⟩ :=
    (books_of_perform free performed).tallies inTime tallies.paced
  refine ⟨paced, fun purse => ?_, ?_, ?_, ?_⟩
  · have before := tallies.collected_le purse
    have step := collected purse
    simp only [recorded_cons]
    omega
  · simp only [numbered, tallies.counted, closings_cons]
    omega
  · rw [deposited_cons, ← tallies.deposited]
    obtain ⟨amount, _, receives, brought⟩ | ⟨nothing, _, pays⟩ := pool_of_perform performed
    · rw [receives.totalDeposited, ← brought, Nat.add_comm]
    · rw [pays.totalDeposited, nothing, Nat.zero_add]
  · obtain ⟨_, _, receives, _⟩ | ⟨_, _, pays⟩ := pool_of_perform performed
    · exact receives.spreads tallies.spreads
    · exact pays.spreads tallies.spreads

omit [DecidableEq ι] in
theorem Fresh.tallies (fresh : start.Fresh) (unfunded : start.Unfunded)
    (timely : Timely start.ledger.lastAccrual) : Tallies [] start := by
  obtain ⟨now, bump, ledger⟩ := fresh.ledger
  obtain ⟨seed, pool⟩ := unfunded.pool
  rw [ledger] at timely
  refine ⟨ledger ▸ PeriodLedger.paced_new timely, fun purse => ?_, ?_, ?_, ?_⟩
  · rw [ledger, PeriodLedger.collected_new]
    exact Nat.zero_le _
  · rw [ledger, PeriodLedger.current, PeriodLedger.window_new]
    rfl
  · rw [pool]
    rfl
  · rw [pool]
    exact Nat.le_refl 0

theorem Run.tallies (run : start.Run history treasury) (fresh : start.Fresh)
    (unfunded : start.Unfunded) (opened : Timely start.ledger.lastAccrual)
    (free : ImportFree history) (inTime : ∀ step ∈ history, step.operation.InTime) :
    Tallies history treasury := by
  induction run with
  | start => exact fresh.tallies unfunded opened
  | step _ performed ih =>
    obtain ⟨imports, earlier⟩ := importFree_cons.mp free
    obtain ⟨last, before⟩ := List.forall_mem_cons.mp inTime
    exact (ih earlier before).step imports last performed

end Treasury

end FeeTreasury
