import FeeTreasury.Proofs.Faults
import FeeTreasury.Proofs.Ledger.Pace
import FeeTreasury.Proofs.Treasury.Migration
import FeeTreasury.Proofs.Treasury.Tallies

/-!
# Operations that are not aborted

A ledger that is opened at the epoch or later never brings its index back before the epoch, whatever
is imported, so that the seconds since the last accrual are always a time. The seconds since the
start of the open period need not be: history can be imported with any start. A close by anyone
passes the check of the elapsed time, which saturates, and then takes the difference, which does
not. No other operation is aborted, and this one only if the difference is no time
(`FeeTreasury.Treasury.aborts_iff_overlong`). It cannot be unless history was imported that starts
before the epoch (`FeeTreasury.Treasury.Run.not_overlong`).
-/

namespace FeeTreasury

open Outcome

namespace PeriodLedger

variable {ledger after : PeriodLedger} {now duration : Int64} {supply id : UInt64}

/-- Bringing the index forward never brings it back before the epoch. -/
theorem begun_of_accrue (accrued : ledger.accrue now supply = .ok after)
    (begun : 0 ≤ ledger.lastAccrual) : 0 ≤ after.lastAccrual := by
  simp only [accrue, ite_eq_ok, bind_eq_ok, pure_eq_ok, Int64.not_le] at accrued
  obtain ⟨_, rfl⟩ | ⟨later, _, _, ⟨_, rfl⟩ | ⟨_, _, _, _, _, _, _, rfl⟩⟩ := accrued
  · exact begun
  all_goals exact Int64.le_of_lt (Int64.lt_of_le_of_lt begun later)

theorem begun_of_rotate (rotated : ledger.rotate now duration supply = .ok (after, id))
    (begun : 0 ≤ ledger.lastAccrual) : 0 ≤ after.lastAccrual := by
  obtain ⟨_, accrued, _, rotates⟩ := rotate_eq_ok rotated
  exact rotates.lastAccrual ▸ begun_of_accrue accrued begun

/-- The check of the elapsed time passes, but the seconds since the start of the open period are
more than a time can hold. -/
def Overlong (ledger : PeriodLedger) (now duration : Int64) : Prop :=
  0 < duration ∧ saturateTime (ledger.current.start.toInt + duration.toInt) ≤ now ∧
    Int64.maxValue.toInt < now.toInt - ledger.current.start.toInt

instance (ledger : PeriodLedger) (now duration : Int64) :
    Decidable (ledger.Overlong now duration) :=
  inferInstanceAs (Decidable (_ ∧ _ ∧ _))

/-- The end of a duration that is positive does not lie before its start, even if it saturates. -/
theorem le_saturateTime {start duration : Int64} (positive : 0 < duration) :
    start ≤ saturateTime (start.toInt + duration.toInt) := by
  have forth : 0 < duration.toInt := Int64.lt_iff_toInt_lt.mp positive
  have top : Int64.maxValue.toInt < 2 ^ 63 := by decide
  have least := start.le_toInt
  have most : start.toInt ≤ Int64.maxValue.toInt := start.toInt_le
  rw [Int64.le_iff_toInt_le]
  unfold saturateTime
  split
  · omega
  split
  · exact most
  · rw [Int64.toInt_ofInt_of_le (by omega) (by omega)]
    omega

/-- A close by anyone replies unless the seconds to record are no time. -/
theorem replies_closeCurrent_iff (begun : 0 ≤ ledger.lastAccrual) (now duration : Int64)
    (supply : UInt64) :
    Replies (ledger.closeCurrent now duration supply) ↔ ¬ ledger.Overlong now duration := by
  simp only [replies_iff_failsAs, closeCurrent, failsAs_bind, failsAs_require, require_eq_ok,
    decide_eq_true_eq, failsAs_plainElapsed, failsAs_rotate (.inl begun), ne_eq, reduceCtorEq,
    not_false_eq_true, Fault.not_reasoned_aborted, or_false, implies_true, true_and, and_true,
    Overlong, not_and, Int.not_lt]
  constructor
  · exact fun replies positive passed => (replies () positive () passed).2
  · intro short _ positive _ passed
    refine ⟨?_, short positive passed⟩
    have forth := Int64.le_iff_toInt_le.mp (Int64.le_trans (le_saturateTime positive) passed)
    have least : Int64.minValue.toInt ≤ 0 := by decide
    omega

/-- A close by anyone records the true seconds since the start of the period that it closes. -/
theorem duration_of_closeCurrent
    (closed : ledger.closeCurrent now duration supply = .ok (after, id)) :
    (after.window 1).duration.toInt = now.toInt - ledger.current.start.toInt := by
  simp only [closeCurrent, bind_eq_ok, plainElapsed_eq_ok] at closed
  obtain ⟨_, _, _, _, elapsed, exactly, rotated⟩ := closed
  obtain ⟨_, _, _, rotates⟩ := rotate_eq_ok rotated
  rw [rotates.closed]
  exact exactly

end PeriodLedger

namespace Operation

variable {ι : Type}

/-- A close by anyone whose seconds to record are no time. -/
def Overlong (ledger : PeriodLedger) : Operation ι → Prop
  | .close now duration _ => ledger.Overlong now duration
  | _ => False

/-- The settings that the operation is made under, if it values a position. -/
def settings : Operation ι → Option Settings
  | .claim _ terms | .claimOnBehalf _ _ _ terms => some terms.settings
  | _ => none

/-- The operation is made under settings that the treasury accepts. -/
def Accepted (operation : Operation ι) : Prop :=
  ∀ settings ∈ operation.settings, settings.validate = .ok ()

theorem accepted_of_settings_eq_none {operation : Operation ι} (none : operation.settings = none) :
    operation.Accepted := by
  intro settings named
  rw [none] at named
  exact nomatch named

/-- The operation is made at the epoch or later, if it depends on a time. -/
def Clocked (operation : Operation ι) : Prop := ∀ now ∈ operation.time, 0 ≤ now

instance (operation : Operation ι) : Decidable operation.Clocked :=
  Option.decidableForallMem operation.time

/-- The operation is made at the epoch or later, and brings no history that starts before it. -/
structure Dated (operation : Operation ι) : Prop where
  clocked : operation.Clocked
  imported : ∀ history ∈ operation.imported, 0 ≤ history.start

end Operation

namespace Treasury

variable {ι : Type} [DecidableEq ι] {start treasury after : Treasury ι} {receipt : Receipt}
  {history : List (Step ι)} {operation : Operation ι}

/-! ## One operation -/

theorem failsAs_settleClaim {admits : Fault → Prop} {who : ι} {claiming : Claiming Entitlement}
    (fails : claiming.FailsAs admits) : FailsAs admits (treasury.settleClaim who claiming) := by
  unfold settleClaim
  split
  · exact failsAs_ok _
  · rename_i fault books failed
    rintro _ ⟨⟩
    exact fails _ _ _ failed

/-- An operation on a ledger that was brought forward at the epoch or later is aborted only if it is
a close by anyone whose seconds to record are no time. -/
theorem replies_perform_iff (begun : 0 ≤ treasury.ledger.lastAccrual)
    (accepted : operation.Accepted) :
    Replies (treasury.perform operation) ↔ ¬ operation.Overlong treasury.ledger := by
  have always (fails : FailsAs Fault.Reasoned (treasury.perform operation))
      (never : ¬ operation.Overlong treasury.ledger) :
      Replies (treasury.perform operation) ↔ ¬ operation.Overlong treasury.ledger :=
    iff_of_true (replies_iff_failsAs.mpr fails) never
  cases operation with
  | recordFee amount => exact always (by simp [perform]) id
  | recordReward amount => exact always (by simp [perform]) id
  | accrue now supply =>
    exact always (by simp [perform, PeriodLedger.failsAs_accrue (.inl begun)]) id
  | setShares who balance now =>
    refine always (failsAs_bind.mpr ⟨?_, fun _ _ => failsAs_pure _⟩) id
    exact ShareBooks.failsAs_setShares (.inl begun) treasury.pool balance now
  | liquidate who plan now =>
    refine always (failsAs_bind.mpr ⟨?_, fun _ _ => failsAs_pure _⟩) id
    exact ShareBooks.failsAs_liquidate (.inl begun) treasury.pool plan now
  | close now duration supply =>
    have close := PeriodLedger.replies_closeCurrent_iff begun now duration supply
    simp only [replies_iff_failsAs, perform, failsAs_bind, failsAs_pure, implies_true, and_true]
      at close ⊢
    exact close
  | closeFromRelayer now given duration configured supply =>
    exact always (by simp [perform, PeriodLedger.failsAs_closeFromRelayer (.inl begun)]) id
  | claim who terms =>
    have threshold := (Settings.parts_of_validate (accepted terms.settings rfl)).1
    exact always (failsAs_settleClaim (Claiming.failsAs_claim (.inl threshold))) id
  | claimOnBehalf who approval delegate terms =>
    have threshold := (Settings.parts_of_validate (accepted terms.settings rfl)).1
    exact always
      (failsAs_settleClaim (Claiming.failsAs_claimOnBehalf approval delegate (.inl threshold))) id
  | importPeriod now index history => exact always (by simp [perform]) id
  | setCollateral who collateral => exact always (failsAs_pure _) id
  | deposit amount supply => exact always (by simp [perform]) id
  | credit who => exact always (by simp [perform]) id
  | takeReward who => exact always (by simp [perform]) id

/-- Whatever is carried out, the index is not brought back before the epoch. -/
theorem begun_of_perform (performed : treasury.perform operation = .ok (after, receipt))
    (begun : 0 ≤ treasury.ledger.lastAccrual) : 0 ≤ after.ledger.lastAccrual := by
  cases imported : operation.isImport with
  | true =>
    obtain ⟨_, _, _, _, imports⟩ := import_of_perform imported performed
    obtain ⟨_, _, _, same⟩ := PeriodLedger.importPeriod_eq_ok imports
    rw [same]
    exact begun
  | false =>
    cases books_of_perform imported performed with
    | pay _ timeline _ =>
      have same : after.ledger.lastAccrual = _ := congrArg Timeline.lastAccrual timeline
      exact same ▸ begun
    | accrue _ _ accrued => exact PeriodLedger.begun_of_accrue accrued begun
    | close _ _ rotated => exact PeriodLedger.begun_of_rotate rotated begun

/-- The open period does not start before the epoch after an operation that is dated. -/
theorem start_nonneg_of_perform (performed : treasury.perform operation = .ok (after, receipt))
    (dated : operation.Dated) (started : 0 ≤ treasury.ledger.current.start) :
    0 ≤ after.ledger.current.start := by
  cases imported : operation.isImport with
  | true =>
    obtain ⟨_, _, _, brought, imports⟩ := import_of_perform imported performed
    obtain ⟨_, _, _, same⟩ := PeriodLedger.importPeriod_eq_ok imports
    rw [same, PeriodLedger.current, PeriodLedger.window_put]
    split
    · exact dated.imported _ brought
    · exact started
  | false =>
    cases books_of_perform imported performed with
    | pay _ timeline _ =>
      have same : after.ledger.current.start = _ :=
        congrArg (fun line => (line.spans 0).start) timeline
      exact same ▸ started
    | accrue _ _ accrued =>
      rw [PeriodLedger.current, PeriodLedger.window_accrue accrued]
      exact started
    | close _ timed rotated =>
      obtain ⟨_, _, _, rotates⟩ := PeriodLedger.rotate_eq_ok rotated
      obtain ⟨_, _, opened⟩ := rotates.opened
      rw [PeriodLedger.current, opened]
      exact dated.clocked _ timed

/-! ## Runs -/

theorem Run.begun (run : start.Run history treasury) (begun : 0 ≤ start.ledger.lastAccrual) :
    0 ≤ treasury.ledger.lastAccrual := by
  induction run with
  | start => exact begun
  | step _ performed ih => exact begun_of_perform performed ih

/-- After a run whose operations are dated, no close is overlong. -/
theorem Run.not_overlong (run : start.Run history treasury)
    (dated : ∀ step ∈ history, step.operation.Dated) (started : 0 ≤ start.ledger.current.start)
    (operation : Operation ι) : ¬ operation.Overlong treasury.ledger := by
  have youngest : 0 ≤ treasury.ledger.current.start := by
    induction run with
    | start => exact started
    | step _ performed ih =>
      obtain ⟨last, earlier⟩ := List.forall_mem_cons.mp dated
      exact start_nonneg_of_perform performed last (ih earlier)
  intro overlong
  cases operation with
  | close now duration supply =>
    obtain ⟨_, _, beyond⟩ := overlong
    have begun := Int64.le_iff_toInt_le.mp youngest
    have most : now.toInt ≤ Int64.maxValue.toInt := now.toInt_le
    have zero : (0 : Int64).toInt = 0 := rfl
    omega
  | _ => exact overlong

/-- **What is aborted.** After any run from a ledger that was opened at the epoch or later, imports
of any history included: an operation under accepted settings is aborted exactly if it is a close by
anyone that passes the check of the elapsed time although the seconds since the start of the open
period are more than a time can hold. Such a close that succeeds records exactly these seconds.
What is owed, positions, plans and all questions about them are answered or turned down, whatever
the amounts, prices and shares, and so are settings. -/
theorem aborts_iff_overlong {opening : Int64} {bump : UInt8} (epoch : 0 ≤ opening)
    (opened : start.ledger = PeriodLedger.new opening bump) (run : start.Run history treasury) :
    (∀ operation : Operation ι, operation.Accepted →
      (treasury.perform operation = abort ↔ operation.Overlong treasury.ledger)) ∧
    (∀ now duration supply after receipt,
      treasury.perform (.close now duration supply) = .ok (after, receipt) →
      (after.ledger.window 1).duration.toInt =
        now.toInt - treasury.ledger.current.start.toInt) ∧
    (∀ log lastClaimed, Replies (treasury.ledger.available log lastClaimed)) ∧
    Replies treasury.ledger.totalAvailable ∧
    (∀ shares collateral supply market, Replies (Position.of shares collateral supply market)) ∧
    (∀ redeemed flagReward liquidateReward,
      Replies (splitRewards redeemed flagReward liquidateReward)) ∧
    ∀ settings : Settings, Replies settings.validate ∧
      (settings.validate = .ok () → settings.Responds) := by
  have begun : 0 ≤ treasury.ledger.lastAccrual := run.begun (opened ▸ epoch)
  refine ⟨fun operation accepted => ?_, fun now duration supply after receipt performed => ?_,
    fun log lastClaimed => ?_, replies_iff_failsAs.mpr (Entitlement.failsAs_sum _),
    fun shares collateral supply market => ?_, fun redeemed flagReward liquidateReward => ?_,
    fun settings => ⟨?_, Settings.responds_of_validate⟩⟩
  · rw [← not_iff_not]
    exact replies_perform_iff begun accepted
  · cases performs_of_perform performed with
    | close closed => exact PeriodLedger.duration_of_closeCurrent closed
  · simp [replies_iff_failsAs, PeriodLedger.available]
  · exact replies_iff_failsAs.mpr (Position.failsAs_of shares collateral supply market)
  · exact replies_iff_failsAs.mpr (failsAs_splitRewards redeemed flagReward liquidateReward)
  · exact replies_iff_failsAs.mpr settings.failsAs_validate

/-- History of the open period whose start is the earliest time there is. -/
def timeless : PeriodImport := ⟨1, Int64.minValue, Pot.empty, Pot.empty⟩

/-- A period is closed, and the next one is imported with such a start. -/
def importedTimeless : List (Operation Pair) :=
  [.setShares .first 50 0, .close 20 10 50, .importPeriod 21 0 timeless]

theorem aborts_iff_overlong_importedTimeless :
    ((opened 0).play importedTimeless).1.length = 3 ∧
      ((opened 0).play importedTimeless).2.perform (.close 30 10 50) = abort ∧
      Replies (((opened 0).play importedTimeless).2.perform (.closeFromRelayer 30 1 0 10 50)) := by
  obtain ⟨aborts, _⟩ := aborts_iff_overlong (Int64.le_refl 0) rfl
    (run_play (opened 0) importedTimeless)
  have bare (operation : Operation Pair) (none : operation.settings = none) :=
    aborts operation (Operation.accepted_of_settings_eq_none none)
  refine ⟨by decide +kernel, (bare _ rfl).mpr ?_, fun aborted => (bare _ rfl).mp aborted⟩
  show PeriodLedger.Overlong _ 30 10
  decide +kernel

/-- A close after the epoch can be aborted, since anything can be imported as the start of the
period that it closes. -/
theorem not_replies_close :
    ¬ ∀ (history : List (Step Pair)) (treasury : Treasury Pair) (operation : Operation Pair),
      (opened 0).Run history treasury → (∀ step ∈ history, step.operation.Clocked) →
      operation.Accepted → operation.Clocked → Replies (treasury.perform operation) := by
  intro replies
  have overlong : ((opened 0).play [.importPeriod 1 0 timeless] :
      _ × Treasury Pair).2.ledger.Overlong 1 (7 * daySeconds) := by decide +kernel
  have accepted : (Operation.close 1 (7 * daySeconds) 0 : Operation Pair).Accepted :=
    Operation.accepted_of_settings_eq_none rfl
  refine (replies_perform_iff ?_ accepted).mp ?_ overlong
  · decide +kernel
  · exact replies _ _ _ (run_play (opened 0) [.importPeriod 1 0 timeless]) (by decide +kernel)
      accepted (by decide +kernel)

end Treasury

end FeeTreasury
