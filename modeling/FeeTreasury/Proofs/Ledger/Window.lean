import FeeTreasury.PeriodLedger
import FeeTreasury.Proofs.Answer

/-!
# The window of retained periods

The ring of the ledger is read through its window, the logical periods at the indices 0 to 3.
Putting a period into the window changes no other index (`FeeTreasury.PeriodLedger.window_put`). A
close shifts the window by one: the open period is closed, the oldest one is succeeded by its heir,
and a new period opens (`FeeTreasury.PeriodLedger.rotate_eq_ok`).
-/

namespace FeeTreasury

open Outcome

namespace FeePeriod

/-- The period that succeeds a dropped one as the oldest: it inherits what is left, if anything was
there. -/
def succeed (heir dropped : FeePeriod) : Outcome FeePeriod :=
  if dropped.isEmpty then pure heir else heir.inherit dropped

/-- The open period after it closed. -/
def stopped (period : FeePeriod) (duration : Int64) (index : UInt128) (covered : UInt64) :
    FeePeriod :=
  { period with duration := duration, closingIndex := index, coveredSeconds := covered }

theorem isEmpty_iff {period : FeePeriod} : period.isEmpty = true ↔ period.id = 0 := by
  simp only [isEmpty, decide_eq_true_eq]

end FeePeriod

namespace PeriodLedger

variable {ledger after : PeriodLedger}

/-- Indices are taken around the ring. -/
theorem window_congr (ledger : PeriodLedger) {index other : Nat}
    (same : index % periodCount = other % periodCount) :
    ledger.window index = ledger.window other := by
  have slots : ledger.slot index = ledger.slot other := by
    simp only [slot, Fin.mk.injEq, periodCount] at same ⊢
    omega
  unfold window
  simp only [slots]

theorem window_put (ledger : PeriodLedger) (index other : Nat) (period : FeePeriod) :
    (ledger.put index period).window other =
      if index % periodCount = other % periodCount then period else ledger.window other := by
  simp only [window, put, slot, Fin.getElem_fin, Vector.getElem_set]
  congr 1
  simp only [periodCount, eq_iff_iff]
  omega

theorem put_window (ledger : PeriodLedger) (index : Nat) :
    ledger.put index (ledger.window index) = ledger := by
  simp only [put, window, Fin.getElem_fin, Vector.set_getElem_self]

theorem window_new (now : Int64) (bump : UInt8) (index : Nat) :
    (new now bump).window index =
      if index % periodCount = 0 then FeePeriod.opened 1 now 0 else FeePeriod.vacant := by
  simp only [new, window, slot, Fin.getElem_fin, Vector.getElem_set, Vector.getElem_replicate,
    UInt8.toNat_zero, Nat.zero_add, eq_comm]

/-- Moving the head back by one slot shifts the window by one. -/
theorem window_of_head (periods : after.periods = ledger.periods)
    (head : after.head = UInt8.ofNat (ledger.slot 3)) (index : Nat) :
    after.window index = ledger.window (index + 3) := by
  have slots : after.slot index = ledger.slot (index + 3) := by
    simp only [slot, head, periodCount, Fin.mk.injEq]
    rw [UInt8.toNat_ofNat_of_lt' (Nat.lt_trans (Nat.mod_lt _ (by decide)) (by decide))]
    omega
  unfold window
  simp only [slots, periods]

/-! ## Payments into and out of the window -/

theorem recordFee_eq_ok {amount : UInt64} (answered : ledger.recordFee amount = .ok after) :
    ∃ fees, ledger.current.fees.add amount = .ok fees ∧
      after = ledger.put 0 { ledger.current with fees := fees } := by
  simp only [recordFee, bind_eq_ok, pure_eq_ok] at answered
  obtain ⟨fees, added, rfl⟩ := answered
  exact ⟨fees, added, rfl⟩

theorem recordReward_eq_ok {amount : UInt64} (answered : ledger.recordReward amount = .ok after) :
    ∃ rewards, ledger.current.rewards.add amount = .ok rewards ∧
      after = ledger.put 0 { ledger.current with rewards := rewards } := by
  simp only [recordReward, bind_eq_ok, pure_eq_ok] at answered
  obtain ⟨rewards, added, rfl⟩ := answered
  exact ⟨rewards, added, rfl⟩

theorem modifyPeriod_eq_ok {index : Nat} {change : FeePeriod → Outcome FeePeriod} :
    ledger.modifyPeriod index change = .ok after ↔
      index < periodCount ∧
        ∃ period, change (ledger.window index) = .ok period ∧ after = ledger.put index period := by
  simp only [modifyPeriod, period, bind_eq_ok, pure_eq_ok, require_eq_ok, decide_eq_true_eq,
    exists_const]
  constructor
  · rintro ⟨_, ⟨inside, rfl⟩, period, changed, rfl⟩
    exact ⟨inside, period, changed, rfl⟩
  · rintro ⟨inside, period, changed, rfl⟩
    exact ⟨_, ⟨inside, rfl⟩, period, changed, rfl⟩

theorem period_of_lt {index : Nat} (inside : index < periodCount) :
    ledger.period index = .ok (ledger.window index) := by
  simp only [period, require, inside, decide_true, ↓reduceIte]
  rfl

theorem modifyPeriod_of_lt {index : Nat} (inside : index < periodCount)
    (change : FeePeriod → Outcome FeePeriod) :
    ledger.modifyPeriod index change = do
      return ledger.put index (← change (ledger.window index)) := by
  unfold modifyPeriod
  rw [period_of_lt inside]
  rfl

/-! ## The end of a period -/

/-- What a close does to a ledger whose index is up to date. -/
structure Rotates (before after : PeriodLedger) (now duration : Int64) : Prop where
  opened : ∃ next : UInt64, next.toNat = before.current.id.toNat + 1 ∧
    after.window 0 = FeePeriod.opened next now before.ownershipIndex
  closed : after.window 1 =
    before.current.stopped duration before.ownershipIndex before.openCoveredSeconds
  passed : after.window 2 = before.window 1
  oldest : (before.window 2).succeed (before.window 3) = .ok (after.window 3)
  ownershipIndex : after.ownershipIndex = before.ownershipIndex
  ownershipCarry : after.ownershipCarry = before.ownershipCarry
  openCoveredSeconds : after.openCoveredSeconds = 0
  lastAccrual : after.lastAccrual = before.lastAccrual
  setupExpiry : after.setupExpiry = before.setupExpiry
  closedCount : after.closedCount = saturatingSucc before.closedCount

/-- The ledger after a close, with the next id and the period that becomes the oldest: the open
period is stopped, and the next one opens in the slot of the dropped one. -/
def turned (ledger : PeriodLedger) (now duration : Int64) (next : UInt64) (heir : FeePeriod) :
    PeriodLedger :=
  let stopped := ledger.put 0
    (ledger.current.stopped duration ledger.ownershipIndex ledger.openCoveredSeconds)
  { (stopped.put 2 heir).put 3 (FeePeriod.opened next now ledger.ownershipIndex) with
    head := UInt8.ofNat (ledger.slot 3)
    openCoveredSeconds := 0
    closedCount := saturatingSucc ledger.closedCount }

theorem window_turned (ledger : PeriodLedger) (now duration : Int64) (next : UInt64)
    (heir : FeePeriod) (index : Nat) :
    (ledger.turned now duration next heir).window index =
      (((ledger.put 0 (ledger.current.stopped duration ledger.ownershipIndex
        ledger.openCoveredSeconds)).put 2 heir).put 3
          (FeePeriod.opened next now ledger.ownershipIndex)).window (index + 3) := by
  apply window_of_head
  · rfl
  · rfl

/-- A close brings the index up to date, counts the next id, and finds the heir of the oldest
period. -/
theorem rotate_eq (ledger : PeriodLedger) (now duration : Int64) (supply : UInt64) :
    ledger.rotate now duration supply = do
      let accrued ← ledger.accrue now supply
      let next ← checkedAdd accrued.current.id 1
      let heir ← (accrued.window 2).succeed (accrued.window 3)
      return (accrued.turned now duration next heir, accrued.current.id) := by
  simp only [rotate]
  refine bind_congr fun accrued => bind_congr fun next => ?_
  have dropped : (accrued.put 0 (accrued.current.stopped duration accrued.ownershipIndex
      accrued.openCoveredSeconds)).window 3 = accrued.window 3 := window_put ..
  have heirs : (accrued.put 0 (accrued.current.stopped duration accrued.ownershipIndex
      accrued.openCoveredSeconds)).window 2 = accrued.window 2 := window_put ..
  simp only [FeePeriod.stopped] at dropped heirs
  rw [dropped]
  by_cases vacant : (accrued.window 3).isEmpty = true
  · -- Without a dropped period the heir stays as it is, which is to put it where it lies.
    simp only [FeePeriod.succeed, vacant, ↓reduceIte, pure_bind, turned, FeePeriod.stopped]
    rw [← heirs, put_window]
    rfl
  · simp only [FeePeriod.succeed, vacant, Bool.false_eq_true, ↓reduceIte, turned, FeePeriod.stopped]
    rw [modifyPeriod_of_lt (by decide), heirs, bind_assoc]
    rfl

theorem rotates_turned {now duration : Int64} {next : UInt64} {heir : FeePeriod}
    (counted : next.toNat = ledger.current.id.toNat + 1)
    (succeeded : (ledger.window 2).succeed (ledger.window 3) = .ok heir) :
    Rotates ledger (ledger.turned now duration next heir) now duration := by
  refine ⟨⟨next, counted, ?_⟩, ?_, ?_, ?_, rfl, rfl, rfl, rfl, rfl, rfl⟩
  · rw [window_turned, window_put]
    rfl
  · rw [window_turned, window_put, window_put, window_put]
    rfl
  · rw [window_turned, window_put, window_put, window_put]
    exact ledger.window_congr rfl
  · rw [window_turned, window_put, window_put]
    exact succeeded

/-- A close brings the index up to date and rotates the window. -/
theorem rotate_eq_ok {now duration : Int64} {supply id : UInt64}
    (answered : ledger.rotate now duration supply = .ok (after, id)) :
    ∃ accrued, ledger.accrue now supply = .ok accrued ∧ id = accrued.current.id ∧
      Rotates accrued after now duration := by
  rw [rotate_eq] at answered
  simp only [bind_eq_ok, pure_eq_ok, checkedAdd_eq_ok, Prod.mk.injEq] at answered
  obtain ⟨accrued, brought, next, counted, heir, succeeded, rfl, rfl⟩ := answered
  exact ⟨accrued, brought, rfl, rotates_turned counted succeeded⟩

theorem rotate_of_closeCurrent {now duration : Int64} {supply id : UInt64}
    (closed : ledger.closeCurrent now duration supply = .ok (after, id)) :
    ∃ elapsed, ledger.rotate now elapsed supply = .ok (after, id) := by
  simp only [closeCurrent, bind_eq_ok] at closed
  obtain ⟨_, _, _, _, elapsed, _, rotated⟩ := closed
  exact ⟨elapsed, rotated⟩

theorem rotate_of_closeFromRelayer {now duration configured : Int64} {given supply id : UInt64}
    (closed : ledger.closeFromRelayer now given duration configured supply = .ok (after, id)) :
    ∃ elapsed, ledger.rotate now elapsed supply = .ok (after, id) := by
  simp only [closeFromRelayer, bind_eq_ok] at closed
  obtain ⟨_, _, _, _, rotated⟩ := closed
  exact ⟨_, rotated⟩

end PeriodLedger

end FeeTreasury
