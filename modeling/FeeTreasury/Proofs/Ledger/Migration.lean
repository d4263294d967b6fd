import FeeTreasury.Proofs.Claiming

/-!
# Windows with migrated history

An import replaces one slot without a look at its neighbours, so the ids of the window need not
count down from the open one. Two weaker orders decide what the rules do with such a window. It is
packed if no empty slot is younger than an inhabited one: then a close loses nothing
(`FeeTreasury.PeriodLedger.Rotates.solvent_of_packed`). It is descending if no older period has a
larger id: then the youngest closed period has the largest id of all closed ones.

Whatever the order, a close loses at most what the oldest slot holds, and that only if the slot
counts as empty (`FeeTreasury.PeriodLedger.Rotates.held_add_overlooked`).
-/

namespace FeeTreasury

open Outcome

namespace PeriodLedger

variable {before middle after ledger : PeriodLedger}

/-- An empty slot has no younger period next to it on its old side. -/
def Packed (ledger : PeriodLedger) : Prop :=
  ∀ index < periodCount - 1, (ledger.window index).id = 0 → (ledger.window (index + 1)).id = 0

/-- No period has a larger id than the next younger one. -/
def Descending (ledger : PeriodLedger) : Prop :=
  ∀ index < periodCount - 1, (ledger.window (index + 1)).id ≤ (ledger.window index).id

instance (ledger : PeriodLedger) : Decidable ledger.Packed :=
  Nat.decidableBallLT (periodCount - 1) fun index _ =>
    (ledger.window index).id = 0 → (ledger.window (index + 1)).id = 0

instance (ledger : PeriodLedger) : Decidable ledger.Descending :=
  Nat.decidableBallLT (periodCount - 1) fun index _ =>
    (ledger.window (index + 1)).id ≤ (ledger.window index).id

/-- In a descending window the youngest closed period has the largest id of all closed ones. -/
theorem Descending.le_youngest (descending : ledger.Descending) :
    ∀ index < periodCount, index ≠ 0 → (ledger.window index).id ≤ (ledger.window 1).id := by
  intro index inside closed
  match index, inside, closed with
  | 1, _, _ => exact UInt64.le_refl _
  | 2, _, _ => exact descending 1 (by decide)
  | 3, _, _ => exact UInt64.le_trans (descending 2 (by decide)) (descending 1 (by decide))

/-! ## Rules that move money within the window -/

/-- The periods keep their places, the pots stay within their totals, and what closed periods
distribute stays. -/
structure Transacts (before after : PeriodLedger) : Prop where
  id : ∀ index, (after.window index).id = (before.window index).id
  within : before.Within → after.Within
  total : ∀ index < periodCount, index ≠ 0 → ∀ purse,
    ((after.window index).pot purse).total = ((before.window index).pot purse).total

namespace Transacts

theorem of_window (same : ∀ index, after.window index = before.window index) :
    Transacts before after where
  id index := by rw [same]
  within within index inside purse := by
    rw [same]
    exact within index inside purse
  total index _ _ purse := by rw [same]

theorem trans (first : Transacts before middle) (second : Transacts middle after) :
    Transacts before after where
  id index := (second.id index).trans (first.id index)
  within within := second.within (first.within within)
  total index inside closed purse :=
    (second.total index inside closed purse).trans (first.total index inside closed purse)

/-- A payment at one place, within the period's totals, that brings money to the open one only. -/
theorem put {index : Nat} {period : FeePeriod} {inflow outflow : Purse → Nat}
    (inside : index < periodCount) (pays : (before.window index).Pays period inflow outflow)
    (within : (∀ purse, ((before.window index).pot purse).Within) →
      ∀ purse, (period.pot purse).Within)
    (opens : index ≠ 0 → ∀ purse, inflow purse = 0) :
    Transacts before (before.put index period) where
  id other := by
    rw [window_put]
    split
    · rw [pays.id, before.window_congr ‹_›]
    · rfl
  within kept other otherInside purse := by
    rw [window_put]
    split
    · exact within (fun purse => kept index inside purse) purse
    · exact kept other otherInside purse
  total other otherInside closed purse := by
    rw [window_put, Nat.mod_eq_of_lt inside, Nat.mod_eq_of_lt otherInside]
    split
    · subst other
      rw [← UInt64.toNat_inj, pays.total, opens closed, Nat.add_zero]
    · rfl

/-- Money that comes into the open period. -/
theorem receive {period : FeePeriod} {inflow : Purse → Nat}
    (pays : before.current.Pays period inflow fun _ => 0) :
    Transacts before (before.put 0 period) := by
  refine .put (by decide) pays (fun within purse => ?_) fun closed => absurd rfl closed
  have kept := within purse
  unfold Pot.Within at kept ⊢
  rw [pays.claimed, pays.total]
  exact Nat.le_add_right_of_le kept

theorem mark {index : Nat} {amount : Entitlement}
    (marked : before.mark index amount = .ok after) : Transacts before after := by
  simp only [PeriodLedger.mark, ite_eq_ok, pure_eq_ok] at marked
  obtain ⟨_, rfl⟩ | ⟨_, recorded⟩ := marked
  · exact .of_window fun _ => rfl
  · obtain ⟨inside, period, rfl, pays, within⟩ := recordClaim_pays recorded
    exact .put inside pays (fun _ => within) fun _ _ => rfl

theorem markAll {first second third : Entitlement}
    (marked : before.markAll first second third = .ok after) : Transacts before after := by
  simp only [PeriodLedger.markAll, bind_eq_ok] at marked
  obtain ⟨oldest, thirdMarked, middle, secondMarked, firstMarked⟩ := marked
  exact (Transacts.mark thirdMarked).trans ((Transacts.mark secondMarked).trans (.mark firstMarked))

theorem packed (transacts : Transacts before after) (packed : before.Packed) : after.Packed := by
  intro index inside
  rw [transacts.id, transacts.id]
  exact packed index inside

theorem descending (transacts : Transacts before after) (descending : before.Descending) :
    after.Descending := by
  intro index inside
  rw [transacts.id, transacts.id]
  exact descending index inside

/-- A ledger whose open period is numbered stays solvent. -/
theorem solvent (transacts : Transacts before after) (numbered : before.current.id ≠ 0)
    (solvent : before.Solvent) : after.Solvent where
  within := transacts.within solvent.within
  vacant index inside vacant purse := by
    rw [transacts.id] at vacant
    have closed : index ≠ 0 := by
      rintro rfl
      exact numbered vacant
    rw [transacts.total index inside closed]
    exact solvent.vacant index inside vacant purse

end Transacts

/-! ## Closes -/

namespace Rotates

variable {now duration : Int64}

/-- The ids after a close: the next one, and those of the three periods that stay. -/
theorem ids (rotates : Rotates before after now duration) :
    (after.window 0).id.toNat = before.current.id.toNat + 1 ∧
      (after.window 1).id = (before.window 0).id ∧ (after.window 2).id = (before.window 1).id ∧
      (after.window 3).id = (before.window 2).id := by
  obtain ⟨next, counted, opened⟩ := rotates.opened
  refine ⟨?_, ?_, ?_, (succeed_pays rotates.oldest).id⟩
  · rw [opened]
    exact counted
  · rw [rotates.closed]
    rfl
  · rw [rotates.passed]

/-- A period that opens is numbered. -/
theorem numbered (rotates : Rotates before after now duration) : after.current.id ≠ 0 := by
  intro vacant
  have counted := rotates.ids.1
  rw [show (after.window 0).id = 0 from vacant, UInt64.toNat_zero] at counted
  exact Nat.succ_ne_zero _ counted.symm

theorem packed (rotates : Rotates before after now duration) (numbered : before.current.id ≠ 0)
    (packed : before.Packed) : after.Packed := by
  obtain ⟨_, first, second, third⟩ := rotates.ids
  intro index inside vacant
  match index, inside with
  | 0, _ => exact absurd vacant rotates.numbered
  | 1, _ => exact absurd (first ▸ vacant) numbered
  | 2, _ =>
    rw [second] at vacant
    exact third.trans (packed 1 (by decide) vacant)

theorem descending (rotates : Rotates before after now duration)
    (descending : before.Descending) : after.Descending := by
  obtain ⟨next, first, second, third⟩ := rotates.ids
  intro index inside
  match index, inside with
  | 0, _ =>
    rw [first, UInt64.le_iff_toNat_le, next]
    exact Nat.le_succ _
  | 1, _ =>
    rw [first, second]
    exact descending 0 (by decide)
  | 2, _ =>
    rw [second, third]
    exact descending 1 (by decide)

end Rotates

/-! ## New ledgers and imports -/

theorem within_new (now : Int64) (bump : UInt8) : (new now bump).Within :=
  (solvent_new now bump).within

theorem ids_new (now : Int64) (bump : UInt8) (index : Nat) :
    ((new now bump).window index).id = if index % periodCount = 0 then 1 else 0 := by
  rw [window_new]
  split <;> rfl

theorem packed_new (now : Int64) (bump : UInt8) : (new now bump).Packed := by
  intro index inside _
  rw [ids_new]
  match index, inside with
  | 0, _ | 1, _ | 2, _ => rfl

theorem descending_new (now : Int64) (bump : UInt8) : (new now bump).Descending := by
  intro index inside
  rw [ids_new, ids_new]
  match index, inside with
  | 0, _ | 1, _ | 2, _ => decide

/-- An import overwrites what a slot says about itself, with pots within their totals. -/
theorem importPeriod_eq_ok {now : Int64} {index : Nat} {history : PeriodImport}
    (imported : before.importPeriod now index history = .ok after) :
    index < periodCount ∧ now < before.setupExpiry ∧
      (history.fees.Within ∧ history.rewards.Within) ∧
      after = before.put index { before.window index with
        id := history.id
        start := history.start
        fees := history.fees
        rewards := history.rewards } := by
  simp only [importPeriod, bind_eq_ok, require_eq_ok, decide_eq_true_eq, exists_const,
    modifyPeriod_eq_ok, pure_eq_ok, exists_eq_left'] at imported
  obtain ⟨early, ⟨feesFit, rewardsFit⟩, inside, rfl⟩ := imported
  exact ⟨inside, early, ⟨feesFit, rewardsFit⟩, rfl⟩

theorem within_importPeriod {now : Int64} {index : Nat} {history : PeriodImport}
    (imported : before.importPeriod now index history = .ok after) (within : before.Within) :
    after.Within := by
  obtain ⟨_, _, ⟨feesFit, rewardsFit⟩, rfl⟩ := importPeriod_eq_ok imported
  intro other inside purse
  rw [window_put]
  split
  · cases purse
    · exact feesFit
    · exact rewardsFit
  · exact within other inside purse

/-- Migrated history with a number leaves a solvent ledger solvent. -/
theorem solvent_importPeriod {now : Int64} {index : Nat} {history : PeriodImport}
    (imported : before.importPeriod now index history = .ok after) (numbered : history.id ≠ 0)
    (solvent : before.Solvent) : after.Solvent := by
  refine ⟨within_importPeriod imported solvent.within, ?_⟩
  obtain ⟨_, _, _, rfl⟩ := importPeriod_eq_ok imported
  intro other inside
  rw [window_put]
  split
  · exact fun vacant => absurd vacant numbered
  · exact solvent.vacant other inside

/-- Migrated history with a number does not leave the open period without one. -/
theorem current_ne_zero_importPeriod {now : Int64} {index : Nat} {history : PeriodImport}
    (imported : before.importPeriod now index history = .ok after) (numbered : history.id ≠ 0)
    (opened : before.current.id ≠ 0) : after.current.id ≠ 0 := by
  obtain ⟨_, _, _, rfl⟩ := importPeriod_eq_ok imported
  unfold current at opened ⊢
  rw [window_put]
  split
  · exact numbered
  · exact opened

end PeriodLedger

end FeeTreasury
