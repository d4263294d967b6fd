import FeeTreasury.Proofs.Ledger.Window

/-!
# The measure of time

What the ledger says about time is its timeline: the spans of the retained periods, the ownership
index with its carry, and the covered seconds of the open period. Payments into and out of the pots
leave the timeline alone (`FeeTreasury.PeriodLedger.timeline_recordFee` and its companions). An
accrual advances it by a growth of the index and some seconds, and with a supply of shares these are
tied by `supply * growth + new carry = seconds + old carry`, with eighteen decimals
(`FeeTreasury.PeriodLedger.timeline_accrue`). A close turns it
(`FeeTreasury.PeriodLedger.timeline_rotate`).
-/

namespace FeeTreasury

open Outcome

/-- What a period says about time. -/
structure Span where
  id : UInt64
  start : Int64
  duration : Int64
  startingIndex : UInt128
  closingIndex : UInt128
  coveredSeconds : UInt64

/-- The span of a period, without its pots. -/
def FeePeriod.span (period : FeePeriod) : Span :=
  ⟨period.id, period.start, period.duration, period.startingIndex, period.closingIndex,
    period.coveredSeconds⟩

/-- What a ledger says about time. -/
structure Timeline where
  /-- Spans of the logical periods. -/
  spans : Nat → Span
  index : UInt128
  carry : UInt128
  /-- Covered seconds of the open period. -/
  covered : UInt64
  lastAccrual : Int64

/-- The timeline of a ledger. -/
def PeriodLedger.timeline (ledger : PeriodLedger) : Timeline :=
  ⟨fun index => (ledger.window index).span, ledger.ownershipIndex, ledger.ownershipCarry,
    ledger.openCoveredSeconds, ledger.lastAccrual⟩

namespace Timeline

/-- An accrual with a supply: the index grows, and some seconds are covered. -/
structure Advances (before after : Timeline) (supply growth seconds : Nat) : Prop where
  spans : after.spans = before.spans
  index : after.index.toNat = before.index.toNat + growth
  covered : after.covered.toNat = before.covered.toNat + seconds
  /-- The covered seconds are split over the supply, and the remainder is carried. -/
  split : supply * growth + after.carry.toNat = seconds * preciseUnit + before.carry.toNat
  /-- A new remainder is less than the supply. -/
  carry_le : after.carry.toNat ≤ max before.carry.toNat supply

/-- A timeline that stays as it is advances by nothing, whatever the supply. -/
theorem Advances.refl (line : Timeline) (supply : Nat) : line.Advances line supply 0 0 where
  spans := rfl
  index := rfl
  covered := rfl
  split := by rw [Nat.mul_zero, Nat.zero_mul]
  carry_le := Nat.le_max_left ..

/-- A close: the open span ends at the index, and the spans move up by one. -/
structure Turns (before after : Timeline) : Prop where
  next : (after.spans 0).id.toNat = (before.spans 0).id.toNat + 1
  startingIndex : (after.spans 0).startingIndex = before.index
  closed : ∃ duration, after.spans 1 =
    { before.spans 0 with
      duration := duration, closingIndex := before.index, coveredSeconds := before.covered }
  passed : after.spans 2 = before.spans 1
  oldest : after.spans 3 = before.spans 2
  index : after.index = before.index
  carry : after.carry = before.carry
  covered : after.covered = 0

/-- The retained periods are numbered downwards from the open one, empty slots have the number zero,
and the index has not fallen below its value when the open period opened. -/
structure Ordered (line : Timeline) : Prop where
  open_pos : 0 < (line.spans 0).id.toNat
  ids : ∀ index < periodCount, (line.spans index).id.toNat = (line.spans 0).id.toNat - index
  startingIndex_le : (line.spans 0).startingIndex.toNat ≤ line.index.toNat

namespace Ordered

variable {before after : Timeline}

theorem advance {supply growth seconds : Nat} (ordered : before.Ordered)
    (advances : before.Advances after supply growth seconds) : after.Ordered where
  open_pos := advances.spans ▸ ordered.open_pos
  ids := advances.spans ▸ ordered.ids
  startingIndex_le := by
    rw [advances.spans, advances.index]
    exact Nat.le_add_right_of_le ordered.startingIndex_le

theorem turn (ordered : before.Ordered) (turns : before.Turns after) : after.Ordered where
  open_pos := by rw [turns.next]; exact Nat.succ_pos _
  ids := by
    intro index inside
    obtain ⟨duration, closed⟩ := turns.closed
    rw [turns.next]
    match index, inside with
    | 0, _ => exact turns.next
    | 1, _ => rw [closed]; rfl
    | 2, _ => rw [turns.passed, ordered.ids 1 (by decide)]; omega
    | 3, _ => rw [turns.oldest, ordered.ids 2 (by decide)]; omega
  startingIndex_le := Nat.le_of_eq (by rw [turns.startingIndex, turns.index])

end Ordered

end Timeline

namespace PeriodLedger

variable {ledger after : PeriodLedger}

theorem timeline_put (ledger : PeriodLedger) {index : Nat} {period : FeePeriod}
    (same : period.span = (ledger.window index).span) :
    (ledger.put index period).timeline = ledger.timeline := by
  have spans : ∀ other, ((ledger.put index period).window other).span =
      (ledger.window other).span := by
    intro other
    rw [window_put]
    split
    · rw [same, ledger.window_congr ‹_›]
    · rfl
  simp only [timeline, spans]
  rfl

theorem timeline_recordFee {amount : UInt64} (answered : ledger.recordFee amount = .ok after) :
    after.timeline = ledger.timeline := by
  obtain ⟨fees, _, rfl⟩ := recordFee_eq_ok answered
  exact timeline_put ledger rfl

theorem timeline_recordReward {amount : UInt64}
    (answered : ledger.recordReward amount = .ok after) : after.timeline = ledger.timeline := by
  obtain ⟨rewards, _, rfl⟩ := recordReward_eq_ok answered
  exact timeline_put ledger rfl

theorem timeline_recordClaim {index : Nat} {fees rewards : UInt64}
    (answered : ledger.recordClaim index fees rewards = .ok after) :
    after.timeline = ledger.timeline := by
  obtain ⟨_, period, changed, rfl⟩ := modifyPeriod_eq_ok.mp answered
  simp only [FeePeriod.recordClaim, bind_eq_ok, pure_eq_ok] at changed
  obtain ⟨_, _, _, _, _, _, rfl⟩ := changed
  exact timeline_put ledger rfl

theorem timeline_accrue {now : Int64} {supply : UInt64}
    (answered : ledger.accrue now supply = .ok after) :
    ∃ growth seconds, ledger.timeline.Advances after.timeline supply.toNat growth seconds := by
  simp only [accrue, ite_eq_ok, bind_eq_ok, pure_eq_ok, fit128_eq_ok, checkedAdd_eq_ok] at answered
  rcases answered with ⟨_, rfl⟩ | ⟨_, elapsed, _, ⟨_, rfl⟩ | ⟨supplied, pending, scaled, index,
    grown, covered, counted, rfl⟩⟩
  · exact ⟨0, 0, .refl _ _⟩
  · exact ⟨0, 0, rfl, rfl, rfl, (Timeline.Advances.refl ledger.timeline _).split,
      Nat.le_max_left ..⟩
  · have remainder : (BitVec.ofNat 128 (pending.toNat % supply.toNat)).toNat =
        pending.toNat % supply.toNat :=
      Nat.mod_eq_of_lt (Nat.lt_of_le_of_lt (Nat.mod_le ..) pending.isLt)
    have positive : 0 < supply.toNat := toNat_pos_of_ne_zero supplied
    refine ⟨pending.toNat / supply.toNat, elapsed.toUInt64.toNat, rfl, grown, counted, ?_, ?_⟩
    · calc supply.toNat * (pending.toNat / supply.toNat) +
            (BitVec.ofNat 128 (pending.toNat % supply.toNat)).toNat
          = pending.toNat := by rw [remainder, Nat.div_add_mod]
        _ = elapsed.toUInt64.toNat * preciseUnit + ledger.ownershipCarry.toNat := scaled
    · show (BitVec.ofNat 128 (pending.toNat % supply.toNat)).toNat ≤ _
      rw [remainder]
      exact Nat.le_trans (Nat.le_of_lt (Nat.mod_lt _ positive)) (Nat.le_max_right ..)

/-- A rotation turns the timeline. The heir of the oldest period only inherits pots. -/
theorem Rotates.turns {now duration : Int64} (rotates : Rotates ledger after now duration) :
    ledger.timeline.Turns after.timeline := by
  obtain ⟨next, counted, opened⟩ := rotates.opened
  have oldest : (after.window 3).span = (ledger.window 2).span := by
    have succeeded := rotates.oldest
    simp only [FeePeriod.succeed, FeePeriod.inherit, ite_eq_ok, bind_eq_ok, pure_eq_ok] at succeeded
    rcases succeeded with ⟨_, same⟩ | ⟨_, fees, _, rewards, _, same⟩
    · rw [same]
    · rw [← same]; rfl
  refine ⟨?_, ?_, ⟨duration, ?_⟩, ?_, oldest, rotates.ownershipIndex, rotates.ownershipCarry,
    rotates.openCoveredSeconds⟩
  · simp only [timeline, opened]
    exact counted
  · simp only [timeline, opened]
    rfl
  · simp only [timeline, rotates.closed]
    rfl
  · simp only [timeline, rotates.passed]

/-- A close advances the timeline and turns it. -/
theorem timeline_rotate {now duration : Int64} {supply id : UInt64}
    (answered : ledger.rotate now duration supply = .ok (after, id)) :
    ∃ (accrued : PeriodLedger) (growth seconds : Nat),
      ledger.timeline.Advances accrued.timeline supply.toNat growth seconds ∧
        accrued.timeline.Turns after.timeline := by
  obtain ⟨accrued, brought, _, rotates⟩ := rotate_eq_ok answered
  obtain ⟨growth, seconds, advances⟩ := timeline_accrue brought
  exact ⟨accrued, growth, seconds, advances, rotates.turns⟩

theorem timeline_new_ordered (now : Int64) (bump : UInt8) : (new now bump).timeline.Ordered where
  open_pos := by
    simp only [timeline, window_new]
    exact Nat.zero_lt_one
  ids := by
    intro index inside
    simp only [timeline, window_new]
    match index, inside with
    | 0, _ | 1, _ | 2, _ | 3, _ => rfl
  startingIndex_le := by
    simp only [timeline, window_new]
    exact Nat.le_refl 0

end PeriodLedger

end FeeTreasury
