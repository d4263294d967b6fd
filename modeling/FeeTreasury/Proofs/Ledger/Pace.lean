import FeeTreasury.Proofs.Ledger.Timeline

/-!
# Ledgers that keep pace with their clock

The words of a ledger are made for times up to a horizon. A ledger keeps pace with its clock if it
covered no more seconds than have passed, and raised its index by no more than one for each of them
and each share. Accruals and closes keep the pace, and an accrual up to the horizon finds room
(`FeeTreasury.PeriodLedger.answers_accrue`).
-/

namespace FeeTreasury

open Outcome

/-! ## Times -/

/-- The last second that ledgers are made for. -/
def horizon : Nat := 2 ^ 40

/-- A time from the epoch to the horizon. -/
def Timely (now : Int64) : Prop := 0 ≤ now.toInt ∧ now.toInt ≤ horizon

instance (now : Int64) : Decidable (Timely now) :=
  inferInstanceAs (Decidable (0 ≤ now.toInt ∧ now.toInt ≤ horizon))

theorem plainElapsed_eq_ok {later earlier elapsed : Int64} :
    plainElapsed later earlier = .ok elapsed ↔
      elapsed.toInt = later.toInt - earlier.toInt := by
  simp only [plainElapsed, ite_eq_ok, abort_ne_ok, and_false, or_false, Except.ok.injEq]
  constructor
  · rintro ⟨⟨lower, upper⟩, rfl⟩
    exact Int64.toInt_ofInt_of_le lower (Int.lt_of_le_of_lt upper (by decide))
  · intro exactly
    rw [← exactly]
    exact ⟨⟨elapsed.le_toInt, elapsed.toInt_le⟩, elapsed.ofInt_toInt⟩

theorem toNat_toUInt64_of_nonneg {time : Int64} (nonneg : 0 ≤ time.toInt) :
    time.toUInt64.toNat = time.toInt.toNat :=
  Int64.toNat_toUInt64_of_le (Int64.le_iff_toInt_le.mpr nonneg)

namespace Timely

variable {now earlier elapsed : Int64}

theorem answers_plainElapsed (timely : Timely now) (past : Timely earlier) :
    Answers (plainElapsed now earlier) := by
  obtain ⟨nowNonneg, nowLe⟩ := timely
  obtain ⟨pastNonneg, pastLe⟩ := past
  simp only [horizon] at nowLe pastLe
  exact ⟨.ofInt (now.toInt - earlier.toInt), plainElapsed_eq_ok.mpr
    (Int64.toInt_ofInt_of_le (by omega) (by omega))⟩

/-- The seconds since a time before. -/
theorem toNat_elapsed (past : Timely earlier) (before : earlier < now)
    (answered : plainElapsed now earlier = .ok elapsed) :
    elapsed.toUInt64.toNat + earlier.toInt.toNat = now.toInt.toNat := by
  have exactly := plainElapsed_eq_ok.mp answered
  have positive := Int64.lt_iff_toInt_lt.mp before
  have nonneg := past.1
  rw [toNat_toUInt64_of_nonneg (by omega)]
  omega

end Timely

/-- A timeline that keeps pace with its clock: no more seconds were covered than have passed, and
each of them raised the index by one per share at most, what is carried included. -/
structure Timeline.Paced (line : Timeline) : Prop where
  lastAccrual : Timely line.lastAccrual
  start : Timely (line.spans 0).start
  index_le : line.index.toNat + line.carry.toNat ≤ line.lastAccrual.toInt.toNat * preciseUnit
  covered_le : line.covered.toNat ≤ line.lastAccrual.toInt.toNat
  closed_le : ∀ index < periodCount, index ≠ 0 →
    (line.spans index).coveredSeconds.toNat ≤ horizon

namespace PeriodLedger

variable {ledger after : PeriodLedger} {now duration : Int64} {supply id : UInt64}

theorem paced_new {bump : UInt8} (timely : Timely now) : (new now bump).timeline.Paced where
  lastAccrual := timely
  start := by
    simp only [timeline, window_new]
    exact timely
  index_le := Nat.zero_le _
  covered_le := Nat.zero_le _
  closed_le index inside closed := by
    simp only [timeline, window_new, Nat.mod_eq_of_lt inside, closed, ↓reduceIte]
    exact Nat.zero_le _

end PeriodLedger

/-- What the index has gathered and what is pending after some more seconds is at most the time,
with eighteen decimals. -/
theorem Timeline.Paced.pending_le {line : Timeline} (paced : line.Paced) {now : Int64}
    {seconds : Nat} (passed : seconds + line.lastAccrual.toInt.toNat = now.toInt.toNat) :
    line.index.toNat + (seconds * preciseUnit + line.carry.toNat) ≤
      now.toInt.toNat * preciseUnit := by
  have gathered := paced.index_le
  rw [← passed, Nat.add_mul]
  omega

namespace PeriodLedger

variable {ledger after : PeriodLedger} {now duration : Int64} {supply id : UInt64}

theorem paced_accrue (paced : ledger.timeline.Paced) (timely : Timely now)
    (answered : ledger.accrue now supply = .ok after) : after.timeline.Paced := by
  simp only [accrue, ite_eq_ok, bind_eq_ok, pure_eq_ok, fit128_eq_ok, checkedAdd_eq_ok,
    Int64.not_le] at answered
  rcases answered with ⟨_, rfl⟩ | ⟨later, elapsed, answered, idle | worked⟩
  · exact paced
  · obtain ⟨_, rfl⟩ := idle
    have forth : ledger.lastAccrual.toInt.toNat ≤ now.toInt.toNat :=
      Int.toNat_le_toNat (Int.le_of_lt (Int64.lt_iff_toInt_lt.mp later))
    exact { paced with
      lastAccrual := timely
      index_le := Nat.le_trans paced.index_le (Nat.mul_le_mul_right _ forth)
      covered_le := Nat.le_trans paced.covered_le forth }
  · obtain ⟨supplied, pending, scaled, index, grown, covered, counted, rfl⟩ := worked
    have passed := paced.lastAccrual.toNat_elapsed later answered
    have gathered := paced.pending_le passed
    have before := paced.covered_le
    have positive : 0 < supply.toNat := toNat_pos_of_ne_zero supplied
    have remainder : (BitVec.ofNat 128 (pending.toNat % supply.toNat)).toNat =
        pending.toNat % supply.toNat :=
      toNat_ofNat128_of_lt (Nat.lt_of_le_of_lt (Nat.mod_le ..) pending.isLt)
    -- Quotient and remainder together are no more than what was divided.
    have split : pending.toNat / supply.toNat + pending.toNat % supply.toNat ≤ pending.toNat := by
      have whole := Nat.div_add_mod pending.toNat supply.toNat
      have once := Nat.le_mul_of_pos_left (pending.toNat / supply.toNat) positive
      omega
    refine { paced with lastAccrual := timely, index_le := ?_, covered_le := ?_ }
    · show index.toNat + (BitVec.ofNat 128 (pending.toNat % supply.toNat)).toNat ≤ _
      rw [grown, remainder]
      simp only [timeline] at gathered ⊢
      omega
    · show covered.toNat ≤ now.toInt.toNat
      simp only [timeline] at before passed
      omega

/-- An accrual up to the horizon finds room. -/
theorem answers_accrue (paced : ledger.timeline.Paced) (timely : Timely now) (supply : UInt64) :
    Answers (ledger.accrue now supply) := by
  unfold accrue
  split
  · exact answers_pure _
  rename_i later
  refine (timely.answers_plainElapsed paced.lastAccrual).bind fun elapsed answered => ?_
  split
  · exact answers_pure _
  have passed := paced.lastAccrual.toNat_elapsed (Int64.not_le.mp later) answered
  have gathered := paced.pending_le passed
  have before := paced.covered_le
  have fits : now.toInt.toNat * preciseUnit < UInt128.size := by
    have bound := timely.2
    simp only [horizon, preciseUnit, UInt128.size] at bound ⊢
    omega
  have short : now.toInt.toNat < UInt64.size := by
    have bound := timely.2
    simp only [horizon, UInt64.size] at bound ⊢
    omega
  simp only [timeline] at gathered before passed
  refine (answers_fit128 (by omega)).bind fun pending scaled => ?_
  have part := Nat.div_le_self pending.toNat supply.toNat
  rw [fit128_eq_ok] at scaled
  refine (answers_fit128 (by omega)).bind fun index _ => ?_
  exact (answers_fit64 (by omega)).bind fun covered _ => answers_pure _

theorem Rotates.paced (rotates : Rotates ledger after now duration) (timely : Timely now)
    (paced : ledger.timeline.Paced) : after.timeline.Paced := by
  have turns := rotates.turns
  obtain ⟨_, closed⟩ := turns.closed
  obtain ⟨_, _, opened⟩ := rotates.opened
  have same : after.timeline.lastAccrual = ledger.timeline.lastAccrual := rotates.lastAccrual
  refine ⟨same ▸ paced.lastAccrual, ?_, ?_, ?_, fun index inside ended => ?_⟩
  · simp only [timeline, opened]
    exact timely
  · rw [turns.index, turns.carry, same]
    exact paced.index_le
  · rw [turns.covered]
    exact Nat.zero_le _
  · rw [periodCount] at inside
    obtain rfl | rfl | rfl : index = 1 ∨ index = 2 ∨ index = 3 := by omega
    · have passed := paced.lastAccrual.2
      have covered := paced.covered_le
      rw [closed]
      show ledger.timeline.covered.toNat ≤ horizon
      omega
    · rw [turns.passed]
      exact paced.closed_le 1 (by decide) (by decide)
    · rw [turns.oldest]
      exact paced.closed_le 2 (by decide) (by decide)

end PeriodLedger

end FeeTreasury
