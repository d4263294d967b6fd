import FeeTreasury.Proofs.Ledger.Pace

/-!
# The meter of the ledger

Four numbers of the ledger measure time: the ownership index, its carry, the covered seconds of the
open period, and the time that these are up to. They are the ledger's meter. With one supply, it is
the same to bring the meter forward to a time at once or with stops on the way, because what a stop
cannot split is carried (`FeeTreasury.Meter.forward_forward`).

An accrual brings the meter forward and leaves the rest of the ledger alone
(`FeeTreasury.PeriodLedger.accrue_meter`), and payments do not read the meter. So two ledgers that
differ by stops only are the same again after the next accrual or close
(`FeeTreasury.PeriodLedger.accrue_congr`, `FeeTreasury.PeriodLedger.closeCurrent_congr`).
-/

namespace FeeTreasury

open Outcome

/-- The numbers by which a ledger measures time. -/
structure Meter where
  index : Nat
  carry : Nat
  /-- Covered seconds of the open period. -/
  covered : Nat
  last : Int

namespace Meter

/-- Bring the meter forward to a time with a supply of shares. -/
def forward (meter : Meter) (supply : Nat) (now : Int) : Meter :=
  if now ≤ meter.last then meter
  else if supply = 0 then { meter with last := now }
  else
    let seconds := (now - meter.last).toNat
    let pending := seconds * preciseUnit + meter.carry
    ⟨meter.index + pending / supply, pending % supply, meter.covered + seconds, now⟩

variable {meter : Meter} {supply : Nat} {now later : Int}

theorem forward_of_le (past : now ≤ meter.last) : meter.forward supply now = meter := if_pos past

theorem forward_zero (ahead : meter.last < now) :
    meter.forward 0 now = { meter with last := now } := by
  simp only [forward, Int.not_le.mpr ahead, ↓reduceIte]

theorem forward_of_pos (ahead : meter.last < now) (supplied : 0 < supply) :
    meter.forward supply now =
      ⟨meter.index + ((now - meter.last).toNat * preciseUnit + meter.carry) / supply,
        ((now - meter.last).toNat * preciseUnit + meter.carry) % supply,
        meter.covered + (now - meter.last).toNat, now⟩ := by
  simp only [forward, Int.not_le.mpr ahead, Nat.ne_of_gt supplied, ↓reduceIte]

/-- What is left of a division goes into the next one: the quotients add up to that of the sum. -/
private theorem div_add_div_mod (first second : Nat) (supplied : 0 < supply) :
    first / supply + (second + first % supply) / supply = (second + first) / supply := by
  conv_rhs => rw [← Nat.mod_add_div first supply, ← Nat.add_assoc,
    Nat.add_mul_div_left _ _ supplied]
  exact Nat.add_comm ..

/-- A stop on the way makes no difference. -/
theorem forward_forward (meter : Meter) (supply : Nat) (ordered : now ≤ later) :
    (meter.forward supply now).forward supply later = meter.forward supply later := by
  rcases Int.lt_or_le meter.last now with ahead | past
  · rcases Int.lt_or_le now later with further | reached
    · have whole : meter.last < later := Int.lt_trans ahead further
      rcases Nat.eq_zero_or_pos supply with rfl | supplied
      · rw [forward_zero ahead, forward_zero whole, forward_zero further]
      · rw [forward_of_pos ahead supplied, forward_of_pos whole supplied,
          forward_of_pos further supplied]
        have seconds : (later - now).toNat + (now - meter.last).toNat =
            (later - meter.last).toNat := by omega
        have pending : (later - now).toNat * preciseUnit +
            ((now - meter.last).toNat * preciseUnit + meter.carry) =
              (later - meter.last).toNat * preciseUnit + meter.carry := by
          rw [← seconds, Nat.add_mul, Nat.add_assoc]
        rw [Nat.add_assoc, div_add_div_mod _ _ supplied, Nat.add_mod_mod, pending, Nat.add_assoc,
          Nat.add_comm (now - meter.last).toNat, seconds]
    · obtain rfl : now = later := Int.le_antisymm ordered reached
      refine forward_of_le ?_
      unfold forward
      split
      · assumption
      · split <;> exact Int.le_refl _
  · rw [forward_of_le past]

end Meter

namespace PeriodLedger

variable {ledger other after last : PeriodLedger} {now duration configured : Int64}
  {supply given : UInt64}

/-- The meter of a ledger. -/
def meter (ledger : PeriodLedger) : Meter :=
  ⟨ledger.ownershipIndex.toNat, ledger.ownershipCarry.toNat, ledger.openCoveredSeconds.toNat,
    ledger.lastAccrual.toInt⟩

/-- The ledger with its meter at nought. -/
def unmetered (ledger : PeriodLedger) : PeriodLedger :=
  { ledger with
    ownershipIndex := 0
    ownershipCarry := 0
    openCoveredSeconds := 0
    lastAccrual := 0 }

theorem eq_of_unmetered_of_meter (rest : ledger.unmetered = other.unmetered)
    (meters : ledger.meter = other.meter) : ledger = other := by
  simp only [meter, Meter.mk.injEq, BitVec.toNat_inj, UInt64.toNat_inj, Int64.toInt_inj] at meters
  obtain ⟨index, carry, covered, reached⟩ := meters
  simp only [unmetered, mk.injEq, true_and] at rest
  obtain ⟨header, periods, head, expiry, count⟩ := rest
  cases ledger
  cases other
  simp only [mk.injEq]
  exact ⟨header, periods, head, index, carry, covered, reached, expiry, count⟩

theorem meter_of_timeline (same : after.timeline = ledger.timeline) : after.meter = ledger.meter :=
  congrArg (fun line : Timeline =>
    Meter.mk line.index.toNat line.carry.toNat line.covered.toNat line.lastAccrual.toInt) same

/-- The window shows nothing of the meter. -/
theorem window_of_unmetered (rest : ledger.unmetered = other.unmetered) (index : Nat) :
    ledger.window index = other.window index := by
  show ledger.unmetered.window index = other.unmetered.window index
  rw [rest]

/-! ## Accruals and closes -/

/-- An accrual brings the meter forward, and nothing else. -/
theorem accrue_meter (accrued : ledger.accrue now supply = .ok after) :
    after.unmetered = ledger.unmetered ∧
      after.meter = ledger.meter.forward supply.toNat now.toInt := by
  simp only [accrue, ite_eq_ok, bind_eq_ok, pure_eq_ok, fit128_eq_ok, checkedAdd_eq_ok,
    Int64.not_le] at accrued
  rcases accrued with ⟨past, rfl⟩ | ⟨ahead, elapsed, answered, idle | worked⟩
  · exact ⟨rfl, (Meter.forward_of_le (Int64.le_iff_toInt_le.mp past)).symm⟩
  · obtain ⟨rfl, rfl⟩ := idle
    refine ⟨rfl, ?_⟩
    rw [UInt64.toNat_zero, Meter.forward_zero (Int64.lt_iff_toInt_lt.mp ahead)]
    rfl
  · obtain ⟨supplied, pending, scaled, index, grown, covered, counted, rfl⟩ := worked
    have further := Int64.lt_iff_toInt_lt.mp ahead
    have exactly := plainElapsed_eq_ok.mp answered
    have seconds : elapsed.toUInt64.toNat = (now.toInt - ledger.lastAccrual.toInt).toNat := by
      rw [← exactly, toNat_toUInt64_of_nonneg (by omega)]
    have positive : 0 < supply.toNat := toNat_pos_of_ne_zero supplied
    have remainder : (BitVec.ofNat 128 (pending.toNat % supply.toNat)).toNat =
        pending.toNat % supply.toNat :=
      toNat_ofNat128_of_lt (Nat.lt_of_le_of_lt (Nat.mod_le ..) pending.isLt)
    rw [seconds] at scaled counted
    rw [scaled] at grown
    refine ⟨rfl, ?_⟩
    rw [Meter.forward_of_pos further positive]
    simp only [meter, grown, counted]
    rw [remainder, scaled]

/-- Ledgers that are alike but for their meters are the same after an accrual to a time at which
their meters would agree. -/
theorem accrue_congr (rest : ledger.unmetered = other.unmetered)
    (meters : ledger.meter.forward supply.toNat now.toInt =
      other.meter.forward supply.toNat now.toInt)
    (first : ledger.accrue now supply = .ok after) (second : other.accrue now supply = .ok last) :
    after = last := by
  obtain ⟨firstRest, firstMeter⟩ := accrue_meter first
  obtain ⟨secondRest, secondMeter⟩ := accrue_meter second
  exact eq_of_unmetered_of_meter (firstRest.trans (rest.trans secondRest.symm))
    (firstMeter.trans (meters.trans secondMeter.symm))

/-- Closes bring such ledgers forward alike, and depend on the meter by that only. -/
private theorem accrue_eq_of_rotate {elapsed : Int64} {id next : UInt64}
    (rest : ledger.unmetered = other.unmetered)
    (meters : ledger.meter.forward supply.toNat now.toInt =
      other.meter.forward supply.toNat now.toInt)
    (first : ledger.rotate now duration supply = .ok (after, id))
    (second : other.rotate now elapsed supply = .ok (last, next)) :
    ledger.accrue now supply = other.accrue now supply := by
  obtain ⟨_, accrued, _⟩ := rotate_eq_ok first
  obtain ⟨_, again, _⟩ := rotate_eq_ok second
  rw [accrued, again, accrue_congr rest meters accrued again]

/-- Closes depend on the ledger by what an accrual makes of it, and by the open period. -/
theorem rotate_congr {late : UInt64}
    (brought : ledger.accrue now supply = other.accrue now late) :
    ledger.rotate now duration supply = other.rotate now duration late := by
  simp only [rotate, brought]

theorem closeCurrent_of_accrue {late : UInt64}
    (brought : ledger.accrue now supply = other.accrue now late)
    (opened : ledger.current = other.current) :
    ledger.closeCurrent now duration supply = other.closeCurrent now duration late := by
  unfold closeCurrent
  simp only [rotate_congr brought]
  rw [opened]

theorem closeFromRelayer_of_accrue {late : UInt64}
    (brought : ledger.accrue now supply = other.accrue now late)
    (opened : ledger.current = other.current) :
    ledger.closeFromRelayer now given duration configured supply =
      other.closeFromRelayer now given duration configured late := by
  unfold closeFromRelayer
  rw [opened, rotate_congr brought]

/-- Ledgers that are alike but for their meters are the same after a close at a time at which their
meters would agree. -/
theorem closeCurrent_congr {id next : UInt64} (rest : ledger.unmetered = other.unmetered)
    (meters : ledger.meter.forward supply.toNat now.toInt =
      other.meter.forward supply.toNat now.toInt)
    (first : ledger.closeCurrent now duration supply = .ok (after, id))
    (second : other.closeCurrent now duration supply = .ok (last, next)) : after = last := by
  obtain ⟨_, rotated⟩ := rotate_of_closeCurrent first
  obtain ⟨_, again⟩ := rotate_of_closeCurrent second
  have outcomes : ledger.closeCurrent now duration supply =
      other.closeCurrent now duration supply :=
    closeCurrent_of_accrue (accrue_eq_of_rotate rest meters rotated again)
      (window_of_unmetered rest 0)
  exact congrArg Prod.fst (Except.ok.inj (first.symm.trans (outcomes.trans second)))

theorem closeFromRelayer_congr {id next : UInt64} (rest : ledger.unmetered = other.unmetered)
    (meters : ledger.meter.forward supply.toNat now.toInt =
      other.meter.forward supply.toNat now.toInt)
    (first : ledger.closeFromRelayer now given duration configured supply = .ok (after, id))
    (second : other.closeFromRelayer now given duration configured supply = .ok (last, next)) :
    after = last := by
  obtain ⟨_, rotated⟩ := rotate_of_closeFromRelayer first
  obtain ⟨_, again⟩ := rotate_of_closeFromRelayer second
  have outcomes : ledger.closeFromRelayer now given duration configured supply =
      other.closeFromRelayer now given duration configured supply :=
    closeFromRelayer_of_accrue (accrue_eq_of_rotate rest meters rotated again)
      (window_of_unmetered rest 0)
  exact congrArg Prod.fst (Except.ok.inj (first.symm.trans (outcomes.trans second)))

/-! ## Payments -/

theorem recordFee_unmetered {amount : UInt64} (recorded : ledger.recordFee amount = .ok after) :
    ledger.unmetered.recordFee amount = .ok after.unmetered := by
  obtain ⟨fees, added, rfl⟩ := recordFee_eq_ok recorded
  simp only [recordFee, bind_eq_ok, pure_eq_ok]
  exact ⟨fees, added, rfl⟩

theorem recordReward_unmetered {amount : UInt64}
    (recorded : ledger.recordReward amount = .ok after) :
    ledger.unmetered.recordReward amount = .ok after.unmetered := by
  obtain ⟨rewards, added, rfl⟩ := recordReward_eq_ok recorded
  simp only [recordReward, bind_eq_ok, pure_eq_ok]
  exact ⟨rewards, added, rfl⟩

theorem recordClaim_unmetered {index : Nat} {fees rewards : UInt64}
    (recorded : ledger.recordClaim index fees rewards = .ok after) :
    ledger.unmetered.recordClaim index fees rewards = .ok after.unmetered := by
  obtain ⟨inside, period, changed, rfl⟩ := modifyPeriod_eq_ok.mp recorded
  exact modifyPeriod_eq_ok.mpr ⟨inside, period, changed, rfl⟩

end PeriodLedger

end FeeTreasury
