import FeeTreasury.Entitlement
import FeeTreasury.Proofs.Ownership.Balance

/-!
# Ratios of a closed period

A staker's ratio of a closed period is the part that its share-seconds are of the covered time,
rounded down and cut off at one (`FeeTreasury.PeriodLedger.debtRatio_eq_ok`). Rounding alone would
keep the sum of all ratios within one decimal per staker below one. The carries shift the sum: what
a period inherits from the one before is handed out in it without being covered by it
(`FeeTreasury.Treasury.ratiosTile_iff`). In a period that is long for its supply, the carries do not
show (`FeeTreasury.Treasury.Run.ratiosTile_of_long`).
-/

namespace FeeTreasury

open Outcome

/-! ## Parts of the covered time -/

/-- The part that share-seconds are of the covered time, with six decimals and never above one. -/
def partOf (seconds covered : Nat) : Nat := min (seconds * unit.toNat / covered) unit.toNat

/-- What the part leaves of the share-seconds, by rounding down and by the cut at one. -/
def partLoss (seconds covered : Nat) : Nat :=
  seconds * unit.toNat - partOf seconds covered * covered

theorem partOf_mul_add_partLoss (seconds covered : Nat) :
    partOf seconds covered * covered + partLoss seconds covered = seconds * unit.toNat := by
  have part : partOf seconds covered * covered ≤ seconds * unit.toNat :=
    Nat.le_trans (Nat.mul_le_mul_right _ (Nat.min_le_left ..)) (Nat.div_mul_le_self ..)
  exact Nat.add_sub_of_le part

theorem toNat_ofNat_partOf (seconds covered : Nat) :
    (UInt64.ofNat (partOf seconds covered)).toNat = partOf seconds covered :=
  UInt64.toNat_ofNat_of_lt (Nat.lt_of_le_of_lt (Nat.min_le_right ..) unit.toNat_lt)

section Sums

variable {ι : Type} [Fintype ι] {seconds : ι → Nat} {covered opening closing : Nat}

/-- All parts and all losses together are the covered time, shifted by the carries. -/
theorem sum_partOf_mul_add (settled : ∑ who, seconds who + closing = covered + opening) :
    (∑ who, partOf (seconds who) covered) * covered + ∑ who, partLoss (seconds who) covered +
      unit.toNat * closing = unit.toNat * covered + unit.toNat * opening := by
  calc (∑ who, partOf (seconds who) covered) * covered + ∑ who, partLoss (seconds who) covered +
        unit.toNat * closing
      = (∑ who, seconds who) * unit.toNat + unit.toNat * closing := by
        simp only [Finset.sum_mul, ← Finset.sum_add_distrib, partOf_mul_add_partLoss]
    _ = unit.toNat * (∑ who, seconds who + closing) := by rw [Nat.mul_add, Nat.mul_comm]
    _ = unit.toNat * covered + unit.toNat * opening := by rw [settled, Nat.mul_add]

/-- The parts add up to at most one exactly if the losses make up for what the carries bring in. -/
theorem sum_partOf_le_iff (settled : ∑ who, seconds who + closing = covered + opening)
    (positive : 0 < covered) :
    ∑ who, partOf (seconds who) covered ≤ unit.toNat ↔
      unit.toNat * opening ≤ unit.toNat * closing + ∑ who, partLoss (seconds who) covered := by
  have total := sum_partOf_mul_add settled
  rw [← Nat.mul_le_mul_right_iff positive]
  omega

/-- The parts add up to one but for a decimal each exactly if the losses and what the carries take
out are worth no more. -/
theorem le_sum_partOf_iff (settled : ∑ who, seconds who + closing = covered + opening)
    (positive : 0 < covered) :
    unit.toNat ≤ ∑ who, partOf (seconds who) covered + Fintype.card ι ↔
      unit.toNat * closing + ∑ who, partLoss (seconds who) covered ≤
        unit.toNat * opening + Fintype.card ι * covered := by
  have total := sum_partOf_mul_add settled
  rw [← Nat.mul_le_mul_right_iff positive, Nat.add_mul]
  omega

/-- A balance that gathered hardly more than the covered time loses at most one decimal. -/
theorem partLoss_le {seconds : Nat} (positive : 0 < covered)
    (little : seconds * unit.toNat < (unit.toNat + 1) * covered) :
    partLoss seconds covered ≤ covered := by
  have uncut : seconds * unit.toNat / covered ≤ unit.toNat :=
    Nat.le_of_lt_succ (Nat.div_lt_of_lt_mul (Nat.mul_comm _ covered ▸ little))
  have remainder := Nat.div_add_mod' (seconds * unit.toNat) covered
  have small := Nat.mod_lt (seconds * unit.toNat) positive
  rw [partLoss, partOf, Nat.min_eq_left uncut]
  omega

/-- The parts tile if the carries differ by less than one decimal of the covered time. -/
theorem sum_partOf_tiles (settled : ∑ who, seconds who + closing = covered + opening)
    (positive : 0 < covered) (brings : unit.toNat * opening < unit.toNat * closing + covered)
    (takes : unit.toNat * closing < unit.toNat * opening + covered) :
    ∑ who, partOf (seconds who) covered ≤ unit.toNat ∧
      unit.toNat ≤ ∑ who, partOf (seconds who) covered + Fintype.card ι := by
  have total := sum_partOf_mul_add settled
  have whole : (∑ who, seconds who) * unit.toNat < (unit.toNat + 1) * covered := by
    have scaled := congrArg (unit.toNat * ·) settled
    simp only [Nat.mul_add] at scaled
    rw [Nat.mul_comm, Nat.add_mul, Nat.one_mul]
    omega
  have losses : ∑ who, partLoss (seconds who) covered ≤ Fintype.card ι * covered := by
    rw [← Finset.card_univ, ← Finset.sum_const_nat fun _ _ => rfl]
    refine Finset.sum_le_sum fun who member => partLoss_le positive ?_
    refine Nat.lt_of_le_of_lt (Nat.mul_le_mul_right _ ?_) whole
    exact Finset.single_le_sum (fun _ _ => Nat.zero_le _) member
  constructor
  · by_contra above
    have more := Nat.mul_le_mul_right covered (Nat.succ_le_of_lt (Nat.not_le.mp above))
    rw [Nat.succ_mul] at more
    omega
  · by_contra below
    have less := Nat.mul_le_mul_right covered (Nat.succ_le_of_lt (Nat.not_le.mp below))
    rw [Nat.succ_mul, Nat.add_mul] at less
    omega

end Sums

/-! ## The ratio of a staker -/

namespace PeriodLedger

variable {ledger : PeriodLedger} {log : OwnershipLog} {index : Nat}

theorem coveredSeconds_mul_lt (period : FeePeriod) :
    period.coveredSeconds.toNat * preciseUnit < UInt128.size := by
  have covered : period.coveredSeconds.toNat < UInt64.size := period.coveredSeconds.toNat_lt
  simp only [preciseUnit, UInt64.size, UInt128.size] at covered ⊢
  omega

/-- The ratio of a closed and covered period is the part of the staker's share-seconds. It is
refused if these do not fit with six more decimals. -/
theorem debtRatio_eq_ok {ratio : UInt64} (inside : index < periodCount) (closed : index ≠ 0)
    (inhabited : (ledger.window index).isEmpty = false)
    (covered : (ledger.window index).coveredSeconds ≠ 0) :
    ledger.debtRatio log index = .ok ratio ↔
      ∃ seconds, log.shareSecondsIn (ledger.window index) = .ok seconds ∧
        seconds.toNat * unit.toNat < UInt128.size ∧
        ratio.toNat = partOf seconds.toNat
          ((ledger.window index).coveredSeconds.toNat * preciseUnit) := by
  have reached : ¬ (index = 0 ∨ periodCount ≤ index) := by omega
  simp only [debtRatio, reached, inhabited, covered, Bool.false_eq_true, or_self, ↓reduceIte,
    bind_eq_ok, fit128_eq_ok, fit64_eq_ok, partOf]
  refine exists_congr fun seconds => and_congr_right fun _ => ?_
  constructor
  · rintro ⟨time, timed, scaled, fitted, counted⟩
    refine ⟨fitted ▸ scaled.isLt, ?_⟩
    rw [counted, fitted, timed]
  · rintro ⟨fits, counted⟩
    have time := toNat_ofNat128_of_lt (coveredSeconds_mul_lt (ledger.window index))
    have scaled := toNat_ofNat128_of_lt fits
    exact ⟨_, time, _, scaled, by rw [counted, scaled, time]⟩

end PeriodLedger

/-! ## The ratios of all stakers -/

namespace Treasury

variable {ι : Type} [DecidableEq ι] {start treasury : Treasury ι} {history : List (Step ι)}
  {index : Nat}

/-- After a run, a staker's ratio of a closed and covered period is the part of what its balance
gathered in it. -/
theorem Run.debtRatio_eq_ok [Fintype ι] {who : ι} {ratio : UInt64}
    (run : start.Run history treasury) (fresh : start.Fresh) (free : ImportFree history)
    (inStep : InStep history) (inside : index < periodCount) (closed : index ≠ 0)
    (inhabited : (treasury.ledger.window index).isEmpty = false)
    (covered : (treasury.ledger.window index).coveredSeconds ≠ 0) :
    treasury.ledger.debtRatio (treasury.stakers who).ownership index = .ok ratio ↔
      gathered history who (treasury.ledger.window index).id * unit.toNat < UInt128.size ∧
        ratio.toNat = partOf (gathered history who (treasury.ledger.window index).id)
          ((treasury.ledger.window index).coveredSeconds.toNat * preciseUnit) := by
  obtain ⟨now, bump, opened⟩ := fresh.ledger
  obtain ⟨owner, seed, created, joined⟩ := fresh.stakers who
  have fits := (run.conserves fresh free inStep).gathered_lt inside closed who
  rw [PeriodLedger.debtRatio_eq_ok inside closed inhabited covered,
    run.shareSecondsIn_eq_fit128 free opened joined inside closed inhabited]
  simp only [fit128_eq_ok]
  constructor
  · rintro ⟨seconds, exactly, answered⟩
    exact exactly ▸ answered
  · intro answered
    exact ⟨_, toNat_ofNat128_of_lt fits, (toNat_ofNat128_of_lt fits).symm ▸ answered⟩

variable [Fintype ι]

/-- The ratios of a closed period add up to one, up to one decimal for each staker that is lost in
rounding down. -/
def RatiosTile (treasury : Treasury ι) (index : Nat) : Prop :=
  ∃ ratios : ι → UInt64,
    (∀ who, treasury.ledger.debtRatio (treasury.stakers who).ownership index = .ok (ratios who)) ∧
      ∑ who, (ratios who).toNat ≤ unit.toNat ∧
        unit.toNat ≤ ∑ who, (ratios who).toNat + Fintype.card ι

/-- The ratios tile exactly if they fit and their parts do. -/
theorem Run.ratiosTile_iff_parts (run : start.Run history treasury) (fresh : start.Fresh)
    (free : ImportFree history) (inStep : InStep history) (inside : index < periodCount)
    (closed : index ≠ 0) (inhabited : (treasury.ledger.window index).isEmpty = false)
    (covered : (treasury.ledger.window index).coveredSeconds ≠ 0) :
    treasury.RatiosTile index ↔
      (∀ who, gathered history who (treasury.ledger.window index).id * unit.toNat <
        UInt128.size) ∧
      ∑ who, partOf (gathered history who (treasury.ledger.window index).id)
        ((treasury.ledger.window index).coveredSeconds.toNat * preciseUnit) ≤ unit.toNat ∧
      unit.toNat ≤ ∑ who, partOf (gathered history who (treasury.ledger.window index).id)
        ((treasury.ledger.window index).coveredSeconds.toNat * preciseUnit) + Fintype.card ι := by
  constructor
  · rintro ⟨ratios, answered, tiles⟩
    have answers := fun who =>
      (run.debtRatio_eq_ok fresh free inStep inside closed inhabited covered).mp (answered who)
    simp only [fun who => (answers who).2] at tiles
    exact ⟨fun who => (answers who).1, tiles⟩
  · rintro ⟨fits, tiles⟩
    have words := fun who => toNat_ofNat_partOf
      (gathered history who (treasury.ledger.window index).id)
      ((treasury.ledger.window index).coveredSeconds.toNat * preciseUnit)
    refine ⟨fun who => UInt64.ofNat (partOf
      (gathered history who (treasury.ledger.window index).id)
      ((treasury.ledger.window index).coveredSeconds.toNat * preciseUnit)), fun who => ?_, ?_⟩
    · rw [run.debtRatio_eq_ok fresh free inStep inside closed inhabited covered]
      exact ⟨fits who, words who⟩
    · simp only [words]
      exact tiles

/-- The ratios of a period tile if the carries at its ends differ by less than one decimal of its
covered time. -/
theorem Run.ratiosTile_of_long (run : start.Run history treasury) (fresh : start.Fresh)
    (free : ImportFree history) (inStep : InStep history) (inside : index < periodCount)
    (closed : index ≠ 0) (inhabited : (treasury.ledger.window index).isEmpty = false)
    (fits : ∀ who, gathered history who (treasury.ledger.window index).id * unit.toNat <
      UInt128.size)
    (brings : unit.toNat * openingCarry history (treasury.ledger.window index).id <
      unit.toNat * closingCarry history (treasury.ledger.window index).id +
        (treasury.ledger.window index).coveredSeconds.toNat * preciseUnit)
    (takes : unit.toNat * closingCarry history (treasury.ledger.window index).id <
      unit.toNat * openingCarry history (treasury.ledger.window index).id +
        (treasury.ledger.window index).coveredSeconds.toNat * preciseUnit) :
    treasury.RatiosTile index := by
  have positive : 0 < (treasury.ledger.window index).coveredSeconds.toNat * preciseUnit := by omega
  have covered : (treasury.ledger.window index).coveredSeconds ≠ 0 := fun none => by
    rw [none, UInt64.toNat_zero, Nat.zero_mul] at positive
    exact Nat.lt_irrefl _ positive
  have settled := (run.conserves fresh free inStep).window inside closed
  rw [run.ratiosTile_iff_parts fresh free inStep inside closed inhabited covered]
  exact ⟨fits, sum_partOf_tiles settled positive brings takes⟩

/-- What the ratios of a period leave of all share-seconds. -/
def losses (treasury : Treasury ι) (history : List (Step ι)) (index : Nat) : Nat :=
  ∑ who, partLoss (gathered history who (treasury.ledger.window index).id)
    ((treasury.ledger.window index).coveredSeconds.toNat * preciseUnit)

/-- **When the ratios of a closed period add up to one.** After a run from a fresh treasury without
imports, in which the index was brought forward with the registry's supply only, the ratios of a
closed and covered period tile exactly if all share-seconds fit with six more decimals, the losses
make up for what the carry at the opening brings in beyond the carry at the close, and the losses
and what the carries take out are worth no more than a decimal for each staker. -/
theorem ratiosTile_iff (fresh : start.Fresh) (run : start.Run history treasury)
    (free : ImportFree history) (inStep : InStep history) (inside : index < periodCount)
    (closed : index ≠ 0) (inhabited : (treasury.ledger.window index).isEmpty = false)
    (covered : (treasury.ledger.window index).coveredSeconds ≠ 0) :
    treasury.RatiosTile index ↔
      (∀ who, gathered history who (treasury.ledger.window index).id * unit.toNat <
        UInt128.size) ∧
      unit.toNat * openingCarry history (treasury.ledger.window index).id ≤
        unit.toNat * closingCarry history (treasury.ledger.window index).id +
          treasury.losses history index ∧
      unit.toNat * closingCarry history (treasury.ledger.window index).id +
          treasury.losses history index ≤
        unit.toNat * openingCarry history (treasury.ledger.window index).id +
          Fintype.card ι * ((treasury.ledger.window index).coveredSeconds.toNat * preciseUnit) := by
  have settled := (run.conserves fresh free inStep).window inside closed
  have positive : 0 < (treasury.ledger.window index).coveredSeconds.toNat * preciseUnit :=
    Nat.mul_pos (Nat.pos_of_ne_zero fun none => covered (UInt64.toNat_inj.mp none))
      (by rw [preciseUnit]; exact Nat.succ_pos _)
  rw [run.ratiosTile_iff_parts fresh free inStep inside closed inhabited covered, losses,
    sum_partOf_le_iff settled positive, le_sum_partOf_iff settled positive]

/-- A third of the time for one staker and two thirds for the other, over ten seconds. -/
def longPeriod : List (Operation Pair) :=
  [.setShares .first 1 0, .setShares .second 2 0, .closeFromRelayer 10 1 10 (7 * daySeconds) 3]

theorem ratiosTile_longPeriod : ((opened 0).play longPeriod).2.RatiosTile 1 :=
  (ratiosTile_iff (fresh_opened 0) (run_play _ longPeriod) (by decide +kernel) (by decide +kernel)
    (by decide) (by decide) (by decide +kernel) (by decide +kernel)).mpr (by decide +kernel)

/-- Two large balances, with a first period of two seconds and a second one of one second. -/
def shortPeriods : List (Operation Pair) :=
  [.setShares .first 1500000000000000000 0, .setShares .second 1500000000000000000 0,
    .closeFromRelayer 2 1 2 (7 * daySeconds) 3000000000000000000,
    .closeFromRelayer 3 2 1 (7 * daySeconds) 3000000000000000000]

/-- The two seconds of the first period are carried into the second one, where both stakers are
given all of its single second. -/
theorem not_ratiosTile_shortPeriods :
    ImportFree ((opened 0).play shortPeriods).1 ∧ InStep ((opened 0).play shortPeriods).1 ∧
      (((opened 0).play shortPeriods).2.ledger.window 1).isEmpty = false ∧
      (((opened 0).play shortPeriods).2.ledger.window 1).coveredSeconds = 1 ∧
      ¬ ((opened 0).play shortPeriods).2.RatiosTile 1 := by
  refine ⟨by decide +kernel, by decide +kernel, by decide +kernel, by decide +kernel, ?_⟩
  rintro ⟨ratios, answered, atMost, _⟩
  have whole : ∀ who, ((opened 0).play shortPeriods).2.ledger.debtRatio
      (((opened 0).play shortPeriods).2.stakers who).ownership 1 = .ok unit := by decide +kernel
  have ratio : ∀ who, ratios who = unit := fun who =>
    (Except.ok.inj ((whole who).symm.trans (answered who))).symm
  simp only [ratio, Finset.sum_const, Finset.card_univ] at atMost
  exact absurd atMost (by decide)

end Treasury

end FeeTreasury
