import FeeTreasury.Proofs.Ownership.Balance

/-!
# Exactness of the bounded logs

In every run without imports, the log of a staker, of which only the last entries are kept, gives
for each closed period that is retained exactly what the staker's balance gathered in it
(`FeeTreasury.Treasury.shareSecondsIn_eq_gathered`). All stakers together gathered the covered
seconds of the period, up to the carries at its ends
(`FeeTreasury.Treasury.sum_shareSecondsIn_add_closingCarry`).
-/

namespace FeeTreasury

open Outcome

namespace Treasury

variable {ι : Type} [DecidableEq ι] {start treasury : Treasury ι} {history : List (Step ι)}

/-- What was gathered in a closed period does not change any more. -/
theorem Run.gathered_stable {now : Int64} {bump : UInt8} {later : List (Step ι)}
    {last : Treasury ι} {index : Nat} (run : start.Run history treasury)
    (free : ImportFree history) (opened : start.ledger = PeriodLedger.new now bump)
    (continued : treasury.Run later last) (continuedFree : ImportFree later) (who : ι)
    (inside : index < periodCount) (closed : index ≠ 0) :
    gathered (later ++ history) who (treasury.ledger.window index).id =
      gathered history who (treasury.ledger.window index).id := by
  have ordered := run.ordered free (opened ▸ PeriodLedger.timeline_new_ordered now bump)
  have past : (treasury.ledger.window index).id < (treasury.ledger.timeline.spans 0).id :=
    ordered.id_lt inside closed
  rw [gathered_append, continued.gathered_past continuedFree past, Nat.zero_add]

/-- **The bounded log is exact.** In every run without imports from a new ledger, the log of a
staker that started with a new account is within its depth and in the order of its periods. For each
closed period that is retained it gives what the staker's balance gathered in it, step by step, as
far as the number fits; it does if the treasury was fresh and the index was brought forward with the
registry's supply only. No continuation of the run changes the answer while the period is retained,
whichever entries leave the log. -/
theorem shareSecondsIn_eq_gathered [Fintype ι] {now : Int64} {bump : UInt8} {who : ι} {owner : Key}
    {seed : UInt8} {created : Int64} (opened : start.ledger = PeriodLedger.new now bump)
    (joined : start.stakers who = Staker.new owner seed created)
    (run : start.Run history treasury) (free : ImportFree history) :
    (treasury.stakers who).ownership.entries.length ≤ ownershipDepth ∧
      ((treasury.stakers who).ownership.entries.Pairwise fun earlier later =>
        earlier.periodId < later.periodId) ∧
      ∀ index < periodCount, index ≠ 0 → (treasury.ledger.window index).isEmpty = false →
        (treasury.stakers who).ownership.shareSecondsIn (treasury.ledger.window index) =
            fit128 (gathered history who (treasury.ledger.window index).id) ∧
          (start.Fresh → InStep history → ∃ seconds,
            (treasury.stakers who).ownership.shareSecondsIn (treasury.ledger.window index) =
                .ok seconds ∧
              seconds.toNat = gathered history who (treasury.ledger.window index).id) ∧
          ∀ later last, treasury.Run later last → ImportFree later →
            ∀ place < periodCount, place ≠ 0 →
              (last.ledger.window place).id = (treasury.ledger.window index).id →
                (last.stakers who).ownership.shareSecondsIn (last.ledger.window place) =
                  (treasury.stakers who).ownership.shareSecondsIn
                    (treasury.ledger.window index) := by
  have kept := (run.follows free opened joined).kept
  refine ⟨kept.length_le, kept.ascending, fun index inside closed inhabited => ?_⟩
  have answered := run.shareSecondsIn_eq_fit128 free opened joined inside closed inhabited
  refine ⟨answered, fun fresh inStep => ?_, ?_⟩
  · have fits := (run.conserves fresh free inStep).gathered_lt inside closed who
    have word := toNat_ofNat128_of_lt fits
    exact ⟨_, answered.trans (fit128_eq_ok.mpr word), word⟩
  intro later last continued continuedFree place within ended same
  have whole := run.trans continued
  have wholeFree : ImportFree (later ++ history) := fun step member =>
    (List.mem_append.mp member).elim (continuedFree step) (free step)
  have occupied : (last.ledger.window place).isEmpty = false := by
    rw [FeePeriod.isEmpty, same]
    exact inhabited
  rw [answered, whole.shareSecondsIn_eq_fit128 wholeFree opened joined within ended occupied, same,
    run.gathered_stable free opened continued continuedFree who inside closed]

/-- A staker whose balance changes in eight periods, so that two entries leave its log. -/
def eightChanges : List (Operation Pair) :=
  (List.range 8).flatMap fun n =>
    [.setShares .first (UInt64.ofNat (n + 3)) (Int64.ofNat (10 * n + 4)),
      .closeFromRelayer (Int64.ofNat (10 * n + 10)) (UInt64.ofNat (n + 1)) 10 10
        (UInt64.ofNat (n + 3))]

/-- One more change, which pushes out another entry, and one more close. -/
def ninthChange : List (Operation Pair) :=
  [.setShares .first 20 84, .closeFromRelayer 90 9 10 10 20]

theorem shareSecondsIn_eq_gathered_eightChanges :
    (((opened 0).play eightChanges).2.stakers .first).ownership.entries.map (·.periodId) =
        [3, 4, 5, 6, 7, 8] ∧
      (∃ seconds, (((opened 0).play eightChanges).2.stakers .first).ownership.shareSecondsIn
          (((opened 0).play eightChanges).2.ledger.window 2) = .ok seconds ∧
        seconds.toNat = gathered ((opened 0).play eightChanges).1 .first
          (((opened 0).play eightChanges).2.ledger.window 2).id) ∧
      ((((opened 0).play eightChanges).2.play ninthChange).2.stakers
          .first).ownership.shareSecondsIn
          ((((opened 0).play eightChanges).2.play ninthChange).2.ledger.window 3) =
        (((opened 0).play eightChanges).2.stakers .first).ownership.shareSecondsIn
          (((opened 0).play eightChanges).2.ledger.window 2) := by
  obtain ⟨_, _, answers⟩ := shareSecondsIn_eq_gathered rfl rfl (run_play (opened 0) eightChanges)
    (by decide +kernel)
  obtain ⟨_, fits, stable⟩ := answers 2 (by decide) (by decide) (by decide +kernel)
  exact ⟨by decide +kernel, fits (fresh_opened 0) (by decide +kernel),
    stable _ _ (run_play _ _) (by decide +kernel) 3 (by decide) (by decide) (by decide +kernel)⟩

/-- **Share-seconds are conserved.** In every treasury that a run without imports leads to from a
fresh one, if the index was brought forward with the registry's supply only, all stakers' logs
answer for each closed period that is retained, and the answers together with the carry at its close
are its covered seconds, with eighteen decimals, together with the carry at its opening. -/
theorem sum_shareSecondsIn_add_closingCarry [Fintype ι] {index : Nat} (fresh : start.Fresh)
    (run : start.Run history treasury) (free : ImportFree history) (inStep : InStep history)
    (inside : index < periodCount) (closed : index ≠ 0)
    (inhabited : (treasury.ledger.window index).isEmpty = false) :
    ∃ seconds : ι → UInt128,
      (∀ who, (treasury.stakers who).ownership.shareSecondsIn (treasury.ledger.window index) =
        .ok (seconds who)) ∧
      ∑ who, (seconds who).toNat + closingCarry history (treasury.ledger.window index).id =
        (treasury.ledger.window index).coveredSeconds.toNat * preciseUnit +
          openingCarry history (treasury.ledger.window index).id := by
  have conserves := run.conserves fresh free inStep
  have exactly : ∀ who, (BitVec.ofNat 128
      (gathered history who (treasury.ledger.window index).id)).toNat =
        gathered history who (treasury.ledger.window index).id := fun who =>
    toNat_ofNat128_of_lt (conserves.gathered_lt inside closed who)
  refine ⟨fun who => BitVec.ofNat 128 (gathered history who (treasury.ledger.window index).id),
    fun who => ?_, ?_⟩
  · obtain ⟨now, bump, opened⟩ := fresh.ledger
    obtain ⟨owner, seed, created, joined⟩ := fresh.stakers who
    rw [run.shareSecondsIn_eq_fit128 free opened joined inside closed inhabited, fit128_eq_ok]
    exact exactly who
  · simp only [exactly]
    exact conserves.window inside closed

/-- Two stakers with three shares, one of which leaves in the middle of the second period. -/
def carried : List (Operation Pair) :=
  [.setShares .first 2 0, .setShares .second 1 0, .closeFromRelayer 10 1 10 10 3,
    .setShares .second 0 15, .closeFromRelayer 20 2 10 10 2]

theorem sum_shareSecondsIn_add_closingCarry_carried :
    openingCarry ((opened 0).play carried).1
        (((opened 0).play carried).2.ledger.window 1).id = 1 ∧
      ∃ seconds : Pair → UInt128,
        (∀ who, (((opened 0).play carried).2.stakers who).ownership.shareSecondsIn
          (((opened 0).play carried).2.ledger.window 1) = .ok (seconds who)) ∧
        ∑ who, (seconds who).toNat + closingCarry ((opened 0).play carried).1
            (((opened 0).play carried).2.ledger.window 1).id =
          (((opened 0).play carried).2.ledger.window 1).coveredSeconds.toNat * preciseUnit +
            openingCarry ((opened 0).play carried).1
              (((opened 0).play carried).2.ledger.window 1).id :=
  ⟨by decide +kernel, sum_shareSecondsIn_add_closingCarry (fresh_opened 0) (run_play _ carried)
    (by decide +kernel) (by decide +kernel) (by decide) (by decide) (by decide +kernel)⟩

end Treasury

end FeeTreasury
