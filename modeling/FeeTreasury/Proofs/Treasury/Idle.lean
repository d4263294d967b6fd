import FeeTreasury.Proofs.Ownership.Integral
import FeeTreasury.Proofs.Treasury.Likeness

/-!
# Idle steps

A step is idle if it brings the ownership index forward with the supply in force, or reports the
balance that a staker has. Runs that differ in idle steps only lead to treasuries that are alike
(`FeeTreasury.Treasury.IdleApart.aligned`): an idle step is a stop of the meter on its way, and what
it gathers for the open period is what the balance gathers while the index grows. Once the period is
closed, nothing of it shows, so that no poking moves what is owed
(`FeeTreasury.Treasury.IdleApart.entitlements_eq`).
-/

namespace FeeTreasury

deriving instance DecidableEq for Oracle, ClaimTerms, Operation

/-- The operation asks a treasury for nothing new: to bring the ownership index forward with the
supply in force, or to set the shares of a staker to what they are. -/
def Operation.Idle {ι : Type} (treasury : Treasury ι) : Operation ι → Prop
  | .accrue _ supply => supply = treasury.registry.supply
  | .setShares who balance _ => balance = (treasury.stakers who).shares
  | _ => False

instance Operation.decidableIdle {ι : Type} (treasury : Treasury ι) :
    (operation : Operation ι) → Decidable (operation.Idle treasury)
  | .accrue _ supply => inferInstanceAs (Decidable (supply = treasury.registry.supply))
  | .setShares who balance _ =>
    inferInstanceAs (Decidable (balance = (treasury.stakers who).shares))
  | .recordFee _ | .recordReward _ | .liquidate .. | .close .. | .closeFromRelayer .. | .claim ..
  | .claimOnBehalf .. | .importPeriod .. | .setCollateral .. | .deposit .. | .credit _
  | .takeReward _ => inferInstanceAs (Decidable False)

namespace Treasury

variable {ι : Type}

/-- The step is made by an operation that asks for nothing new. -/
abbrev Step.Idle (step : Step ι) : Prop := step.operation.Idle step.before

/-- Two histories carry out the same operations, but for idle steps that either of them makes
anywhere. -/
inductive IdleApart : List (Step ι) → List (Step ι) → Prop
  | nil : IdleApart [] []
  | both {one two : Step ι} {first second : List (Step ι)}
      (same : one.operation = two.operation) (apart : IdleApart first second) :
      IdleApart (one :: first) (two :: second)
  | left {one : Step ι} {first second : List (Step ι)} (idle : one.Idle)
      (apart : IdleApart first second) : IdleApart (one :: first) second
  | right {two : Step ι} {first second : List (Step ι)} (idle : two.Idle)
      (apart : IdleApart first second) : IdleApart first (two :: second)

/-- The operations of the steps that are not idle. -/
def busy (history : List (Step ι)) : List (Operation ι) :=
  (history.filter fun step => ¬ step.Idle).map fun step => step.operation

theorem busy_cons_of_idle {step : Step ι} {history : List (Step ι)} (idle : step.Idle) :
    busy (step :: history) = busy history := by
  simp only [busy, List.filter_cons, idle, not_true_eq_false, decide_false, Bool.false_eq_true,
    ↓reduceIte]

theorem busy_cons_of_not_idle {step : Step ι} {history : List (Step ι)} (works : ¬ step.Idle) :
    busy (step :: history) = step.operation :: busy history := by
  simp only [busy, List.filter_cons, works, not_false_eq_true, decide_true, ↓reduceIte,
    List.map_cons]

/-- Histories with the same busy operations are idle steps apart. -/
theorem idleApart_of_busy_eq {first second : List (Step ι)} (same : busy first = busy second) :
    IdleApart first second := by
  induction first generalizing second with
  | nil =>
    induction second with
    | nil => exact .nil
    | cons two second ih =>
      by_cases idle : two.Idle
      · exact .right idle (ih (same.trans (busy_cons_of_idle idle)))
      · rw [busy_cons_of_not_idle idle] at same
        exact nomatch same
  | cons one first ih =>
    by_cases idle : one.Idle
    · exact .left idle (ih ((busy_cons_of_idle idle).symm.trans same))
    · rw [busy_cons_of_not_idle idle] at same
      induction second with
      | nil => exact nomatch same
      | cons two second skip =>
        by_cases rests : two.Idle
        · exact .right rests (skip (same.trans (busy_cons_of_idle rests)))
        · rw [busy_cons_of_not_idle rests] at same
          obtain ⟨operation, others⟩ := List.cons.inj same
          exact .both operation (ih others)

/-! ## The clock -/

/-- The times at which a history was made, the last one first. -/
def times (history : List (Step ι)) : List Int64 :=
  history.filterMap fun step => step.operation.time

/-- The clock of the history does not go back. -/
def Clocked (history : List (Step ι)) : Prop :=
  (times history).Pairwise fun later earlier => earlier ≤ later

instance (history : List (Step ι)) : Decidable (Clocked history) :=
  inferInstanceAs (Decidable ((times history).Pairwise fun later earlier => earlier ≤ later))

/-- No step of the history was made after a time. -/
def Past (history : List (Step ι)) (now : Int64) : Prop := ∀ time ∈ times history, time ≤ now

theorem past_cons {step : Step ι} {history : List (Step ι)} {now : Int64} :
    Past (step :: history) now ↔
      (∀ time ∈ step.operation.time, time ≤ now) ∧ Past history now := by
  simp only [Past, times, List.mem_filterMap, List.mem_cons, exists_eq_or_imp, Option.mem_def,
    or_imp, forall_and]

theorem Clocked.of_cons {step : Step ι} {history : List (Step ι)}
    (clocked : Clocked (step :: history)) :
    (∀ now ∈ step.operation.time, Past history now) ∧ Clocked history := by
  unfold Clocked times at clocked
  cases time : step.operation.time with
  | none =>
    simp only [List.filterMap_cons, time] at clocked
    exact ⟨nofun, clocked⟩
  | some now =>
    simp only [List.filterMap_cons, time] at clocked
    obtain ⟨last, earlier⟩ := List.pairwise_cons.mp clocked
    refine ⟨fun other member => ?_, earlier⟩
    obtain rfl := Option.mem_some.mp member
    exact last

/-! ## What was gathered, less what the open period would have gathered -/

/-- What the balance of a staker gathered for a period. For the open period, less what the balance
would have gathered since the index was nought. A stop of the meter changes both alike. -/
def basis (history : List (Step ι)) (treasury : Treasury ι) (who : ι) (id : UInt64) : Int :=
  gathered history who id -
    if treasury.ledger.current.id = id then
      ((treasury.stakers who).shares.toNat * treasury.ledger.ownershipIndex.toNat : Int)
    else 0

/-- A step gathers what the balance gathers up to the index that it leaves. -/
theorem gathered_cons_eq_basis_add {step : Step ι} (history : List (Step ι))
    (grown : step.before.ledger.ownershipIndex.toNat ≤ step.after.ledger.ownershipIndex.toNat)
    (who : ι) (id : UInt64) :
    (gathered (step :: history) who id : Int) = basis history step.before who id +
      if step.before.ledger.current.id = id then
        ((step.before.stakers who).shares.toNat * step.after.ledger.ownershipIndex.toNat : Int)
      else 0 := by
  rw [gathered_cons, Step.gathers, basis]
  split
  · push_cast [Nat.cast_sub grown]
    ring
  · push_cast
    ring

/-- While the timeline advances and a staker's balance is what it was, its basis stays. -/
theorem basis_of_advances {step : Step ι} {history : List (Step ι)} {supply growth seconds : Nat}
    (advances : step.before.ledger.timeline.Advances step.after.ledger.timeline supply growth
      seconds)
    (who : ι) (same : (step.after.stakers who).shares = (step.before.stakers who).shares)
    (id : UInt64) :
    basis (step :: history) step.after who id = basis history step.before who id := by
  have grown : step.before.ledger.ownershipIndex.toNat ≤ step.after.ledger.ownershipIndex.toNat :=
    Nat.le.intro advances.index.symm
  have opened : step.after.ledger.current.id = step.before.ledger.current.id :=
    congrArg (fun spans : Nat → Span => (spans 0).id) advances.spans
  rw [basis, gathered_cons_eq_basis_add history grown, opened, same, add_sub_cancel_right]

theorem basis_of_timeline {step : Step ι} {history : List (Step ι)}
    (timeline : step.after.ledger.timeline = step.before.ledger.timeline) (who : ι)
    (same : (step.after.stakers who).shares = (step.before.stakers who).shares) (id : UInt64) :
    basis (step :: history) step.after who id = basis history step.before who id :=
  basis_of_advances (by rw [timeline]; exact .refl _ 0) who same id

variable [DecidableEq ι]

/-- An idle operation accrues with the supply in force, and otherwise leaves the treasury alike. -/
theorem accrues_of_idle {treasury after : Treasury ι} {operation : Operation ι} {receipt : Receipt}
    (idle : operation.Idle treasury)
    (performed : treasury.perform operation = .ok (after, receipt)) :
    after.Alike treasury ∧ ∃ now ∈ operation.time,
      treasury.ledger.accrue now treasury.registry.supply = .ok after.ledger := by
  cases performs_of_perform performed with
  | accrue accrued =>
    obtain rfl : _ = treasury.registry.supply := idle
    obtain ⟨rest, _⟩ := PeriodLedger.accrue_meter accrued
    exact ⟨(Alike.refl treasury).putLedger rest, _, rfl, accrued⟩
  | @setShares who _ now books changed =>
    obtain rfl : _ = (treasury.stakers who).shares := idle
    obtain ⟨accrued, _, enough, supply, shares⟩ := ShareBooks.setShares_eq_ok changed
    obtain ⟨rewards, ownership, _, staker⟩ := ShareBooks.setShares_staker changed
    obtain ⟨rest, _⟩ := PeriodLedger.accrue_meter accrued
    have stakers := (Alike.refl treasury).putStaker who shares
      (show books.staker.lastClaimed = (treasury.stakers who).lastClaimed by rw [staker]; rfl)
    rw [show treasury.putStaker who (treasury.stakers who) = treasury by
      simp only [putStaker, Function.update_eq_self]] at stakers
    refine ⟨⟨rest, ?_, stakers.shares, stakers.lastClaimed⟩, now, rfl, accrued⟩
    rw [← UInt64.toNat_inj]
    exact supply.trans (Nat.sub_add_cancel enough)
  | _ => exact idle.elim

/-! ## Aligned histories -/

/-- The treasuries at the end of two histories are alike, their meters agree from the last time of
both on, and so does what was gathered. -/
structure Aligned (first second : List (Step ι)) (a b : Treasury ι) : Prop where
  alike : a.Alike b
  meters : ∀ now, Past first now → Past second now →
    a.ledger.meter.forward a.registry.supply.toNat now.toInt =
      b.ledger.meter.forward a.registry.supply.toNat now.toInt
  basis : ∀ who id, basis first a who id = basis second b who id

namespace Aligned

variable {start a b : Treasury ι} {first second : List (Step ι)}

omit [DecidableEq ι] in
theorem symm (aligned : Aligned first second a b) : Aligned second first b a where
  alike := aligned.alike.symm
  meters now later earlier := by
    rw [← aligned.alike.supply]
    exact (aligned.meters now earlier later).symm
  basis who id := (aligned.basis who id).symm

/-- An idle step of one history leaves the histories aligned. -/
theorem idle {step : Step ι} (aligned : Aligned first second step.before b) (idle : step.Idle)
    (performed : step.before.perform step.operation = .ok (step.after, step.receipt)) :
    Aligned (step :: first) second step.after b := by
  obtain ⟨alike, now, timed, accrued⟩ := accrues_of_idle idle performed
  obtain ⟨_, _, advances⟩ := PeriodLedger.timeline_accrue accrued
  refine ⟨alike.trans aligned.alike, fun later past repast => ?_, fun who id => ?_⟩
  · obtain ⟨reached, past⟩ := past_cons.mp past
    rw [alike.supply, (PeriodLedger.accrue_meter accrued).2,
      Meter.forward_forward _ _ (Int64.le_iff_toInt_le.mp (reached now timed))]
    exact aligned.meters later past repast
  · rw [basis_of_advances advances who (alike.shares who)]
    exact aligned.basis who id

omit [DecidableEq ι] in
/-- Aligned histories gathered the same for each closed period. -/
theorem gathered_eq (aligned : Aligned first second a b) {who : ι} {id : UInt64}
    (closed : id ≠ a.ledger.current.id) : gathered first who id = gathered second who id := by
  have same : b.ledger.current.id = a.ledger.current.id :=
    congrArg FeePeriod.id (PeriodLedger.window_of_unmetered aligned.alike.ledger 0).symm
  have bases := aligned.basis who id
  rw [Treasury.basis, Treasury.basis, same, if_neg closed.symm, if_neg closed.symm, sub_zero,
    sub_zero] at bases
  exact Int.ofNat_inj.mp bases

/-- The logs of aligned runs answer alike for each closed period that is retained. -/
theorem shareSecondsIn_eq (aligned : Aligned first second a b) (fresh : start.Fresh)
    (run : start.Run first a) (rerun : start.Run second b) (free : ImportFree first)
    (refree : ImportFree second) (who : ι) {index : Nat} (inside : index < periodCount)
    (closed : index ≠ 0) :
    (a.stakers who).ownership.shareSecondsIn (a.ledger.window index) =
      (b.stakers who).ownership.shareSecondsIn (b.ledger.window index) := by
  have window := PeriodLedger.window_of_unmetered aligned.alike.ledger index
  cases inhabited : (a.ledger.window index).isEmpty with
  | true =>
    rw [← window]
    simp only [OwnershipLog.shareSecondsIn, inhabited, ↓reduceIte]
  | false =>
    obtain ⟨_, _, opened⟩ := fresh.ledger
    obtain ⟨_, _, _, joined⟩ := fresh.stakers who
    have ordered := run.ordered free (opened ▸ PeriodLedger.timeline_new_ordered _ _)
    have past : (a.ledger.window index).id ≠ a.ledger.current.id :=
      UInt64.ne_of_lt (ordered.id_lt inside closed)
    rw [run.shareSecondsIn_eq_fit128 free opened joined inside closed inhabited,
      rerun.shareSecondsIn_eq_fit128 refree opened joined inside closed (window ▸ inhabited),
      ← window, aligned.gathered_eq past]

theorem owedByPeriod_eq (aligned : Aligned first second a b) (fresh : start.Fresh)
    (run : start.Run first a) (rerun : start.Run second b) (free : ImportFree first)
    (refree : ImportFree second) (who : ι) :
    a.ledger.owedByPeriod (a.stakers who).ownership (a.stakers who).lastClaimed =
      b.ledger.owedByPeriod (b.stakers who).ownership (b.stakers who).lastClaimed := by
  rw [aligned.alike.lastClaimed who]
  exact PeriodLedger.owedByPeriod_congr aligned.alike.ledger fun index inside closed =>
    aligned.shareSecondsIn_eq fresh run rerun free refree who inside closed

/-- The same operation on both sides leaves aligned histories aligned. -/
theorem step {one two : Step ι} (aligned : Aligned first second one.before two.before)
    (same : one.operation = two.operation) (free : one.operation.isImport = false)
    (inStep : one.operation.InStep one.before.registry.supply)
    (late : ∀ now ∈ one.operation.time, Past first now)
    (relate : ∀ now ∈ one.operation.time, Past second now)
    (owed : ∀ who, one.before.ledger.owedByPeriod (one.before.stakers who).ownership
        (one.before.stakers who).lastClaimed =
      two.before.ledger.owedByPeriod (two.before.stakers who).ownership
        (two.before.stakers who).lastClaimed)
    (performed : one.before.perform one.operation = .ok (one.after, one.receipt))
    (reperformed : two.before.perform two.operation = .ok (two.after, two.receipt)) :
    Aligned (one :: first) (two :: second) one.after two.after := by
  rw [← same] at reperformed
  obtain ⟨alike, brought⟩ := aligned.alike.step free inStep
    (fun now timed => aligned.meters now (late now timed) (relate now timed)) owed performed
    reperformed
  cases time : one.operation.time with
  | none =>
    obtain ⟨timeline, steady⟩ := stands_of_perform time performed
    obtain ⟨retimeline, resteady⟩ := stands_of_perform time reperformed
    refine ⟨alike, fun now past repast => ?_, fun who id => ?_⟩
    · rw [steady.supply, PeriodLedger.meter_of_timeline timeline,
        PeriodLedger.meter_of_timeline retimeline]
      exact aligned.meters now (past_cons.mp past).2 (past_cons.mp repast).2
    · rw [basis_of_timeline timeline who (steady.shares who),
        basis_of_timeline retimeline who (resteady.shares who)]
      exact aligned.basis who id
  | some now =>
    have ledger : one.after.ledger = two.after.ledger :=
      brought (time ▸ Option.some_ne_none now)
    obtain ⟨_, _, _, course, _⟩ := course_of_perform free performed
    obtain ⟨_, _, _, recourse, _⟩ := course_of_perform free reperformed
    have opened : two.before.ledger.current.id = one.before.ledger.current.id :=
      congrArg FeePeriod.id (PeriodLedger.window_of_unmetered aligned.alike.ledger 0).symm
    refine ⟨alike, fun _ _ _ => by rw [ledger], fun who id => ?_⟩
    rw [Treasury.basis, Treasury.basis,
      gathered_cons_eq_basis_add first (Nat.le.intro course.index_eq.symm),
      gathered_cons_eq_basis_add second (Nat.le.intro recourse.index_eq.symm), aligned.basis,
      opened, aligned.alike.shares, alike.shares, ledger]

end Aligned

variable {start a b : Treasury ι} {first second : List (Step ι)}

/-- Runs that are idle steps apart are aligned at their ends. -/
theorem IdleApart.aligned (apart : IdleApart first second) (fresh : start.Fresh)
    (run : start.Run first a) (rerun : start.Run second b) (free : ImportFree first)
    (refree : ImportFree second) (inStep : InStep first) (clocked : Clocked first)
    (reclocked : Clocked second) : Aligned first second a b := by
  induction apart generalizing a b with
  | nil =>
    cases run
    cases rerun
    exact ⟨.refl _, fun _ _ _ => rfl, fun _ _ => rfl⟩
  | both same _ ih =>
    cases run with
    | step run performed =>
      cases rerun with
      | step rerun reperformed =>
        obtain ⟨imports, free⟩ := importFree_cons.mp free
        obtain ⟨_, refree⟩ := importFree_cons.mp refree
        obtain ⟨given, inStep⟩ := inStep_cons.mp inStep
        obtain ⟨late, clocked⟩ := clocked.of_cons
        obtain ⟨relate, reclocked⟩ := reclocked.of_cons
        have aligned := ih run rerun free refree inStep clocked reclocked
        exact aligned.step same imports given late (same ▸ relate)
          (aligned.owedByPeriod_eq fresh run rerun free refree) performed reperformed
  | left idle _ ih =>
    cases run with
    | step run performed =>
      exact (ih run rerun (importFree_cons.mp free).2 refree (inStep_cons.mp inStep).2
        clocked.of_cons.2 reclocked).idle idle performed
  | right idle _ ih =>
    cases rerun with
    | step rerun reperformed =>
      exact ((ih run rerun free (importFree_cons.mp refree).2 inStep clocked
        reclocked.of_cons.2).symm.idle idle reperformed).symm

/-- **Poking moves no entitlement.** Two runs without imports from a fresh treasury, whose clocks do
not go back and whose accruals use the registry's supply, and that differ in idle steps only, retain
the same closed periods. For each of them every staker has the same share-seconds, the same part of
the debt, and is owed the same. -/
theorem IdleApart.entitlements_eq (apart : IdleApart first second) (fresh : start.Fresh)
    (run : start.Run first a) (rerun : start.Run second b) (free : ImportFree first)
    (refree : ImportFree second) (inStep : InStep first) (clocked : Clocked first)
    (reclocked : Clocked second) :
    (∀ index < periodCount, index ≠ 0 → a.ledger.window index = b.ledger.window index ∧
      ∀ who,
        (a.stakers who).ownership.shareSecondsIn (a.ledger.window index) =
          (b.stakers who).ownership.shareSecondsIn (b.ledger.window index) ∧
        a.ledger.debtRatio (a.stakers who).ownership index =
          b.ledger.debtRatio (b.stakers who).ownership index) ∧
    ∀ who, a.ledger.owedByPeriod (a.stakers who).ownership (a.stakers who).lastClaimed =
      b.ledger.owedByPeriod (b.stakers who).ownership (b.stakers who).lastClaimed := by
  have aligned := apart.aligned fresh run rerun free refree inStep clocked reclocked
  refine ⟨fun index inside closed =>
    ⟨PeriodLedger.window_of_unmetered aligned.alike.ledger index, fun who =>
      ⟨aligned.shareSecondsIn_eq fresh run rerun free refree who inside closed, ?_⟩⟩,
    aligned.owedByPeriod_eq fresh run rerun free refree⟩
  exact PeriodLedger.debtRatio_congr aligned.alike.ledger (fun place within ended =>
    aligned.shareSecondsIn_eq fresh run rerun free refree who within ended) index

/-- Two stakers whose shares do not divide the seconds evenly, with fees in two periods. -/
def undisturbed : List (Operation Pair) :=
  [.setShares .first 3 0, .setShares .second 4 2, .recordFee 1000,
    .closeFromRelayer 10 1 10 10 7, .setShares .first 5 13, .recordFee 700,
    .closeFromRelayer 20 2 10 10 9]

/-- The same with three accruals and three reports of a balance that has not changed. -/
def poked : List (Operation Pair) :=
  [.setShares .first 3 0, .accrue 1 3, .setShares .second 4 2, .setShares .first 3 4,
    .recordFee 1000, .accrue 7 7, .accrue 7 7, .closeFromRelayer 10 1 10 10 7,
    .setShares .second 4 11, .setShares .first 5 13, .recordFee 700, .setShares .first 5 13,
    .closeFromRelayer 20 2 10 10 9]

theorem entitlements_eq_poked :
    ((opened 0).play undisturbed).1.length = 7 ∧ ((opened 0).play poked).1.length = 13 ∧
      ((opened 0).play undisturbed).2.ledger.window 1 =
        ((opened 0).play poked).2.ledger.window 1 ∧
      ((opened 0).play undisturbed).2.ledger.owedByPeriod
          (((opened 0).play undisturbed).2.stakers .first).ownership
          (((opened 0).play undisturbed).2.stakers .first).lastClaimed =
        .ok #v[⟨362, 0⟩, ⟨542, 0⟩, ⟨0, 0⟩] ∧
      ((opened 0).play undisturbed).2.ledger.owedByPeriod
          (((opened 0).play undisturbed).2.stakers .first).ownership
          (((opened 0).play undisturbed).2.stakers .first).lastClaimed =
        ((opened 0).play poked).2.ledger.owedByPeriod
          (((opened 0).play poked).2.stakers .first).ownership
          (((opened 0).play poked).2.stakers .first).lastClaimed := by
  have apart : IdleApart ((opened 0).play undisturbed).1 ((opened 0).play poked).1 :=
    idleApart_of_busy_eq (by decide +kernel)
  obtain ⟨periods, owed⟩ := apart.entitlements_eq (fresh_opened 0) (run_play _ undisturbed)
    (run_play _ poked) (by decide +kernel) (by decide +kernel) (by decide +kernel)
    (by decide +kernel) (by decide +kernel)
  exact ⟨by decide +kernel, by decide +kernel, (periods 1 (by decide) (by decide)).1,
    by decide +kernel, owed .first⟩

end Treasury

end FeeTreasury
