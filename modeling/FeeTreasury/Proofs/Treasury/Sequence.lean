import FeeTreasury.Proofs.Ledger.Sequence
import FeeTreasury.Proofs.Treasury.Tallies

/-!
# Closes come in sequence

The close of a run without imports that comes after `n` others gives the id `n + 1`, and leaves a
window that is in sequence with all closes so far. No closed period can be closed again: the relayer
is refused under any id that a close has given (`FeeTreasury.Treasury.closes_in_sequence`). Which
refusal it is depends on whether a duration is configured, since that is asked for first.
-/

namespace FeeTreasury

open Outcome

namespace Treasury

variable {ι : Type} [DecidableEq ι] {start treasury after : Treasury ι} {receipt : Receipt}
  {history : List (Step ι)} {operation : Operation ι}

/-! ## What a step does to the ring -/

/-- Only a close moves the ring. -/
theorem stays_of_perform (free : operation.isImport = false) (stays : operation.closes = false)
    (performed : treasury.perform operation = .ok (after, receipt)) :
    PeriodLedger.Stays treasury.ledger after.ledger := by
  cases performs_of_perform performed with
  | recordFee recorded =>
    obtain ⟨_, _, same⟩ := PeriodLedger.recordFee_eq_ok recorded
    exact same ▸ PeriodLedger.stays_put ..
  | recordReward recorded =>
    obtain ⟨_, _, same⟩ := PeriodLedger.recordReward_eq_ok recorded
    exact same ▸ PeriodLedger.stays_put ..
  | accrue accrued => exact PeriodLedger.stays_accrue accrued
  | setShares changed => exact PeriodLedger.stays_accrue (ShareBooks.setShares_eq_ok changed).1
  | liquidate liquidated =>
    obtain ⟨_, _, changed⟩ := ShareBooks.liquidate_eq_ok liquidated
    exact PeriodLedger.stays_accrue (ShareBooks.setShares_eq_ok changed).1
  | close | closeFromRelayer => simp only [Operation.closes, reduceCtorEq] at stays
  | claim claimed =>
    obtain ⟨_, _, _, _, _, _, _, _, marked, _⟩ := Claiming.claim_eq_ok claimed
    exact PeriodLedger.stays_markAll marked
  | claimOnBehalf claimed =>
    obtain ⟨_, _, _, _, _, _, _, _, marked, _⟩ :=
      Claiming.claim_eq_ok (Claiming.claimOnBehalf_eq_ok claimed).2
    exact PeriodLedger.stays_markAll marked
  | importPeriod => simp only [Operation.isImport, reduceCtorEq] at free
  | setCollateral | deposit | credit | takeReward => exact .refl _

/-- A close rotates the ledger and hands out the id of the period that it closed. -/
theorem rotate_of_perform (closes : operation.closes = true)
    (performed : treasury.perform operation = .ok (after, receipt)) :
    ∃ now duration supply id, receipt = .closed id ∧
      treasury.ledger.rotate now duration supply = .ok (after.ledger, id) := by
  cases performs_of_perform performed with
  | close closed =>
    obtain ⟨_, rotated⟩ := PeriodLedger.rotate_of_closeCurrent closed
    exact ⟨_, _, _, _, rfl, rotated⟩
  | closeFromRelayer closed =>
    obtain ⟨_, rotated⟩ := PeriodLedger.rotate_of_closeFromRelayer closed
    exact ⟨_, _, _, _, rfl, rotated⟩
  | _ => exact absurd closes Bool.false_ne_true

/-- Only a close hands out an id. -/
theorem closes_of_receipt {id : UInt64}
    (performed : treasury.perform operation = .ok (after, .closed id)) :
    operation.closes = true := by
  cases performs_of_perform performed <;> rfl

/-! ## Runs -/

/-- A step keeps the ring in count with its closes, and a close hands out its own number. -/
theorem counted_of_perform {closes : Nat} (free : operation.isImport = false)
    (performed : treasury.perform operation = .ok (after, receipt))
    (counted : treasury.ledger.Counted closes) :
    after.ledger.Counted (closes + if operation.closes then 1 else 0) ∧
      (operation.closes = true → ∃ id : UInt64, receipt = .closed id ∧ id.toNat = closes + 1) := by
  cases turns : operation.closes with
  | false =>
    exact ⟨counted.stay (stays_of_perform free turns performed)
      (current_of_perform free turns performed), fun closed => nomatch closed⟩
  | true =>
    obtain ⟨_, _, _, id, given, rotated⟩ := rotate_of_perform turns performed
    obtain ⟨number, next⟩ := counted.rotate rotated
    exact ⟨next, fun _ => ⟨id, given, number⟩⟩

omit [DecidableEq ι] in
theorem closings_append (later earlier : List (Step ι)) :
    closings (later ++ earlier) = closings later + closings earlier := List.countP_append

theorem Run.counted (run : start.Run history treasury) (free : ImportFree history)
    (opened : start.ledger.Counted 0) : treasury.ledger.Counted (closings history) := by
  induction run with
  | start => exact opened
  | step _ performed ih =>
    obtain ⟨imports, earlier⟩ := importFree_cons.mp free
    rw [closings_cons]
    exact (counted_of_perform imports performed (ih earlier)).1

omit [DecidableEq ι] in
theorem Course.chained {supply growth seconds : Nat}
    (course : treasury.Course after supply growth seconds)
    (ordered : treasury.ledger.timeline.Ordered) (chained : treasury.ledger.timeline.Chained) :
    after.ledger.timeline.Chained := by
  cases course with
  | pass advances _ => exact chained.advance advances
  | change _ _ advances _ => exact chained.advance advances
  | turn _ advances turns _ =>
    exact (chained.advance advances).turn (ordered.advance advances) turns

theorem Run.chained (run : start.Run history treasury) (free : ImportFree history)
    (ordered : start.ledger.timeline.Ordered) (chained : start.ledger.timeline.Chained) :
    treasury.ledger.timeline.Chained := by
  induction run with
  | start => exact chained
  | step run performed ih =>
    obtain ⟨imports, earlier⟩ := importFree_cons.mp free
    obtain ⟨_, _, _, course, _⟩ := course_of_perform imports performed
    exact course.chained (run.ordered earlier ordered) (ih earlier)

/-- The steps before a step of a run make a run too, and the step goes on from it. -/
theorem Run.upTo {later earlier : List (Step ι)} {step : Step ι}
    (run : start.Run (later ++ step :: earlier) treasury) :
    start.Run earlier step.before ∧
      step.before.perform step.operation = .ok (step.after, step.receipt) := by
  induction later generalizing treasury with
  | nil =>
    cases run with
    | step run performed => exact ⟨run, performed⟩
  | cons _ _ ih =>
    cases run with
    | step run _ => exact ih run

/-! ## The sequence of closes -/

/-- **Closes come in sequence, and none can be replayed.** In a run without imports from a new
ledger, the close that comes after `n` others gives the id `n + 1`. After all steps the ledger is in
sequence with the number of closes, and a close from the relayer under an id that was given before
is refused, for the id if a duration is configured. -/
theorem closes_in_sequence {now : Int64} {bump : UInt8}
    (opened : start.ledger = PeriodLedger.new now bump) (run : start.Run history treasury)
    (free : ImportFree history) :
    treasury.ledger.Sequenced (closings history) ∧
    (∀ later step earlier, history = later ++ step :: earlier → step.operation.closes = true →
      ∃ id : UInt64, step.receipt = .closed id ∧ id.toNat = closings earlier + 1) ∧
    ∀ step ∈ history, ∀ id, step.receipt = .closed id →
      ∀ (now : Int64) (duration configured : Int64) (supply : UInt64),
        treasury.perform (.closeFromRelayer now id duration configured supply) =
          refuse (if 0 < configured then .periodIdMismatch else .periodDurationNotSet) := by
  have first : start.ledger.Counted 0 := opened ▸ PeriodLedger.counted_new now bump
  have ordered : start.ledger.timeline.Ordered :=
    opened ▸ PeriodLedger.timeline_new_ordered now bump
  have counted := run.counted free first
  have numbered : ∀ later step earlier, history = later ++ step :: earlier →
      step.operation.closes = true →
        ∃ id : UInt64, step.receipt = .closed id ∧ id.toNat = closings earlier + 1 := by
    rintro later step earlier rfl closes
    obtain ⟨imports, free⟩ := importFree_cons.mp (List.forall_mem_append.mp free).2
    obtain ⟨past, performed⟩ := run.upTo
    exact (counted_of_perform imports performed (past.counted free first)).2 closes
  refine ⟨counted.sequenced (run.ordered free ordered)
    (run.chained free ordered (opened ▸ PeriodLedger.timeline_new_chained now bump))
    (run.balances free ordered (opened ▸ PeriodLedger.solvent_new now bump)).solvent,
    numbered, ?_⟩
  intro step member id given now duration configured supply
  obtain ⟨later, earlier, rfl⟩ := List.append_of_mem member
  have closes : step.operation.closes = true := closes_of_receipt (given ▸ run.upTo.2)
  obtain ⟨other, same, number⟩ := numbered later step earlier rfl closes
  obtain rfl := Receipt.closed.inj (given.symm.trans same)
  -- The open period has a number that no close has given yet.
  have different : id ≠ treasury.ledger.current.id := by
    rintro rfl
    have next := counted.opened
    rw [number, closings_append, closings_cons, if_pos closes] at next
    omega
  simp only [perform, PeriodLedger.closeFromRelayer_of_ne different]
  rfl

/-- Five closes by both paths, which wrap around the ring, with fees and a change of shares. -/
def wrapped : List (Operation Pair) :=
  [.setShares .first 50 0, .recordFee 91, .closeFromRelayer 10 1 10 10 50, .close 20 10 50,
    .setShares .second 50 25, .closeFromRelayer 30 3 0 10 100, .recordReward 7, .close 40 10 100,
    .closeFromRelayer 55 5 10 10 100]

/-- The second period was closed at 20, and is no longer in the window. -/
theorem closes_in_sequence_wrapped :
    ((opened 0).play wrapped).2.ledger.Sequenced 5 ∧
      ((opened 0).play wrapped).2.perform (.closeFromRelayer 60 2 10 10 100) =
        refuse .periodIdMismatch := by
  have closed : closings ((opened 0).play wrapped).1 = 5 := by decide +kernel
  obtain ⟨sequenced, _, replays⟩ :=
    closes_in_sequence rfl (run_play (opened 0) wrapped) (by decide +kernel)
  obtain ⟨step, member, given⟩ :
      ∃ step ∈ ((opened 0).play wrapped).1, step.receipt = .closed 2 := by decide +kernel
  exact ⟨closed ▸ sequenced, replays step member 2 given 60 10 10 100⟩

/-- Where no duration is configured, a replayed close is refused for that. -/
theorem not_refused_for_id :
    ¬ ∀ (history : List (Step Pair)) (treasury : Treasury Pair),
      (opened 0).Run history treasury → ImportFree history →
      ∀ step ∈ history, ∀ id, step.receipt = .closed id →
        ∀ (now duration configured : Int64) (supply : UInt64),
          treasury.ledger.closeFromRelayer now id duration configured supply =
            refuse .periodIdMismatch := by
  intro refused
  have first : ∀ step ∈ ((opened 0).play [.closeFromRelayer 10 1 10 10 0]).1,
      step.receipt = .closed 1 →
        ((opened 0 : Treasury Pair).play [.closeFromRelayer 10 1 10 10 0]).2.ledger.closeFromRelayer
          20 1 10 0 0 = refuse .periodIdMismatch :=
    fun step member given => refused _ _ (run_play (opened 0) _) (by decide +kernel) step member 1
      given 20 10 0 0
  revert first
  decide +kernel

end Treasury

end FeeTreasury
