import FeeTreasury.Proofs.Ownership.Integral

/-!
# Share-seconds are conserved

All balances together are the supply of the registry, so an accrual with that supply hands out every
covered second, up to a remainder that it carries. Over a period the balances gather the covered
seconds together with the carry at its start, except for the carry at its end
(`FeeTreasury.Treasury.Run.conserves`).
-/

namespace FeeTreasury

open Outcome

/-- What was gathered in each retained period of a timeline is its covered time with the carry at
its opening, up to the carry at its close. The open period has the present carry. -/
structure Timeline.Settles (line : Timeline) (gathered opening closing : UInt64 → Nat) : Prop where
  opened : gathered (line.spans 0).id + line.carry.toNat =
    line.covered.toNat * preciseUnit + opening (line.spans 0).id
  closed : ∀ index < periodCount, index ≠ 0 →
    gathered (line.spans index).id + closing (line.spans index).id =
      (line.spans index).coveredSeconds.toNat * preciseUnit + opening (line.spans index).id

namespace Timeline.Settles

variable {before after : Timeline} {gathered gathers opening closing : UInt64 → Nat}

/-- An accrual splits its seconds over the supply, and carries the rest. -/
theorem advance {supply growth seconds : Nat} (settles : before.Settles gathered opening closing)
    (ordered : before.Ordered) (advances : before.Advances after supply growth seconds)
    (grown : ∀ id, gathers id =
      gathered id + if (before.spans 0).id = id then supply * growth else 0) :
    after.Settles gathers opening closing where
  opened := by
    have settled := settles.opened
    have split := advances.split
    rw [advances.spans, advances.covered, grown, if_pos rfl, Nat.add_mul]
    omega
  closed index inside ended := by
    rw [advances.spans, grown, if_neg (UInt64.ne_of_lt (ordered.id_lt inside ended)).symm]
    exact settles.closed index inside ended

/-- A close hands the carry of the closed period to the period that opens. -/
theorem turn {opens closes : UInt64 → Nat} (settles : before.Settles gathered opening closing)
    (ordered : before.Ordered) (turns : before.Turns after)
    (fresh : gathered (after.spans 0).id = 0)
    (opens_next : opens (after.spans 0).id = before.carry.toNat)
    (opens_past : ∀ id, id ≤ (before.spans 0).id → opens id = opening id)
    (closes_open : closes (before.spans 0).id = before.carry.toNat)
    (closes_past : ∀ id, id < (before.spans 0).id → closes id = closing id) :
    after.Settles gathered opens closes := by
  have passed : ∀ index < periodCount, index ≠ 0 →
      gathered (before.spans index).id + closes (before.spans index).id =
        (before.spans index).coveredSeconds.toNat * preciseUnit +
          opens (before.spans index).id := by
    intro index inside ended
    have past := ordered.id_lt inside ended
    rw [closes_past _ past, opens_past _ (UInt64.le_of_lt past)]
    exact settles.closed index inside ended
  obtain ⟨duration, closed⟩ := turns.closed
  refine ⟨?_, fun index inside ended => ?_⟩
  · rw [fresh, opens_next, turns.carry, turns.covered, UInt64.toNat_zero, Nat.zero_mul]
  · match index, inside, ended with
    | 1, _, _ =>
      rw [closed, closes_open, opens_past _ (UInt64.le_refl _)]
      exact settles.opened
    | 2, _, _ => rw [turns.passed]; exact passed 1 (by decide) (by decide)
    | 3, _, _ => rw [turns.oldest]; exact passed 2 (by decide) (by decide)

end Timeline.Settles

namespace Treasury

variable {ι : Type}

/-- A step opens a period. -/
def Step.opens (step : Step ι) (id : UInt64) : Bool :=
  step.before.ledger.current.id ≠ id ∧ step.after.ledger.current.id = id

/-- A step closes a period. -/
def Step.closes (step : Step ι) (id : UInt64) : Bool :=
  step.before.ledger.current.id = id ∧ step.after.ledger.current.id ≠ id

/-- The carry that the last step of a kind left, or none. -/
def carryAt (history : List (Step ι)) (kind : Step ι → Bool) : Nat :=
  match history.find? kind with
  | some step => step.after.ledger.ownershipCarry.toNat
  | none => 0

/-- The carry at the moment a period opened. The first period opens with its ledger, without one. -/
def openingCarry (history : List (Step ι)) (id : UInt64) : Nat := carryAt history (·.opens id)

/-- The carry at the moment a period closed. -/
def closingCarry (history : List (Step ι)) (id : UInt64) : Nat := carryAt history (·.closes id)

theorem carryAt_cons (step : Step ι) (history : List (Step ι)) (kind : Step ι → Bool) :
    carryAt (step :: history) kind =
      if kind step then step.after.ledger.ownershipCarry.toNat else carryAt history kind := by
  simp only [carryAt, List.find?_cons]
  cases kind step with
  | true => rfl
  | false => rfl

/-- While the open period stays open, no period opens or closes. -/
theorem carry_cons_of_stay (step : Step ι) (history : List (Step ι))
    (stays : (step.after.ledger.timeline.spans 0).id = (step.before.ledger.timeline.spans 0).id) :
    openingCarry (step :: history) = openingCarry history ∧
      closingCarry (step :: history) = closingCarry history := by
  have same : step.after.ledger.current.id = step.before.ledger.current.id := stays
  constructor
  · funext id
    simp only [openingCarry, carryAt_cons, Step.opens, same, ne_eq, not_and_self_iff, decide_false,
      Bool.false_eq_true, ↓reduceIte]
  · funext id
    simp only [closingCarry, carryAt_cons, Step.closes, same, ne_eq, and_not_self_iff, decide_false,
      Bool.false_eq_true, ↓reduceIte]

theorem openingCarry_cons_of_leave (step : Step ι) (history : List (Step ι))
    (leaves : (step.before.ledger.timeline.spans 0).id < (step.after.ledger.timeline.spans 0).id)
    (id : UInt64) :
    openingCarry (step :: history) id =
      if id = (step.after.ledger.timeline.spans 0).id then step.after.ledger.timeline.carry.toNat
      else openingCarry history id := by
  have opens : (step.opens id = true) = (id = (step.after.ledger.timeline.spans 0).id) := by
    simp only [Step.opens, decide_eq_true_eq, eq_iff_iff]
    exact ⟨fun opens => opens.2.symm, fun same => ⟨same ▸ UInt64.ne_of_lt leaves, same.symm⟩⟩
  simp only [openingCarry, carryAt_cons, opens]
  rfl

theorem closingCarry_cons_of_leave (step : Step ι) (history : List (Step ι))
    (leaves : (step.before.ledger.timeline.spans 0).id < (step.after.ledger.timeline.spans 0).id)
    (id : UInt64) :
    closingCarry (step :: history) id =
      if id = (step.before.ledger.timeline.spans 0).id then step.after.ledger.timeline.carry.toNat
      else closingCarry history id := by
  have closes : (step.closes id = true) = (id = (step.before.ledger.timeline.spans 0).id) := by
    simp only [Step.closes, decide_eq_true_eq, eq_iff_iff]
    exact ⟨fun closes => closes.1.symm,
      fun same => ⟨same.symm, same ▸ (UInt64.ne_of_lt leaves).symm⟩⟩
  simp only [closingCarry, carryAt_cons, closes]
  rfl

variable [Fintype ι]

/-- What runs conserve: the supply is the sum of all balances, the retained periods settle, and a
carry is less than any supply can be. -/
structure Conserves (history : List (Step ι)) (treasury : Treasury ι) : Prop where
  supply : ∑ who, (treasury.stakers who).shares.toNat = treasury.registry.supply.toNat
  settles : treasury.ledger.timeline.Settles (fun id => ∑ who, gathered history who id)
    (openingCarry history) (closingCarry history)
  carry_lt : treasury.ledger.ownershipCarry.toNat < UInt64.size
  openingCarry_lt : ∀ id, openingCarry history id < UInt64.size

/-- What one balance gathers for a period is part of what all of them gather. -/
theorem gathered_le_sum (history : List (Step ι)) (who : ι) (id : UInt64) :
    gathered history who id ≤ ∑ who, gathered history who id :=
  Finset.single_le_sum (f := fun who => gathered history who id) (fun _ _ => Nat.zero_le _)
    (Finset.mem_univ who)

theorem Step.sum_gathered_cons (step : Step ι) (history : List (Step ι))
    {supply growth seconds : Nat} (course : step.before.Course step.after supply growth seconds)
    (summed : ∑ who, (step.before.stakers who).shares.toNat = supply) (id : UInt64) :
    ∑ who, gathered (step :: history) who id = ∑ who, gathered history who id +
      if (step.before.ledger.timeline.spans 0).id = id then supply * growth else 0 := by
  simp only [gathered_cons, step.gathers_eq course, Finset.sum_add_distrib]
  rw [Nat.add_comm]
  congr 1
  split
  · rw [← Finset.sum_mul, summed]
  · rw [Finset.sum_const_zero]

theorem Course.sum_shares [DecidableEq ι] {before after : Treasury ι}
    {supply growth seconds : Nat} (course : before.Course after supply growth seconds)
    (summed : ∑ who, (before.stakers who).shares.toNat = before.registry.supply.toNat) :
    ∑ who, (after.stakers who).shares.toNat = after.registry.supply.toNat := by
  have still : before.Steady after →
      ∑ who, (after.stakers who).shares.toNat = after.registry.supply.toNat := fun steady => by
    rw [steady.supply, ← summed]
    exact Finset.sum_congr rfl fun who _ => congrArg UInt64.toNat (steady.shares who)
  cases course with
  | pass _ steady => exact still steady
  | turn _ _ _ steady => exact still steady
  | change who _ _ changes =>
    have others : ∑ other ∈ Finset.univ.erase who, (after.stakers other).shares.toNat =
        ∑ other ∈ Finset.univ.erase who, (before.stakers other).shares.toNat :=
      Finset.sum_congr rfl fun other member => by
        rw [changes.others other (Finset.ne_of_mem_erase member)]
    have enough := changes.balance_le
    have counted := changes.supply
    rw [← Finset.add_sum_erase _ _ (Finset.mem_univ who)] at summed ⊢
    omega

/-- A step that accrues with the registry's supply conserves. -/
theorem Step.conserves [DecidableEq ι] (step : Step ι) {history : List (Step ι)}
    {growth seconds : Nat} (course : step.before.Course step.after
      step.before.registry.supply.toNat growth seconds)
    (ordered : step.before.ledger.timeline.Ordered) (conserves : Conserves history step.before)
    (ahead : ∀ id, (step.before.ledger.timeline.spans 0).id < id →
      ∀ who, gathered history who id = 0) :
    Conserves (step :: history) step.after := by
  have summed := course.sum_shares conserves.supply
  have grown := step.sum_gathered_cons history course conserves.supply
  have carry_lt : ∀ {line : Timeline}, step.before.ledger.timeline.Advances line
      step.before.registry.supply.toNat growth seconds → line.carry.toNat < UInt64.size :=
    fun advances => Nat.lt_of_le_of_lt advances.carry_le
      (Nat.max_lt.mpr ⟨conserves.carry_lt, step.before.registry.supply.toNat_lt⟩)
  -- A step that closes nothing leaves the carries of all periods as they are.
  have stay : step.before.ledger.timeline.Advances step.after.ledger.timeline
      step.before.registry.supply.toNat growth seconds →
        Conserves (step :: history) step.after := fun advances => by
    have ⟨openings, closings⟩ := carry_cons_of_stay step history
      (congrArg (fun spans => (spans 0).id) advances.spans)
    refine ⟨summed, ?_, carry_lt advances, ?_⟩
    · rw [openings, closings]
      exact conserves.settles.advance ordered advances grown
    · exact openings ▸ conserves.openingCarry_lt
  cases course with
  | pass advances _ => exact stay advances
  | change _ _ advances _ => exact stay advances
  | turn accrued advances turns _ =>
    have settled := conserves.settles.advance ordered advances grown
    have same : (accrued.timeline.spans 0).id = (step.before.ledger.timeline.spans 0).id :=
      congrArg (fun spans => (spans 0).id) advances.spans
    have later : (step.before.ledger.timeline.spans 0).id <
        (step.after.ledger.timeline.spans 0).id := by
      rw [UInt64.lt_iff_toNat_lt, turns.next, same]
      exact Nat.lt_succ_self _
    have openings := openingCarry_cons_of_leave step history later
    have closings := closingCarry_cons_of_leave step history later
    rw [turns.carry] at openings closings
    refine ⟨summed, settled.turn (ordered.advance advances) turns ?_ ?_ ?_ ?_ ?_, ?_, ?_⟩
    · simp only [grown, if_neg (UInt64.ne_of_lt later), Nat.add_zero]
      exact Finset.sum_eq_zero fun who _ => ahead _ later who
    · rw [openings, if_pos rfl]
    · intro id past
      rw [openings, if_neg (UInt64.ne_of_lt (UInt64.lt_of_le_of_lt past (same ▸ later)))]
    · rw [closings, if_pos same]
    · intro id past
      rw [closings, if_neg (same ▸ UInt64.ne_of_lt past)]
    · exact congrArg BitVec.toNat turns.carry ▸ carry_lt advances
    · intro id
      rw [openings]
      split
      · exact carry_lt advances
      · exact conserves.openingCarry_lt id

theorem Fresh.conserves {start : Treasury ι} (fresh : start.Fresh) : Conserves [] start := by
  obtain ⟨now, bump, ledger⟩ := fresh.ledger
  obtain ⟨seed, registry⟩ := fresh.registry
  have shares : ∀ who, (start.stakers who).shares.toNat = 0 := fun who => by
    obtain ⟨owner, bump, created, staker⟩ := fresh.stakers who
    rw [staker]
    rfl
  have gathered : ∀ id, ∑ who : ι, gathered [] who id = 0 := fun id =>
    Finset.sum_eq_zero fun who _ => rfl
  have opening : ∀ id, openingCarry ([] : List (Step ι)) id = 0 := fun _ => rfl
  have closing : ∀ id, closingCarry ([] : List (Step ι)) id = 0 := fun _ => rfl
  have covered : start.ledger.timeline.covered.toNat = 0 := by rw [ledger]; rfl
  have carry : start.ledger.timeline.carry.toNat = 0 := by rw [ledger]; rfl
  refine ⟨?_, ⟨?_, fun index inside ended => ?_⟩, ?_, fun _ => UInt64.toNat_lt 0⟩
  · rw [Finset.sum_eq_zero fun who _ => shares who, registry]
    rfl
  · rw [gathered, opening, covered, carry, Nat.zero_mul]
  · have uncovered : (start.ledger.timeline.spans index).coveredSeconds.toNat = 0 := by
      rw [ledger]
      simp only [PeriodLedger.timeline, PeriodLedger.window_new, Nat.mod_eq_of_lt inside, ended,
        ↓reduceIte]
      rfl
    rw [gathered, opening, closing, uncovered, Nat.zero_mul]
  · exact Nat.lt_of_le_of_lt (Nat.le_of_eq carry) (UInt64.toNat_lt 0)

variable [DecidableEq ι] {start treasury : Treasury ι} {history : List (Step ι)}

/-- A run from a fresh treasury whose accruals use the registry's supply conserves. -/
theorem Run.conserves (run : start.Run history treasury) (fresh : start.Fresh)
    (free : ImportFree history) (inStep : InStep history) : Conserves history treasury := by
  obtain ⟨now, bump, opened⟩ := fresh.ledger
  induction run with
  | start => exact fresh.conserves
  | step run performed ih =>
    obtain ⟨imports, earlier⟩ := importFree_cons.mp free
    obtain ⟨given, kept⟩ := inStep_cons.mp inStep
    obtain ⟨supply, growth, seconds, course, named⟩ := course_of_perform imports performed
    have ordered := run.ordered earlier (opened ▸ PeriodLedger.timeline_new_ordered now bump)
    rw [named given] at course
    refine Step.conserves ⟨_, _, _, _⟩ course ordered (ih earlier kept) fun id ahead who => ?_
    obtain ⟨owner, seed, created, joined⟩ := fresh.stakers who
    exact (run.follows earlier opened joined).ahead id ahead

omit [DecidableEq ι] in
/-- All balances together gather in a closed period its covered time, up to the carries. -/
theorem Conserves.window {index : Nat} (conserves : Conserves history treasury)
    (inside : index < periodCount) (closed : index ≠ 0) :
    ∑ who, gathered history who (treasury.ledger.window index).id +
        closingCarry history (treasury.ledger.window index).id =
      (treasury.ledger.window index).coveredSeconds.toNat * preciseUnit +
        openingCarry history (treasury.ledger.window index).id :=
  conserves.settles.closed index inside closed

omit [DecidableEq ι] in
/-- What one balance gathers in a closed period fits its width, since all covered seconds do. -/
theorem Conserves.gathered_lt {index : Nat} (conserves : Conserves history treasury)
    (inside : index < periodCount) (closed : index ≠ 0) (who : ι) :
    gathered history who (treasury.ledger.window index).id < UInt128.size := by
  have settled := conserves.window inside closed
  have opening := conserves.openingCarry_lt (treasury.ledger.window index).id
  have covered := (treasury.ledger.window index).coveredSeconds.toNat_lt
  have part := gathered_le_sum history who (treasury.ledger.window index).id
  simp only [preciseUnit, UInt64.size, UInt128.size] at settled opening covered ⊢
  omega

end Treasury

end FeeTreasury
