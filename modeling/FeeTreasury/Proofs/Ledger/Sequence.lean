import FeeTreasury.Proofs.Claiming

/-!
# The sequence of periods

The closes of a ledger number its periods. After some closes the open period has the next number,
the closed ones count down from it, and slots that no period has reached are blank
(`FeeTreasury.PeriodLedger.Sequenced`). The spans form a chain: a period opens at the ownership
index at which the one before it closed (`FeeTreasury.Timeline.Chained`). What is not about time is
kept by the ring: only a close moves its head or counts.
-/

namespace FeeTreasury

open Outcome

/-! ## The chain of spans -/

namespace Timeline

variable {before after : Timeline}

/-- A span opens at the index at which the one before it closed, no closed span closes before it
opens, and a span without a number is blank. -/
structure Chained (line : Timeline) : Prop where
  link : ∀ index < periodCount - 1,
    (line.spans (index + 1)).closingIndex = (line.spans index).startingIndex
  forward : ∀ index < periodCount, index ≠ 0 →
    (line.spans index).startingIndex.toNat ≤ (line.spans index).closingIndex.toNat
  blank : ∀ index < periodCount, (line.spans index).id = 0 →
    line.spans index = FeePeriod.vacant.span

theorem Chained.advance {supply growth seconds : Nat} (chained : before.Chained)
    (advances : before.Advances after supply growth seconds) : after.Chained where
  link := advances.spans ▸ chained.link
  forward := advances.spans ▸ chained.forward
  blank := advances.spans ▸ chained.blank

/-- The span that closes ends at the index at which the next one opens. -/
theorem Chained.turn (chained : before.Chained) (ordered : before.Ordered)
    (turns : before.Turns after) : after.Chained := by
  obtain ⟨duration, closed⟩ := turns.closed
  constructor
  case link =>
    intro index inside
    match index, inside with
    | 0, _ => rw [closed, turns.startingIndex]
    | 1, _ => rw [turns.passed, closed, chained.link 0 (by decide)]
    | 2, _ => rw [turns.oldest, turns.passed, chained.link 1 (by decide)]
  case forward =>
    intro index inside past
    match index, inside, past with
    | 1, _, _ =>
      rw [closed]
      exact ordered.startingIndex_le
    | 2, _, _ =>
      rw [turns.passed]
      exact chained.forward 1 (by decide) (by decide)
    | 3, _, _ =>
      rw [turns.oldest]
      exact chained.forward 2 (by decide) (by decide)
  case blank =>
    intro index inside unnumbered
    match index, inside with
    | 0, _ =>
      have counted := turns.next
      rw [unnumbered] at counted
      exact absurd counted.symm (Nat.succ_ne_zero _)
    | 1, _ =>
      rw [closed] at unnumbered
      exact absurd (congrArg UInt64.toNat unnumbered) (Nat.pos_iff_ne_zero.mp ordered.open_pos)
    | 2, _ =>
      rw [turns.passed] at unnumbered ⊢
      exact chained.blank 1 (by decide) unnumbered
    | 3, _ =>
      rw [turns.oldest] at unnumbered ⊢
      exact chained.blank 2 (by decide) unnumbered

end Timeline

/-- A blank span and pots without money make an empty slot. -/
theorem FeePeriod.eq_vacant_of_pots {period : FeePeriod} (span : period.span = vacant.span)
    (pots : ∀ purse, (period.pot purse).total = 0 ∧ (period.pot purse).Within) :
    period = vacant := by
  have empty : ∀ purse, period.pot purse = Pot.empty := by
    intro purse
    obtain ⟨none, within⟩ := pots purse
    rw [Pot.Within, none, UInt64.toNat_zero, Nat.le_zero] at within
    have unclaimed : (period.pot purse).claimed = 0 := UInt64.toNat_inj.mp within
    calc period.pot purse = ⟨(period.pot purse).total, (period.pot purse).claimed⟩ := rfl
      _ = Pot.empty := by rw [none, unclaimed, Pot.empty]
  obtain ⟨id, start, duration, fees, rewards, startingIndex, closingIndex, covered⟩ := period
  simp only [FeePeriod.span, Span.mk.injEq] at span
  obtain ⟨rfl, rfl, rfl, rfl, rfl, rfl⟩ := span
  obtain rfl : fees = Pot.empty := empty .fees
  obtain rfl : rewards = Pot.empty := empty .rewards
  rfl

namespace PeriodLedger

variable {ledger middle after : PeriodLedger}

theorem span_new_of_ne {now : Int64} {bump : UInt8} {index : Nat} (inside : index < periodCount)
    (past : index ≠ 0) : (new now bump).timeline.spans index = FeePeriod.vacant.span := by
  simp only [timeline, window_new, Nat.mod_eq_of_lt inside, past, if_false]

theorem timeline_new_chained (now : Int64) (bump : UInt8) : (new now bump).timeline.Chained where
  link := by
    intro index inside
    have within : index + 1 < periodCount := Nat.add_lt_of_lt_sub inside
    rw [span_new_of_ne within (Nat.succ_ne_zero index)]
    by_cases first : index = 0
    · subst first
      simp only [timeline, window_new]
      rfl
    · rw [span_new_of_ne (Nat.lt_of_succ_lt within) first]
      rfl
  forward := by
    intro index inside past
    rw [span_new_of_ne inside past]
    exact Nat.le_refl 0
  blank := by
    intro index inside unnumbered
    by_cases first : index = 0
    · subst first
      simp only [timeline, window_new] at unnumbered
      exact absurd (show (1 : UInt64) = 0 from unnumbered) (by decide)
    · exact span_new_of_ne inside first

/-! ## The ring -/

/-- The ring stays where it is: its head does not move, and no close is counted. -/
structure Stays (before after : PeriodLedger) : Prop where
  head : after.head = before.head
  closedCount : after.closedCount = before.closedCount

theorem Stays.refl (ledger : PeriodLedger) : Stays ledger ledger := ⟨rfl, rfl⟩

theorem Stays.trans (first : Stays ledger middle) (second : Stays middle after) :
    Stays ledger after :=
  ⟨second.head.trans first.head, second.closedCount.trans first.closedCount⟩

theorem stays_put (ledger : PeriodLedger) (index : Nat) (period : FeePeriod) :
    Stays ledger (ledger.put index period) := ⟨rfl, rfl⟩

theorem stays_accrue {now : Int64} {supply : UInt64}
    (accrued : ledger.accrue now supply = .ok after) : Stays ledger after := by
  simp only [accrue, ite_eq_ok, bind_eq_ok, pure_eq_ok] at accrued
  obtain ⟨_, rfl⟩ | ⟨_, _, _, ⟨_, rfl⟩ | ⟨_, _, _, _, _, _, _, rfl⟩⟩ := accrued <;> exact ⟨rfl, rfl⟩

theorem stays_mark {index : Nat} {amount : Entitlement}
    (marked : ledger.mark index amount = .ok after) : Stays ledger after := by
  simp only [mark, ite_eq_ok, pure_eq_ok] at marked
  obtain ⟨_, rfl⟩ | ⟨_, recorded⟩ := marked
  · exact .refl _
  · obtain ⟨_, _, _, rfl⟩ := modifyPeriod_eq_ok.mp recorded
    exact stays_put ..

theorem stays_markAll {first second third : Entitlement}
    (marked : ledger.markAll first second third = .ok after) : Stays ledger after := by
  simp only [markAll, bind_eq_ok] at marked
  obtain ⟨_, oldest, _, middle, youngest⟩ := marked
  exact (stays_mark oldest).trans ((stays_mark middle).trans (stays_mark youngest))

/-- A close moves the head to a slot of the ring. -/
theorem head_lt_of_rotate {now duration : Int64} {supply id : UInt64}
    (rotated : ledger.rotate now duration supply = .ok (after, id)) :
    after.head.toNat < periodCount := by
  rw [rotate_eq] at rotated
  simp only [bind_eq_ok, pure_eq_ok, Prod.mk.injEq] at rotated
  obtain ⟨accrued, _, _, _, _, _, rfl, _⟩ := rotated
  have inside : (accrued.slot 3 : Nat) < periodCount := (accrued.slot 3).isLt
  have fits : (accrued.slot 3 : Nat) < UInt8.size := Nat.lt_trans inside (by decide)
  exact (UInt8.toNat_ofNat_of_lt' fits).symm ▸ inside

/-- The ring after some closes: all of them are counted, and the open period has the next number. -/
structure Counted (ledger : PeriodLedger) (closes : Nat) : Prop where
  closedCount : ledger.closedCount.toNat = closes
  head_lt : ledger.head.toNat < periodCount
  opened : ledger.current.id.toNat = closes + 1

theorem counted_new (now : Int64) (bump : UInt8) : (new now bump).Counted 0 where
  closedCount := rfl
  head_lt := Nat.succ_pos _
  opened := by
    rw [current, window_new]
    rfl

theorem Counted.stay {closes : Nat} (counted : ledger.Counted closes) (stays : Stays ledger after)
    (same : after.current.id = ledger.current.id) : after.Counted closes where
  closedCount := stays.closedCount ▸ counted.closedCount
  head_lt := stays.head ▸ counted.head_lt
  opened := same ▸ counted.opened

/-- A close gives the number of the open period, which is the number of the close. -/
theorem Counted.rotate {closes : Nat} {now duration : Int64} {supply id : UInt64}
    (counted : ledger.Counted closes)
    (rotated : ledger.rotate now duration supply = .ok (after, id)) :
    id.toNat = closes + 1 ∧ after.Counted (closes + 1) := by
  obtain ⟨accrued, brought, rfl, rotates⟩ := rotate_eq_ok rotated
  obtain ⟨next, number, opened⟩ := rotates.opened
  have given : accrued.current.id.toNat = closes + 1 :=
    (congrArg (fun period : FeePeriod => period.id.toNat) (window_accrue brought 0)).trans
      counted.opened
  rw [given] at number
  -- The count does not saturate, since the next number is a word.
  have fits : ledger.closedCount.toNat + 1 < UInt64.size := by
    have small := next.toNat_lt
    rw [number, ← counted.closedCount] at small
    exact Nat.lt_of_succ_lt small
  refine ⟨given, ?_, head_lt_of_rotate rotated, ?_⟩
  · rw [rotates.closedCount, (stays_accrue brought).closedCount, saturatingSucc, if_pos fits,
      UInt64.toNat_add, ← counted.closedCount]
    exact Nat.mod_eq_of_lt fits
  · rw [current, opened]
    exact number

/-- A close from the relayer under an id that is not that of the open period is refused. -/
theorem closeFromRelayer_of_ne {now duration configured : Int64} {id supply : UInt64}
    (different : id ≠ ledger.current.id) :
    ledger.closeFromRelayer now id duration configured supply =
      refuse (if 0 < configured then .periodIdMismatch else .periodDurationNotSet) := by
  unfold closeFromRelayer
  by_cases set : 0 < configured
  · simp only [require, set, different, decide_true, decide_false, ↓reduceIte, Bool.false_eq_true]
    rfl
  · simp only [require, set, decide_false, ↓reduceIte, Bool.false_eq_true]
    rfl

/-! ## The sequence -/

/-- The ledger after a number of closes. -/
structure Sequenced (ledger : PeriodLedger) (closes : Nat) : Prop where
  closedCount : ledger.closedCount.toNat = closes
  head_lt : ledger.head.toNat < periodCount
  id : ∀ index < periodCount, index ≤ closes →
    (ledger.window index).id.toNat = closes + 1 - index
  vacant : ∀ index < periodCount, closes < index → ledger.window index = FeePeriod.vacant
  forward : ∀ index < periodCount, index ≠ 0 →
    (ledger.window index).startingIndex ≤ (ledger.window index).closingIndex
  link : ∀ index < periodCount - 1,
    (ledger.window (index + 1)).closingIndex = (ledger.window index).startingIndex

/-- Where the spans are numbered and form a chain, and no pot is out of order, the ledger is in
sequence with its closes. -/
theorem Counted.sequenced {closes : Nat} (counted : ledger.Counted closes)
    (ordered : ledger.timeline.Ordered) (chained : ledger.timeline.Chained)
    (solvent : ledger.Solvent) : ledger.Sequenced closes := by
  have ids : ∀ index < periodCount, (ledger.window index).id.toNat = closes + 1 - index := by
    intro index inside
    have number : (ledger.window index).id.toNat = ledger.current.id.toNat - index :=
      ordered.ids index inside
    rw [number, counted.opened]
  refine ⟨counted.closedCount, counted.head_lt, fun index inside _ => ids index inside, ?_,
    chained.forward, chained.link⟩
  intro index inside past
  have unnumbered : (ledger.window index).id = 0 := by
    rw [← UInt64.toNat_inj, ids index inside, UInt64.toNat_zero]
    omega
  apply FeePeriod.eq_vacant_of_pots (chained.blank index inside unnumbered)
  intro purse
  exact ⟨solvent.vacant index inside unnumbered purse, solvent.within index inside purse⟩

end PeriodLedger

end FeeTreasury
