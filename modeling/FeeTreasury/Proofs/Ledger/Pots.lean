import FeeTreasury.Entitlement
import FeeTreasury.Proofs.Ledger.Timeline

/-!
# What the window holds

A ledger holds what is left of the pots of its retained periods. A ledger is solvent if no pot was
claimed beyond its total and empty slots have empty pots. A payment into or out of one period keeps
a ledger solvent and changes what it holds by the payment
(`FeeTreasury.PeriodLedger.Solvent.held_put`). A close loses what the oldest slot holds if that slot
counts as empty, and nothing else (`FeeTreasury.PeriodLedger.Rotates.held_add_overlooked`): what is
left of a dropped period is inherited. So a close of a solvent ledger loses nothing
(`FeeTreasury.PeriodLedger.Rotates.held_eq`).
-/

namespace FeeTreasury

open Outcome

/-- The two kinds of money that a period distributes. -/
inductive Purse where
  | fees
  | rewards
  deriving DecidableEq, Repr

/-- The pot of a period for one kind of money. -/
def FeePeriod.pot (period : FeePeriod) : Purse → Pot
  | .fees => period.fees
  | .rewards => period.rewards

/-- The amount of one kind of money. -/
def Entitlement.amount (entitlement : Entitlement) : Purse → UInt64
  | .fees => entitlement.fees
  | .rewards => entitlement.rewards

/-- A pot that was not claimed beyond its total. -/
def Pot.Within (pot : Pot) : Prop := pot.claimed.toNat ≤ pot.total.toNat

@[simp] theorem Pot.toNat_unclaimed (pot : Pot) :
    pot.unclaimed.toNat = pot.total.toNat - pot.claimed.toNat :=
  toNat_saturatingSub ..

theorem Pot.add_eq_ok {pot after : Pot} {amount : UInt64} (answered : pot.add amount = .ok after) :
    after.total.toNat = pot.total.toNat + amount.toNat ∧ after.claimed = pot.claimed := by
  simp only [add, bind_eq_ok, pure_eq_ok, checkedAdd_eq_ok] at answered
  obtain ⟨total, added, rfl⟩ := answered
  exact ⟨added, rfl⟩

/-- A period after some money came in and some was claimed. -/
structure FeePeriod.Pays (before after : FeePeriod) (inflow outflow : Purse → Nat) : Prop where
  id : after.id = before.id
  total : ∀ purse, (after.pot purse).total.toNat = (before.pot purse).total.toNat + inflow purse
  claimed : ∀ purse,
    (after.pot purse).claimed.toNat = (before.pot purse).claimed.toNat + outflow purse

namespace PeriodLedger

/-- What is left of one kind of money in the retained periods. -/
def held (ledger : PeriodLedger) (purse : Purse) : Nat :=
  (ledger.recent.map fun period => (period.pot purse).unclaimed.toNat).sum

/-- No retained pot was claimed beyond its total. -/
def Within (ledger : PeriodLedger) : Prop :=
  ∀ index < periodCount, ∀ purse, ((ledger.window index).pot purse).Within

/-- What the oldest slot holds of one kind of money although it counts as empty. -/
def overlooked (ledger : PeriodLedger) (purse : Purse) : Nat :=
  if (ledger.window 3).id = 0 then ((ledger.window 3).pot purse).unclaimed.toNat else 0

/-- No pot was claimed beyond its total, and empty slots have empty pots. -/
structure Solvent (ledger : PeriodLedger) : Prop where
  within : ∀ index < periodCount, ∀ purse, ((ledger.window index).pot purse).Within
  vacant : ∀ index < periodCount, (ledger.window index).id = 0 →
    ∀ purse, ((ledger.window index).pot purse).total = 0

variable {ledger after : PeriodLedger}

theorem held_eq (ledger : PeriodLedger) (purse : Purse) :
    ledger.held purse =
      ((ledger.window 0).pot purse).unclaimed.toNat +
        (((ledger.window 1).pot purse).unclaimed.toNat +
          (((ledger.window 2).pot purse).unclaimed.toNat +
            ((ledger.window 3).pot purse).unclaimed.toNat)) := rfl

theorem held_congr {purse : Purse} (same : ∀ index, after.window index = ledger.window index) :
    after.held purse = ledger.held purse := by
  simp only [held_eq, same]

theorem overlooked_congr {purse : Purse}
    (same : ∀ index, after.window index = ledger.window index) :
    after.overlooked purse = ledger.overlooked purse := by
  simp only [overlooked, same]

theorem held_new (now : Int64) (bump : UInt8) (purse : Purse) : (new now bump).held purse = 0 := by
  simp only [held_eq, window_new]
  cases purse <;> rfl

theorem solvent_new (now : Int64) (bump : UInt8) : (new now bump).Solvent where
  within := by
    intro index _ purse
    rw [window_new]
    split <;> cases purse <;> exact Nat.le_refl _
  vacant := by
    intro index _ _ purse
    rw [window_new]
    split <;> cases purse <;> rfl

namespace Solvent

theorem congr (solvent : ledger.Solvent)
    (same : ∀ index, after.window index = ledger.window index) : after.Solvent where
  within := by simpa only [same] using solvent.within
  vacant := by simpa only [same] using solvent.vacant

/-- A payment into or out of one period, claimed within its total, keeps a ledger solvent. Money
comes in for inhabited slots only. -/
theorem put (solvent : ledger.Solvent) {index : Nat} {period : FeePeriod}
    {inflow outflow : Purse → Nat} (pays : (ledger.window index).Pays period inflow outflow)
    (within : ∀ purse, (period.pot purse).Within)
    (inhabited : (ledger.window index).id = 0 → ∀ purse, inflow purse = 0) :
    (ledger.put index period).Solvent where
  within := by
    intro other inside purse
    rw [window_put]
    split
    · exact within purse
    · exact solvent.within other inside purse
  vacant := by
    intro other inside
    rw [window_put]
    split
    · intro vacant purse
      have slots := ledger.window_congr ‹_›
      have empty := solvent.vacant other inside (slots ▸ pays.id ▸ vacant) purse
      rw [← UInt64.toNat_inj, pays.total, inhabited (pays.id ▸ vacant), slots, empty]
      rfl
    · exact solvent.vacant other inside

theorem held_put (solvent : ledger.Solvent) {index : Nat} {period : FeePeriod}
    {inflow outflow : Purse → Nat} (inside : index < periodCount)
    (pays : (ledger.window index).Pays period inflow outflow)
    (within : ∀ purse, (period.pot purse).Within) (purse : Purse) :
    (ledger.put index period).held purse + outflow purse = ledger.held purse + inflow purse := by
  have claimed := pays.claimed purse
  have total := pays.total purse
  have before := solvent.within index inside purse
  have later := within purse
  unfold Pot.Within at before later
  simp only [held_eq, window_put, Pot.toNat_unclaimed]
  match index, inside with
  | 0, _ | 1, _ | 2, _ | 3, _ =>
    simp only [periodCount, Nat.reduceMod, Nat.reduceEqDiff, ↓reduceIte]
    omega

end Solvent

/-! ## Payments -/

/-- The amount comes in for one kind of money and none for the other. -/
def inflowOf (purse : Purse) (amount : UInt64) : Purse → Nat :=
  fun other => if other = purse then amount.toNat else 0

theorem recordFee_pays {amount : UInt64} (answered : ledger.recordFee amount = .ok after) :
    ∃ period, after = ledger.put 0 period ∧
      ledger.current.Pays period (inflowOf .fees amount) (fun _ => 0) := by
  obtain ⟨fees, added, rfl⟩ := recordFee_eq_ok answered
  obtain ⟨total, claimed⟩ := Pot.add_eq_ok added
  refine ⟨_, rfl, rfl, ?_, ?_⟩
  · rintro (_ | _)
    · exact total
    · rfl
  · rintro (_ | _)
    · exact congrArg UInt64.toNat claimed
    · rfl

theorem recordReward_pays {amount : UInt64} (answered : ledger.recordReward amount = .ok after) :
    ∃ period, after = ledger.put 0 period ∧
      ledger.current.Pays period (inflowOf .rewards amount) (fun _ => 0) := by
  obtain ⟨rewards, added, rfl⟩ := recordReward_eq_ok answered
  obtain ⟨total, claimed⟩ := Pot.add_eq_ok added
  refine ⟨_, rfl, rfl, ?_, ?_⟩
  · rintro (_ | _)
    · rfl
    · exact total
  · rintro (_ | _)
    · rfl
    · exact congrArg UInt64.toNat claimed

/-- Money that comes into the open period is held, and leaves a ledger solvent. -/
theorem Solvent.receive (solvent : ledger.Solvent) (numbered : ledger.current.id ≠ 0)
    {period : FeePeriod} {inflow : Purse → Nat}
    (pays : ledger.current.Pays period inflow fun _ => 0) :
    (ledger.put 0 period).Solvent ∧
      ∀ purse, (ledger.put 0 period).held purse = ledger.held purse + inflow purse := by
  have within : ∀ purse, (period.pot purse).Within := by
    intro purse
    have before : (ledger.current.pot purse).Within := solvent.within 0 (by decide) purse
    unfold Pot.Within at before ⊢
    rw [pays.claimed, pays.total]
    omega
  exact ⟨solvent.put pays within fun vacant => absurd vacant numbered,
    solvent.held_put (by decide) pays within⟩

/-- A claim that is marked stays within the period's pots. -/
theorem recordClaim_pays {index : Nat} {fees rewards : UInt64}
    (answered : ledger.recordClaim index fees rewards = .ok after) :
    index < periodCount ∧ ∃ period, after = ledger.put index period ∧
      (ledger.window index).Pays period (fun _ => 0)
        (fun purse => ((⟨fees, rewards⟩ : Entitlement).amount purse).toNat) ∧
      ∀ purse, (period.pot purse).Within := by
  obtain ⟨inside, period, changed, rfl⟩ := modifyPeriod_eq_ok.mp answered
  simp only [FeePeriod.recordClaim, bind_eq_ok, pure_eq_ok, checkedAdd_eq_ok, require_eq_ok,
    decide_eq_true_eq] at changed
  obtain ⟨feesClaimed, feesSum, rewardsClaimed, rewardsSum, _, ⟨feesFit, rewardsFit⟩, rfl⟩ :=
    changed
  refine ⟨inside, _, rfl, ⟨rfl, ?_, ?_⟩, ?_⟩
  · rintro (_ | _) <;> rfl
  · rintro (_ | _)
    · exact feesSum
    · exact rewardsSum
  · rintro (_ | _)
    · exact feesFit
    · exact rewardsFit

/-! ## Accruals and closes -/

theorem window_accrue {now : Int64} {supply : UInt64}
    (answered : ledger.accrue now supply = .ok after) (index : Nat) :
    after.window index = ledger.window index := by
  simp only [accrue, ite_eq_ok, bind_eq_ok, pure_eq_ok] at answered
  rcases answered with ⟨_, rfl⟩ | ⟨_, _, _, ⟨_, rfl⟩ | ⟨_, _, _, _, _, _, _, rfl⟩⟩ <;> rfl

/-- The heir of a dropped period has what is left of both, unless the dropped slot counts as empty.
-/
theorem succeed_pays {heir dropped after : FeePeriod}
    (succeeded : heir.succeed dropped = .ok after) :
    heir.Pays after
      (fun purse => if dropped.id = 0 then 0 else (dropped.pot purse).unclaimed.toNat)
      (fun _ => 0) := by
  simp only [FeePeriod.succeed, FeePeriod.isEmpty_iff, FeePeriod.inherit, ite_eq_ok, bind_eq_ok,
    pure_eq_ok] at succeeded
  rcases succeeded with ⟨empty, rfl⟩ | ⟨inhabited, fees, feesAdded, rewards, rewardsAdded, rfl⟩
  · exact ⟨rfl, fun _ => by rw [if_pos empty, Nat.add_zero], fun _ => rfl⟩
  · obtain ⟨feesTotal, feesClaimed⟩ := Pot.add_eq_ok feesAdded
    obtain ⟨rewardsTotal, rewardsClaimed⟩ := Pot.add_eq_ok rewardsAdded
    simp only [inhabited, ↓reduceIte]
    refine ⟨rfl, ?_, ?_⟩
    · rintro (_ | _)
      · exact feesTotal
      · exact rewardsTotal
    · rintro (_ | _)
      · exact congrArg UInt64.toNat feesClaimed
      · exact congrArg UInt64.toNat rewardsClaimed

/-- In a solvent ledger an empty slot has nothing to overlook. -/
theorem Solvent.overlooked_eq (solvent : ledger.Solvent) (purse : Purse) :
    ledger.overlooked purse = 0 := by
  unfold overlooked
  split
  · rw [Pot.toNat_unclaimed, solvent.vacant 3 (by decide) ‹_› purse, UInt64.toNat_zero,
      Nat.zero_sub]
  · rfl

/-- An empty second oldest slot is followed by an empty oldest one if the periods are numbered
downwards. -/
theorem vacant_of_ordered (ordered : ledger.timeline.Ordered) (vacant : (ledger.window 2).id = 0) :
    (ledger.window 3).id = 0 := by
  have second := ordered.ids 2 (by decide)
  have third := ordered.ids 3 (by decide)
  have none : (ledger.timeline.spans 2).id.toNat = 0 := congrArg UInt64.toNat vacant
  rw [← UInt64.toNat_inj]
  show (ledger.timeline.spans 3).id.toNat = 0
  omega

theorem current_ne_zero_of_ordered (ordered : ledger.timeline.Ordered) :
    ledger.current.id ≠ 0 := by
  intro vacant
  exact absurd (congrArg UInt64.toNat vacant) (Nat.pos_iff_ne_zero.mp ordered.open_pos)

namespace Rotates

variable {now duration : Int64}

theorem pot_stopped (rotates : Rotates ledger after now duration) (purse : Purse) :
    (after.window 1).pot purse = (ledger.window 0).pot purse := by
  rw [rotates.closed]
  cases purse <;> rfl

theorem within (rotates : Rotates ledger after now duration) (within : ledger.Within) :
    after.Within := by
  have pays := succeed_pays rotates.oldest
  obtain ⟨next, counted, opened⟩ := rotates.opened
  intro index inside purse
  match index, inside with
  | 0, _ =>
    rw [opened]
    cases purse <;> exact Nat.le_refl _
  | 1, _ =>
    rw [rotates.pot_stopped]
    exact within 0 (by decide) purse
  | 2, _ =>
    rw [rotates.passed]
    exact within 1 (by decide) purse
  | 3, _ =>
    have before := within 2 (by decide) purse
    unfold Pot.Within at before ⊢
    rw [pays.claimed, pays.total]
    omega

theorem solvent (rotates : Rotates ledger after now duration) (numbered : ledger.current.id ≠ 0)
    (packed : (ledger.window 2).id = 0 → (ledger.window 3).id = 0) (solvent : ledger.Solvent) :
    after.Solvent := by
  have pays := succeed_pays rotates.oldest
  obtain ⟨next, counted, opened⟩ := rotates.opened
  refine ⟨rotates.within solvent.within, ?_⟩
  intro index inside vacant purse
  match index, inside with
  | 0, _ =>
    rw [opened]
    cases purse <;> rfl
  | 1, _ =>
    rw [rotates.closed] at vacant
    exact absurd vacant numbered
  | 2, _ =>
    rw [rotates.passed] at vacant ⊢
    exact solvent.vacant 1 (by decide) vacant purse
  | 3, _ =>
    -- An empty slot lies below an empty slot: there is nothing to inherit.
    have heir : (ledger.window 2).id = 0 := pays.id ▸ vacant
    rw [← UInt64.toNat_inj, pays.total, if_pos (packed heir),
      solvent.vacant 2 (by decide) heir purse, UInt64.toNat_zero]

/-- A close loses what the oldest slot holds if it counts as empty, and nothing else. -/
theorem held_add_overlooked (rotates : Rotates ledger after now duration) (within : ledger.Within)
    (purse : Purse) : after.held purse + ledger.overlooked purse = ledger.held purse := by
  have pays := succeed_pays rotates.oldest
  have total := pays.total purse
  have claimed := pays.claimed purse
  have heir := within 2 (by decide) purse
  obtain ⟨next, _, opened⟩ := rotates.opened
  have fresh : ((after.window 0).pot purse).unclaimed.toNat = 0 := by
    rw [opened]
    cases purse <;> rfl
  unfold Pot.Within at heir
  rw [PeriodLedger.held_eq, PeriodLedger.held_eq, fresh, rotates.pot_stopped, rotates.passed]
  unfold overlooked
  simp only [Pot.toNat_unclaimed] at total ⊢
  split at total
  all_goals
    simp only [*, ↓reduceIte]
    omega

/-- A close of a solvent ledger loses nothing. -/
theorem held_eq (rotates : Rotates ledger after now duration) (solvent : ledger.Solvent)
    (purse : Purse) : after.held purse = ledger.held purse := by
  rw [← rotates.held_add_overlooked solvent.within, solvent.overlooked_eq, Nat.add_zero]

end Rotates

end PeriodLedger

end FeeTreasury
