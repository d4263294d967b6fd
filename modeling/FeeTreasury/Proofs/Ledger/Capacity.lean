import FeeTreasury.Proofs.Crediting
import FeeTreasury.Proofs.Ledger.Migration
import FeeTreasury.Proofs.Ledger.Pace

/-!
# What a ledger has room for

All that was put into the retained pots is what the ledger collected. As long as that is a word, the
pots of a dropped period can be inherited, so that a close finds room
(`FeeTreasury.PeriodLedger.answers_rotate`); what a staker is owed can be added up
(`FeeTreasury.PeriodLedger.answers_available`); and a claim can mark what it has assessed
(`FeeTreasury.Claiming.answers_claim`).
-/

namespace FeeTreasury

open Outcome

/-- What is left of a pot is no more than what was put in. -/
theorem Pot.unclaimed_le (pot : Pot) : pot.unclaimed.toNat ≤ pot.total.toNat := by
  rw [toNat_unclaimed]
  exact Nat.sub_le ..

theorem Pot.answers_add {pot : Pot} {amount : UInt64}
    (fits : pot.total.toNat + amount.toNat < UInt64.size) : Answers (pot.add amount) :=
  (answers_fit64 fits).bind fun _ _ => answers_pure _

theorem FeePeriod.answers_inherit {heir dropped : FeePeriod}
    (fits : ∀ purse, (heir.pot purse).total.toNat + (dropped.pot purse).unclaimed.toNat <
      UInt64.size) : Answers (heir.inherit dropped) :=
  (Pot.answers_add (fits .fees)).bind fun _ _ =>
    (Pot.answers_add (fits .rewards)).bind fun _ _ => answers_pure _

namespace PeriodLedger

variable {ledger after : PeriodLedger} {now duration : Int64} {supply amount : UInt64}

/-! ## What the pots collected -/

/-- All of one kind of money that was put into the retained pots. -/
def collected (ledger : PeriodLedger) (purse : Purse) : Nat :=
  (ledger.recent.map fun period => (period.pot purse).total.toNat).sum

theorem collected_eq (ledger : PeriodLedger) (purse : Purse) :
    ledger.collected purse =
      ((ledger.window 0).pot purse).total.toNat +
        (((ledger.window 1).pot purse).total.toNat +
          (((ledger.window 2).pot purse).total.toNat +
            ((ledger.window 3).pot purse).total.toNat)) := rfl

theorem collected_new (now : Int64) (bump : UInt8) (purse : Purse) :
    (new now bump).collected purse = 0 := by
  simp only [collected_eq, window_new]
  cases purse <;> rfl

theorem collected_congr {purse : Purse}
    (same : ∀ index, after.window index = ledger.window index) :
    after.collected purse = ledger.collected purse := by
  simp only [collected_eq, same]

/-- A close collects nothing. What is left of the dropped period is collected once more by its heir,
in its place. -/
theorem Rotates.collected_le (rotates : Rotates ledger after now duration) (purse : Purse) :
    after.collected purse ≤ ledger.collected purse := by
  have inherited := (succeed_pays rotates.oldest).total purse
  have left := Pot.unclaimed_le ((ledger.window 3).pot purse)
  have fresh : ((after.window 0).pot purse).total.toNat = 0 := by
    obtain ⟨_, _, opened⟩ := rotates.opened
    rw [opened]
    cases purse <;> rfl
  rw [collected_eq, collected_eq, fresh, rotates.pot_stopped, rotates.passed]
  split at inherited <;> omega

/-- A payment into a period is collected. -/
theorem collected_put {index : Nat} {period : FeePeriod} {inflow outflow : Purse → Nat}
    (inside : index < periodCount) (pays : (ledger.window index).Pays period inflow outflow)
    (purse : Purse) :
    (ledger.put index period).collected purse = ledger.collected purse + inflow purse := by
  have total := pays.total purse
  simp only [collected_eq, window_put]
  match index, inside with
  | 0, _ | 1, _ | 2, _ | 3, _ =>
    simp only [periodCount, Nat.reduceMod, Nat.reduceEqDiff, ↓reduceIte]
    omega

theorem collected_mark {index : Nat} {amount : Entitlement}
    (marked : ledger.mark index amount = .ok after) (purse : Purse) :
    after.collected purse = ledger.collected purse := by
  simp only [mark, ite_eq_ok, pure_eq_ok] at marked
  obtain ⟨_, rfl⟩ | ⟨_, recorded⟩ := marked
  · rfl
  · obtain ⟨inside, _, rfl, pays, _⟩ := recordClaim_pays recorded
    exact collected_put inside pays purse

theorem collected_markAll {first second third : Entitlement}
    (marked : ledger.markAll first second third = .ok after) (purse : Purse) :
    after.collected purse = ledger.collected purse := by
  simp only [markAll, bind_eq_ok] at marked
  obtain ⟨oldest, thirdMarked, middle, secondMarked, firstMarked⟩ := marked
  rw [collected_mark firstMarked, collected_mark secondMarked, collected_mark thirdMarked]

theorem answers_recordFee (fits : ledger.collected .fees + amount.toNat < UInt64.size) :
    Answers (ledger.recordFee amount) := by
  refine (Pot.answers_add ?_).bind fun _ _ => answers_pure _
  show (ledger.window 0).fees.total.toNat + amount.toNat < UInt64.size
  rw [collected_eq] at fits
  exact Nat.lt_of_le_of_lt (Nat.add_le_add_right (Nat.le_add_right ..) _) fits

theorem answers_recordReward (fits : ledger.collected .rewards + amount.toNat < UInt64.size) :
    Answers (ledger.recordReward amount) := by
  refine (Pot.answers_add ?_).bind fun _ _ => answers_pure _
  show (ledger.window 0).rewards.total.toNat + amount.toNat < UInt64.size
  rw [collected_eq] at fits
  exact Nat.lt_of_le_of_lt (Nat.add_le_add_right (Nat.le_add_right ..) _) fits

theorem answers_modifyPeriod {index : Nat} {change : FeePeriod → Outcome FeePeriod}
    (inside : index < periodCount) (answers : Answers (change (ledger.window index))) :
    Answers (ledger.modifyPeriod index change) := by
  obtain ⟨period, changed⟩ := answers
  exact ⟨_, modifyPeriod_eq_ok.mpr ⟨inside, period, changed, rfl⟩⟩

/-- A close finds room: for the time up to now, for the next id, and for what is left of the period
that it drops. -/
theorem answers_rotate (paced : ledger.timeline.Paced) (timely : Timely now) (duration : Int64)
    (supply : UInt64) (counts : ledger.current.id.toNat + 1 < UInt64.size)
    (fits : ∀ purse, ledger.collected purse < UInt64.size) :
    Answers (ledger.rotate now duration supply) := by
  have heirs : Answers ((ledger.window 2).succeed (ledger.window 3)) := by
    unfold FeePeriod.succeed
    split
    · exact answers_pure _
    refine FeePeriod.answers_inherit fun purse => ?_
    have bound := fits purse
    have left := Pot.unclaimed_le ((ledger.window 3).pot purse)
    rw [collected_eq] at bound
    omega
  rw [rotate_eq]
  refine (answers_accrue paced timely supply).bind fun accrued brought => ?_
  rw [current, window_accrue brought, window_accrue brought, window_accrue brought]
  exact (answers_fit64 counts).bind fun _ _ => heirs.bind fun _ _ => answers_pure _

/-- A close is turned down for its duration or its time only. -/
theorem sound_closeCurrent {duration : Int64} {supply : UInt64} (paced : ledger.timeline.Paced)
    (timely : Timely now) (rotates : ∀ elapsed, Answers (ledger.rotate now elapsed supply)) :
    Sound (ledger.closeCurrent now duration supply) := by
  refine (sound_require (by decide)).bind fun _ _ => ?_
  refine (sound_require (by decide)).bind fun _ _ => ?_
  exact ((timely.answers_plainElapsed paced.start).bind fun elapsed _ => rotates elapsed).sound

/-- A relayed close is turned down for its duration or its id only. -/
theorem sound_closeFromRelayer {duration configured : Int64} {id supply : UInt64}
    (rotates : ∀ elapsed, Answers (ledger.rotate now elapsed supply)) :
    Sound (ledger.closeFromRelayer now id duration configured supply) :=
  (sound_require (by decide)).bind fun _ _ =>
    (sound_require (by decide)).bind fun _ _ => (rotates _).sound

end PeriodLedger

/-! ## What is owed -/

namespace Entitlement

theorem answers_add {a b : Entitlement}
    (fits : ∀ purse, (a.amount purse).toNat + (b.amount purse).toNat < UInt64.size) :
    Answers (a.add b) :=
  (answers_fit64 (fits .fees)).bind fun _ _ =>
    (answers_fit64 (fits .rewards)).bind fun _ _ => answers_pure _

/-- Entitlements add up if their amounts together are words. -/
theorem answers_sum {es : List Entitlement}
    (fits : ∀ purse, (es.map fun e => (e.amount purse).toNat).sum < UInt64.size) :
    Answers (sum es) := by
  have added : ∀ start : Entitlement, (∀ purse, (start.amount purse).toNat +
      (es.map fun e => (e.amount purse).toNat).sum < UInt64.size) →
        Answers (es.foldlM add start) := by
    clear fits
    induction es with
    | nil => exact fun start _ => answers_pure start
    | cons e rest ih =>
      intro start fits
      simp only [List.map_cons, List.sum_cons] at fits
      rw [List.foldlM_cons]
      refine (answers_add fun purse => ?_).bind fun first summed => ih first fun purse => ?_
      · have whole := fits purse
        omega
      · rw [add_eq_ok summed purse, Nat.add_assoc]
        exact fits purse
  refine added zero fun purse => ?_
  rw [toNat_amount_zero, Nat.zero_add]
  exact fits purse

end Entitlement

namespace FeePeriod

variable {period : FeePeriod} {pot : Pot} {ratio amount : UInt64} {owes : Entitlement}

theorem answers_portion (part : ratio ≤ unit) : Answers (portion pot ratio) :=
  Answers.bind (mulDiv_of_le (by decide) part) fun _ _ => answers_pure _

theorem answers_owed (part : ratio ≤ unit) : Answers (period.owed ratio) :=
  (answers_portion part).bind fun _ _ => (answers_portion part).bind fun _ _ => answers_pure _

/-- A portion is no more than what is left of the pot. -/
theorem portion_le_unclaimed (answered : portion pot ratio = .ok amount) :
    amount.toNat ≤ pot.unclaimed.toNat := by
  simp only [portion, bind_eq_ok, pure_eq_ok] at answered
  obtain ⟨part, _, rfl⟩ := answered
  rw [← UInt64.le_iff_toNat_le]
  exact Std.min_le_right

theorem owed_le_unclaimed (answered : period.owed ratio = .ok owes) (purse : Purse) :
    (owes.amount purse).toNat ≤ (period.pot purse).unclaimed.toNat := by
  simp only [owed, bind_eq_ok, pure_eq_ok] at answered
  obtain ⟨fees, feesPortion, rewards, rewardsPortion, rfl⟩ := answered
  cases purse with
  | fees => exact portion_le_unclaimed feesPortion
  | rewards => exact portion_le_unclaimed rewardsPortion

theorem toNat_amount_unclaimed (period : FeePeriod) (purse : Purse) :
    (period.unclaimed.amount purse).toNat = (period.pot purse).unclaimed.toNat := by
  cases purse <;> rfl

end FeePeriod

namespace PeriodLedger

variable {ledger after : PeriodLedger} {log : OwnershipLog} {lastClaimed : UInt64} {index : Nat}
  {amount first second third : Entitlement}

/-- A ratio is never above one. -/
theorem debtRatio_le {ratio : UInt64} (answered : ledger.debtRatio log index = .ok ratio) :
    ratio ≤ unit := by
  simp only [debtRatio, ite_eq_ok, bind_eq_ok, pure_eq_ok, fit64_eq_ok] at answered
  rw [UInt64.le_iff_toNat_le]
  obtain ⟨_, rfl⟩ | ⟨_, ⟨_, rfl⟩ | ⟨_, _, _, _, _, _, _, exactly⟩⟩ := answered
  · exact Nat.zero_le _
  · exact Nat.zero_le _
  · rw [exactly]
    exact Nat.min_le_right ..

theorem answers_owedFor (rated : Answers (ledger.debtRatio log index)) (lastClaimed : UInt64) :
    Answers (ledger.owedFor log lastClaimed index) := by
  unfold owedFor
  dsimp only
  split
  · exact answers_pure _
  refine rated.bind fun ratio answered => ?_
  split
  · exact answers_pure _
  exact FeePeriod.answers_owed (debtRatio_le answered)

theorem owedFor_le_unclaimed (answered : ledger.owedFor log lastClaimed index = .ok amount)
    (purse : Purse) :
    (amount.amount purse).toNat ≤ ((ledger.window index).pot purse).unclaimed.toNat := by
  simp only [owedFor, ite_eq_ok, bind_eq_ok, pure_eq_ok] at answered
  obtain ⟨_, rfl⟩ | ⟨_, ratio, _, ⟨_, rfl⟩ | ⟨_, owes⟩⟩ := answered
  · exact Entitlement.toNat_amount_zero purse ▸ Nat.zero_le _
  · exact Entitlement.toNat_amount_zero purse ▸ Nat.zero_le _
  · exact FeePeriod.owed_le_unclaimed owes purse

theorem answers_owedByPeriod (rated : ∀ index, Answers (ledger.debtRatio log index))
    (lastClaimed : UInt64) : Answers (ledger.owedByPeriod log lastClaimed) :=
  (answers_owedFor (rated 1) lastClaimed).bind fun _ _ =>
    (answers_owedFor (rated 2) lastClaimed).bind fun _ _ =>
      (answers_owedFor (rated 3) lastClaimed).bind fun _ _ => answers_pure _

/-- What is left of the closed periods was collected. -/
theorem unclaimed_closed_le (ledger : PeriodLedger) (purse : Purse) :
    ((ledger.window 1).pot purse).unclaimed.toNat +
        (((ledger.window 2).pot purse).unclaimed.toNat +
          ((ledger.window 3).pot purse).unclaimed.toNat) ≤ ledger.collected purse := by
  have youngest := Pot.unclaimed_le ((ledger.window 1).pot purse)
  have middle := Pot.unclaimed_le ((ledger.window 2).pot purse)
  have oldest := Pot.unclaimed_le ((ledger.window 3).pot purse)
  rw [collected_eq]
  omega

/-- Parts of what is left of the closed periods add up. -/
theorem answers_sum (fits : ∀ purse, ledger.collected purse < UInt64.size)
    (firstLe : ∀ purse, (first.amount purse).toNat ≤ ((ledger.window 1).pot purse).unclaimed.toNat)
    (secondLe : ∀ purse,
      (second.amount purse).toNat ≤ ((ledger.window 2).pot purse).unclaimed.toNat)
    (thirdLe : ∀ purse,
      (third.amount purse).toNat ≤ ((ledger.window 3).pot purse).unclaimed.toNat) :
    Answers (Entitlement.sum [first, second, third]) := by
  refine Entitlement.answers_sum fun purse => ?_
  have left := ledger.unclaimed_closed_le purse
  have room := fits purse
  have firstPart := firstLe purse
  have secondPart := secondLe purse
  have thirdPart := thirdLe purse
  simp only [List.map_cons, List.map_nil, List.sum_cons, List.sum_nil]
  omega

theorem answers_available (rated : ∀ index, Answers (ledger.debtRatio log index))
    (fits : ∀ purse, ledger.collected purse < UInt64.size) (lastClaimed : UInt64) :
    Answers (ledger.available log lastClaimed) := by
  refine (answers_owedByPeriod rated lastClaimed).bind fun owed answered => ?_
  obtain ⟨first, second, third, firstOwed, secondOwed, thirdOwed, rfl⟩ :=
    owedByPeriod_eq_ok.mp answered
  exact answers_sum fits (owedFor_le_unclaimed firstOwed) (owedFor_le_unclaimed secondOwed)
    (owedFor_le_unclaimed thirdOwed)

theorem answers_totalAvailable (fits : ∀ purse, ledger.collected purse < UInt64.size) :
    Answers ledger.totalAvailable :=
  answers_sum fits (fun purse => Nat.le_of_eq (FeePeriod.toNat_amount_unclaimed _ purse))
    (fun purse => Nat.le_of_eq (FeePeriod.toNat_amount_unclaimed _ purse))
    fun purse => Nat.le_of_eq (FeePeriod.toNat_amount_unclaimed _ purse)

/-! ## What is marked as claimed -/

theorem answers_recordClaim {fees rewards : UInt64} (inside : index < periodCount)
    (within : ledger.Within)
    (left : ∀ purse, ((⟨fees, rewards⟩ : Entitlement).amount purse).toNat ≤
      ((ledger.window index).pot purse).unclaimed.toNat) :
    Answers (ledger.recordClaim index fees rewards) := by
  have claims : ∀ purse, ((ledger.window index).pot purse).claimed.toNat +
      ((⟨fees, rewards⟩ : Entitlement).amount purse).toNat ≤
        ((ledger.window index).pot purse).total.toNat := fun purse => by
    have part := left purse
    have kept := within index inside purse
    unfold Pot.Within at kept
    rw [Pot.toNat_unclaimed] at part
    omega
  have word : ∀ purse, ((ledger.window index).pot purse).claimed.toNat +
      ((⟨fees, rewards⟩ : Entitlement).amount purse).toNat < UInt64.size := fun purse =>
    Nat.lt_of_le_of_lt (claims purse) (UInt64.toNat_lt _)
  refine answers_modifyPeriod inside ?_
  refine (answers_fit64 (word .fees)).bind fun feesClaimed feesSum => ?_
  refine (answers_fit64 (word .rewards)).bind fun rewardsClaimed rewardsSum => ?_
  refine (answers_require (decide_eq_true ⟨?_, ?_⟩)).bind fun _ _ => answers_pure _
  · rw [UInt64.le_iff_toNat_le, fit64_eq_ok.mp feesSum]
    exact claims .fees
  · rw [UInt64.le_iff_toNat_le, fit64_eq_ok.mp rewardsSum]
    exact claims .rewards

theorem answers_mark (inside : index < periodCount) (within : ledger.Within)
    (left : ∀ purse, (amount.amount purse).toNat ≤
      ((ledger.window index).pot purse).unclaimed.toNat) : Answers (ledger.mark index amount) := by
  unfold mark
  split
  · exact answers_pure _
  · exact answers_recordClaim inside within left

/-- A mark changes no other period. -/
theorem window_mark {other : Nat} (marked : ledger.mark index amount = .ok after)
    (inside : other < periodCount) (different : index ≠ other) :
    after.window other = ledger.window other := by
  simp only [mark, ite_eq_ok, pure_eq_ok] at marked
  obtain ⟨_, rfl⟩ | ⟨_, recorded⟩ := marked
  · rfl
  · obtain ⟨within, _, rfl, _, _⟩ := recordClaim_pays recorded
    rw [window_put, Nat.mod_eq_of_lt within, Nat.mod_eq_of_lt inside, if_neg different]

/-- What is left of the closed periods can be marked as claimed. -/
theorem answers_markAll (within : ledger.Within)
    (firstLe : ∀ purse, (first.amount purse).toNat ≤ ((ledger.window 1).pot purse).unclaimed.toNat)
    (secondLe : ∀ purse,
      (second.amount purse).toNat ≤ ((ledger.window 2).pot purse).unclaimed.toNat)
    (thirdLe : ∀ purse,
      (third.amount purse).toNat ≤ ((ledger.window 3).pot purse).unclaimed.toNat) :
    Answers (ledger.markAll first second third) := by
  refine (answers_mark (by decide) within thirdLe).bind fun oldest thirdMarked => ?_
  have oldestWithin := (Transacts.mark thirdMarked).within within
  refine (answers_mark (by decide) oldestWithin ?_).bind fun middle secondMarked => ?_
  · rw [window_mark thirdMarked (by decide) (by decide)]
    exact secondLe
  refine answers_mark (by decide) ((Transacts.mark secondMarked).within oldestWithin) ?_
  rw [window_mark secondMarked (by decide) (by decide),
    window_mark thirdMarked (by decide) (by decide)]
  exact firstLe

end PeriodLedger

namespace Claiming

variable {books : ClaimBooks} {terms : ClaimTerms}

/-- A claim that has assessed something, and can mark it, comes to its end. -/
theorem claim_of_markAll {first second third total : Entitlement} {ledger : PeriodLedger}
    (assessed : books.assess terms = .ok #v[first, second, third])
    (summed : Entitlement.sum [first, second, third] = .ok total)
    (something : total.isZero = false)
    (marked : books.ledger.markAll first second third = .ok ledger) :
    claim terms books =
      .ok total ⟨ledger, { books.staker with lastClaimed := (ledger.window 1).id }⟩ := by
  simp only [PeriodLedger.markAll, bind_eq_ok] at marked
  obtain ⟨oldest, thirdMarked, middle, secondMarked, firstMarked⟩ := marked
  simp only [claim, Stateful.bind_eq_ok, Stateful.get_eq_ok, Stateful.liftExcept_eq_ok]
  refine ⟨_, _, ⟨rfl, rfl⟩, _, _, ⟨assessed, rfl⟩, total, _, ⟨summed, rfl⟩, ?_⟩
  simp only [something, Bool.false_eq_true, ↓reduceIte, Stateful.bind_eq_ok, mark_eq_ok,
    Stateful.modify_eq_ok, Stateful.pure_eq_ok, true_and]
  exact ⟨(), _, ⟨oldest, thirdMarked, rfl⟩, (), _, ⟨middle, secondMarked, rfl⟩, (), _,
    ⟨ledger, firstMarked, rfl⟩, (), _, rfl, rfl⟩

/-- A claim that has assessed what is owed comes to its end, unless nothing is owed. -/
theorem answers_claim {ledger : PeriodLedger} {staker : Staker} {owed : Vector Entitlement 3}
    (within : ledger.Within) (fits : ∀ purse, ledger.collected purse < UInt64.size)
    (assessed : (⟨ledger, staker⟩ : ClaimBooks).assess terms = .ok owed) :
    ∃ total, Entitlement.sum owed.toList = .ok total ∧
      (total.isZero = false → ∃ after, claim terms ⟨ledger, staker⟩ = .ok total after) := by
  obtain ⟨first, second, third, firstOwed, secondOwed, thirdOwed, rfl⟩ :=
    PeriodLedger.owedByPeriod_eq_ok.mp (ClaimBooks.assess_eq_ok.mp assessed).2
  have firstLe := PeriodLedger.owedFor_le_unclaimed firstOwed
  have secondLe := PeriodLedger.owedFor_le_unclaimed secondOwed
  have thirdLe := PeriodLedger.owedFor_le_unclaimed thirdOwed
  obtain ⟨total, summed⟩ := PeriodLedger.answers_sum fits firstLe secondLe thirdLe
  obtain ⟨paid, marked⟩ := PeriodLedger.answers_markAll within firstLe secondLe thirdLe
  exact ⟨total, summed, fun something => ⟨_, claim_of_markAll assessed summed something marked⟩⟩

end Claiming

end FeeTreasury
