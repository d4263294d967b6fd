import FeeTreasury.Proofs.Claiming

/-!
# What a claim credits

A claim adds to what was claimed from each closed period just what the staker is owed of it
(`FeeTreasury.Claiming.claim_owed`). It is owed something only of periods after its last claim, and
no more than its part of the covered time (`FeeTreasury.PeriodLedger.owedFor_eq_ok`). Once every
closed period lies before its last claim, there is nothing to claim
(`FeeTreasury.Claiming.claim_of_settled`).
-/

namespace FeeTreasury

open Outcome

theorem Entitlement.toNat_amount_zero (purse : Purse) : (zero.amount purse).toNat = 0 :=
  amount_eq_zero rfl purse

/-- A portion is no more than the part of the pot that it is taken for. -/
theorem FeePeriod.portion_le {pot : Pot} {ratio amount : UInt64}
    (answered : portion pot ratio = .ok amount) :
    amount.toNat ≤ pot.total.toNat * ratio.toNat / unit.toNat := by
  simp only [portion, bind_eq_ok, pure_eq_ok, decimalMul_eq_ok] at answered
  obtain ⟨part, exactly, rfl⟩ := answered
  rw [← exactly, ← UInt64.le_iff_toNat_le]
  exact Std.min_le_left

theorem FeePeriod.owed_le {period : FeePeriod} {ratio : UInt64} {amount : Entitlement}
    (answered : period.owed ratio = .ok amount) (purse : Purse) :
    (amount.amount purse).toNat ≤
      (period.pot purse).total.toNat * ratio.toNat / unit.toNat := by
  simp only [owed, bind_eq_ok, pure_eq_ok] at answered
  obtain ⟨fees, feesPortion, rewards, rewardsPortion, rfl⟩ := answered
  cases purse with
  | fees => exact portion_le feesPortion
  | rewards => exact portion_le rewardsPortion

namespace PeriodLedger

variable {ledger after : PeriodLedger} {log : OwnershipLog} {lastClaimed : UInt64}

/-- Something is owed only of a period after the last claim, and no more than the staker's part of
the covered time is of what the period distributes. -/
theorem owedFor_eq_ok {index : Nat} {amount : Entitlement}
    (answered : ledger.owedFor log lastClaimed index = .ok amount) :
    amount = Entitlement.zero ∨
      lastClaimed < (ledger.window index).id ∧
        ∃ ratio, ledger.debtRatio log index = .ok ratio ∧
          ∀ purse, (amount.amount purse).toNat ≤
            ((ledger.window index).pot purse).total.toNat * ratio.toNat / unit.toNat := by
  simp only [owedFor, ite_eq_ok, bind_eq_ok, pure_eq_ok, not_or, UInt64.not_le] at answered
  obtain ⟨_, rfl⟩ | ⟨⟨_, later⟩, ratio, rated, ⟨_, rfl⟩ | ⟨_, owes⟩⟩ := answered
  · exact .inl rfl
  · exact .inl rfl
  · exact .inr ⟨later, ratio, rated, FeePeriod.owed_le owes⟩

/-- Nothing is owed of a period up to the last claim. -/
theorem owedFor_of_le {index : Nat} (claimed : (ledger.window index).id ≤ lastClaimed) :
    ledger.owedFor log lastClaimed index = .ok Entitlement.zero :=
  if_pos (.inr claimed)

/-- What is owed of a period depends on the last claim in this way only. -/
theorem owedFor_eq_ite (ledger : PeriodLedger) (log : OwnershipLog) (lastClaimed : UInt64)
    (index : Nat) :
    ledger.owedFor log lastClaimed index =
      if (ledger.window index).id ≤ lastClaimed then .ok Entitlement.zero
      else ledger.owedFor log 0 index := by
  by_cases claimed : (ledger.window index).id ≤ lastClaimed
  · rw [if_pos claimed, owedFor_of_le claimed]
  · have numbered : ¬ (ledger.window index).id ≤ 0 := by
      intro vacant
      exact claimed (UInt64.le_trans vacant UInt64.zero_le)
    simp only [owedFor, claimed, numbered, ↓reduceIte, or_false]

theorem owedByPeriod_eq_ok {owed : Vector Entitlement 3} :
    ledger.owedByPeriod log lastClaimed = .ok owed ↔
      ∃ first second third, ledger.owedFor log lastClaimed 1 = .ok first ∧
        ledger.owedFor log lastClaimed 2 = .ok second ∧
        ledger.owedFor log lastClaimed 3 = .ok third ∧ #v[first, second, third] = owed := by
  simp only [owedByPeriod, bind_eq_ok, pure_eq_ok]
  constructor
  · rintro ⟨first, firstOwed, second, secondOwed, third, thirdOwed, rfl⟩
    exact ⟨first, second, third, firstOwed, secondOwed, thirdOwed, rfl⟩
  · rintro ⟨first, second, third, firstOwed, secondOwed, thirdOwed, rfl⟩
    exact ⟨first, firstOwed, second, secondOwed, third, thirdOwed, rfl⟩

/-- What was claimed of one kind of money from the period at an index. -/
def claimedAt (ledger : PeriodLedger) (index : Nat) (purse : Purse) : Nat :=
  ((ledger.window index).pot purse).claimed.toNat

/-- A mark adds to what was claimed from the marked period, and from no other. -/
theorem mark_claimedAt {index other : Nat} {amount : Entitlement}
    (marked : ledger.mark index amount = .ok after) (inside : index < periodCount)
    (within : other < periodCount) (purse : Purse) :
    after.claimedAt other purse = ledger.claimedAt other purse +
      if index = other then (amount.amount purse).toNat else 0 := by
  simp only [mark, ite_eq_ok, pure_eq_ok] at marked
  obtain ⟨nothing, rfl⟩ | ⟨_, recorded⟩ := marked
  · rw [Entitlement.amount_eq_zero nothing, ite_self, Nat.add_zero]
  · obtain ⟨_, period, rfl, pays, _⟩ := recordClaim_pays recorded
    unfold claimedAt
    rw [window_put, Nat.mod_eq_of_lt inside, Nat.mod_eq_of_lt within]
    split
    · subst other
      exact pays.claimed purse
    · rfl

/-- The marks of a claim add to each closed period its own amount. -/
theorem markAll_claimedAt {first second third : Entitlement}
    (marked : ledger.markAll first second third = .ok after) {index : Nat}
    (inside : index < periodCount) (purse : Purse) :
    after.claimedAt index purse = ledger.claimedAt index purse +
      (([Entitlement.zero, first, second, third].getD index Entitlement.zero).amount purse).toNat
        := by
  simp only [markAll, bind_eq_ok] at marked
  obtain ⟨oldest, thirdMarked, middle, secondMarked, firstMarked⟩ := marked
  rw [mark_claimedAt firstMarked (by decide) inside, mark_claimedAt secondMarked (by decide) inside,
    mark_claimedAt thirdMarked (by decide) inside]
  rw [periodCount] at inside
  obtain rfl | rfl | rfl | rfl : index = 0 ∨ index = 1 ∨ index = 2 ∨ index = 3 := by omega
  · exact congrArg _ (Entitlement.toNat_amount_zero purse).symm
  all_goals rfl

end PeriodLedger

namespace ClaimBooks

/-- The sections are active, the rates fresh, and the position good enough for a claim. -/
def Admits (books : ClaimBooks) (terms : ClaimTerms) : Prop :=
  ∃ market position, terms.board.requireActive claimSections = .ok () ∧
    terms.oracle.market = .ok market ∧
    books.staker.position terms.supply market = .ok position ∧
    position.claimable terms.settings = .ok true

theorem assess_eq_ok {books : ClaimBooks} {terms : ClaimTerms} {owed : Vector Entitlement 3} :
    books.assess terms = .ok owed ↔ books.Admits terms ∧
      books.ledger.owedByPeriod books.staker.ownership books.staker.lastClaimed = .ok owed := by
  simp only [assess, Admits, bind_eq_ok, require_eq_ok, exists_const]
  constructor
  · rintro ⟨_, active, market, fresh, position, seen, claimable, allowed, rfl, owes⟩
    exact ⟨⟨market, position, active, fresh, seen, allowed⟩, owes⟩
  · rintro ⟨⟨market, position, active, fresh, seen, allowed⟩, owes⟩
    exact ⟨(), active, market, fresh, position, seen, true, allowed, rfl, owes⟩

/-- Every closed period lies before the staker's last claim. -/
def Settled (books : ClaimBooks) : Prop :=
  ∀ index < periodCount, index ≠ 0 → (books.ledger.window index).id ≤ books.staker.lastClaimed

/-- A staker that has claimed every closed period is owed nothing. -/
theorem owedByPeriod_of_settled {books : ClaimBooks} (settled : books.Settled) :
    books.ledger.owedByPeriod books.staker.ownership books.staker.lastClaimed =
      .ok #v[.zero, .zero, .zero] :=
  PeriodLedger.owedByPeriod_eq_ok.mpr ⟨_, _, _,
    PeriodLedger.owedFor_of_le (settled 1 (by decide) (by decide)),
    PeriodLedger.owedFor_of_le (settled 2 (by decide) (by decide)),
    PeriodLedger.owedFor_of_le (settled 3 (by decide) (by decide)), rfl⟩

end ClaimBooks

namespace Claiming

variable {books after : ClaimBooks} {terms : ClaimTerms} {total : Entitlement}

/-- What is claimed is admitted. -/
theorem admits_of_claim (claimed : claim terms books = .ok total after) : books.Admits terms := by
  obtain ⟨_, _, _, _, assessed, _⟩ := claim_eq_ok claimed
  exact (ClaimBooks.assess_eq_ok.mp assessed).1

theorem admits_of_claimOnBehalf {approval : Approval} {delegate : Key}
    (claimed : claimOnBehalf approval delegate terms books = .ok total after) :
    books.Admits terms :=
  admits_of_claim (claimOnBehalf_eq_ok claimed).2

theorem bind_of_ok {α β : Type} {x : Claiming α} {f : α → Claiming β} {a : α}
    (first : x books = .ok a after) : (x >>= f) books = f a after := by
  show EStateM.bind x f books = _
  simp only [EStateM.bind, first]

/-- A claim adds to what was claimed from each closed period what is owed of it, gives all of that
together, and remembers the youngest closed period. -/
theorem claim_owed (claimed : claim terms books = .ok total after) :
    ∃ owed : Nat → Entitlement, owed 0 = Entitlement.zero ∧
      (∀ index < periodCount, index ≠ 0 →
        books.ledger.owedFor books.staker.ownership books.staker.lastClaimed index =
          .ok (owed index)) ∧
      (∀ index < periodCount, ∀ purse, after.ledger.claimedAt index purse =
        books.ledger.claimedAt index purse + ((owed index).amount purse).toNat) ∧
      (∀ purse, (total.amount purse).toNat =
        ((owed 1).amount purse).toNat + ((owed 2).amount purse).toNat +
          ((owed 3).amount purse).toNat) ∧
      total.isZero = false ∧ after.ledger.timeline = books.ledger.timeline ∧
      after.staker = { books.staker with lastClaimed := (books.ledger.window 1).id } := by
  obtain ⟨owed, first, second, third, assessed, listed, summed, something, marked, staker⟩ :=
    claim_eq_ok claimed
  obtain ⟨_, owes⟩ := ClaimBooks.assess_eq_ok.mp assessed
  obtain ⟨_, _, _, firstOwed, secondOwed, thirdOwed, rfl⟩ :=
    PeriodLedger.owedByPeriod_eq_ok.mp owes
  simp only [Vector.toList_mk, List.cons.injEq, and_true] at listed
  obtain ⟨rfl, rfl, rfl⟩ := listed
  have timeline := (PeriodLedger.markAll_paysOut marked summed).timeline
  have youngest : (after.ledger.window 1).id = (books.ledger.window 1).id :=
    congrArg (fun line => (line.spans 1).id) timeline
  refine ⟨fun index => [Entitlement.zero, _, _, _].getD index Entitlement.zero, rfl, ?_,
    fun index inside => PeriodLedger.markAll_claimedAt marked inside,
    Entitlement.sum_three_eq_ok summed, something, timeline, youngest ▸ staker⟩
  intro index inside closed
  match index, inside, closed with
  | 1, _, _ => exact firstOwed
  | 2, _, _ => exact secondOwed
  | 3, _, _ => exact thirdOwed

/-- A staker that has claimed every closed period does not succeed with a claim. -/
theorem not_claim_of_settled (settled : books.Settled) : ¬ claim terms books = .ok total after := by
  intro claimed
  obtain ⟨owed, _, owes, _, sums, something, _⟩ := claim_owed claimed
  have nothing : ∀ index < periodCount, index ≠ 0 → ∀ purse,
      ((owed index).amount purse).toNat = 0 := by
    intro index inside closed purse
    have owing := owes index inside closed
    rw [PeriodLedger.owedFor_of_le (settled index inside closed)] at owing
    rw [← Except.ok.inj owing]
    exact Entitlement.toNat_amount_zero purse
  have empty : ∀ purse, total.amount purse = 0 := fun purse => UInt64.toNat_inj.mp <| by
    rw [sums, nothing 1 (by decide) (by decide), nothing 2 (by decide) (by decide),
      nothing 3 (by decide) (by decide)]
    rfl
  have zero : total.isZero = true := decide_eq_true ⟨empty .fees, empty .rewards⟩
  rw [zero] at something
  exact nomatch something

/-- A staker that has claimed every closed period, and could claim otherwise, has nothing to claim.
-/
theorem claim_of_settled (settled : books.Settled) (admits : books.Admits terms) :
    claim terms books = .error (.refused .nothingToClaim) books := by
  have assessed := ClaimBooks.assess_eq_ok.mpr
    ⟨admits, ClaimBooks.owedByPeriod_of_settled settled⟩
  have summed : Entitlement.sum (#v[.zero, .zero, .zero] : Vector Entitlement 3).toList =
      .ok .zero := rfl
  unfold claim
  rw [bind_of_ok (Stateful.get_eq_ok.mpr ⟨rfl, rfl⟩),
    bind_of_ok (Stateful.liftExcept_eq_ok.mpr ⟨assessed, rfl⟩),
    bind_of_ok (Stateful.liftExcept_eq_ok.mpr ⟨summed, rfl⟩)]
  rfl

/-- A permitted claim for an owner goes like the owner's. -/
theorem claimOnBehalf_of_permits {approval : Approval} {delegate : Key}
    (permits : approval.permits books.staker.owner delegate = true) (terms : ClaimTerms) :
    claimOnBehalf approval delegate terms books = claim terms books := by
  unfold claimOnBehalf
  rw [bind_of_ok (Stateful.get_eq_ok.mpr ⟨rfl, rfl⟩), permits]
  rfl

end Claiming

end FeeTreasury
