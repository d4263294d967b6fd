import FeeTreasury.Claim
import FeeTreasury.Proofs.Ledger.Pots
import FeeTreasury.Proofs.Stateful

/-!
# The course of a claim

A claim that comes to its end has assessed what is owed, found that it is something, and marked each
closed period with its part (`FeeTreasury.Claiming.claim_eq_ok`). The marks keep the ledger solvent
and its timeline as it was, and take from what the ledger holds exactly what the claim gives
(`FeeTreasury.PeriodLedger.markAll_paysOut`).
-/

namespace FeeTreasury

open Outcome

/-! ## What a claim asks for -/

/-- Sections are active if none of them is suspended. -/
theorem StatusBoard.requireActive_eq_ok {board : StatusBoard} {parts : List Section} {u : Unit} :
    board.requireActive parts = .ok u ↔ ∀ part ∈ parts, board.isSuspended part = false := by
  simp only [← Bool.not_eq_true, ← List.find?_eq_none]
  unfold requireActive
  cases parts.find? board.isSuspended with
  | none => simp only
  | some part => simp only [refuse_ne_ok, reduceCtorEq]

/-- A market consists of two fresh readings, and its price is not zero. -/
theorem Oracle.market_eq_ok {oracle : Oracle} {market : Market} :
    oracle.market = .ok market ↔
      (oracle.rateFor .collateral = some ⟨market.price, false⟩ ∧ market.price ≠ 0) ∧
        oracle.rateFor .totalDebt = some ⟨market.totalDebt, false⟩ := by
  constructor
  · intro answered
    unfold Oracle.market at answered
    split at answered
    · split at answered
      · exact absurd answered refuse_ne_ok
      · split at answered
        · obtain rfl := Except.ok.inj answered
          exact ⟨⟨‹_›, ‹_›⟩, ‹_›⟩
        · exact absurd answered refuse_ne_ok
    · exact absurd answered refuse_ne_ok
  · rintro ⟨⟨priced, positive⟩, valued⟩
    simp only [Oracle.market, priced, valued, positive, ↓reduceIte]

namespace Entitlement

theorem add_eq_ok {a b c : Entitlement} (added : a.add b = .ok c) (purse : Purse) :
    (c.amount purse).toNat = (a.amount purse).toNat + (b.amount purse).toNat := by
  simp only [add, bind_eq_ok, pure_eq_ok, checkedAdd_eq_ok] at added
  obtain ⟨fees, feesSum, rewards, rewardsSum, rfl⟩ := added
  cases purse
  · exact feesSum
  · exact rewardsSum

theorem sum_three_eq_ok {a b c total : Entitlement} (summed : sum [a, b, c] = .ok total)
    (purse : Purse) :
    (total.amount purse).toNat =
      (a.amount purse).toNat + (b.amount purse).toNat + (c.amount purse).toNat := by
  simp only [sum, List.foldlM_cons, List.foldlM_nil, bind_eq_ok, pure_eq_ok] at summed
  obtain ⟨first, firstSum, second, secondSum, third, thirdSum, rfl⟩ := summed
  have none : (zero.amount purse).toNat = 0 := by cases purse <;> rfl
  rw [add_eq_ok thirdSum, add_eq_ok secondSum, add_eq_ok firstSum, none, Nat.zero_add]

theorem amount_eq_zero {entitlement : Entitlement} (nothing : entitlement.isZero = true)
    (purse : Purse) : (entitlement.amount purse).toNat = 0 := by
  simp only [isZero, decide_eq_true_eq] at nothing
  cases purse
  · exact congrArg UInt64.toNat nothing.1
  · exact congrArg UInt64.toNat nothing.2

end Entitlement

namespace PeriodLedger

/-- Mark an amount as claimed from the period at an index, unless it is nothing. -/
def mark (ledger : PeriodLedger) (index : Nat) (amount : Entitlement) : Outcome PeriodLedger :=
  if amount.isZero then pure ledger else ledger.recordClaim index amount.fees amount.rewards

/-- Mark what is owed of the closed periods, from the oldest to the youngest. -/
def markAll (ledger : PeriodLedger) (first second third : Entitlement) : Outcome PeriodLedger := do
  let oldest ← ledger.mark 3 third
  let middle ← oldest.mark 2 second
  middle.mark 1 first

variable {ledger after : PeriodLedger}

/-- What a rule that only pays out of the closed periods leaves: the timeline, solvency, and what it
did not pay. -/
structure PaysOut (before after : PeriodLedger) (amount : Purse → Nat) : Prop where
  timeline : after.timeline = before.timeline
  solvent : before.Solvent → after.Solvent
  held : before.Solvent → ∀ purse, after.held purse + amount purse = before.held purse

theorem mark_paysOut {index : Nat} {amount : Entitlement}
    (marked : ledger.mark index amount = .ok after) :
    ledger.PaysOut after fun purse => (amount.amount purse).toNat := by
  simp only [mark, ite_eq_ok, pure_eq_ok] at marked
  rcases marked with ⟨nothing, rfl⟩ | ⟨_, recorded⟩
  · refine ⟨rfl, id, fun _ purse => ?_⟩
    rw [Entitlement.amount_eq_zero nothing, Nat.add_zero]
  · refine ⟨timeline_recordClaim recorded, ?_, ?_⟩
    all_goals
      obtain ⟨inside, period, rfl, pays, within⟩ := recordClaim_pays recorded
      intro solvent
    · exact solvent.put pays within fun _ _ => rfl
    · exact solvent.held_put inside pays within

/-- All marks together pay out what is owed together. -/
theorem markAll_paysOut {first second third total : Entitlement}
    (marked : ledger.markAll first second third = .ok after)
    (summed : Entitlement.sum [first, second, third] = .ok total) :
    ledger.PaysOut after fun purse => (total.amount purse).toNat := by
  simp only [markAll, bind_eq_ok] at marked
  obtain ⟨oldest, thirdMarked, middle, secondMarked, firstMarked⟩ := marked
  have thirdPays := mark_paysOut thirdMarked
  have secondPays := mark_paysOut secondMarked
  have firstPays := mark_paysOut firstMarked
  refine ⟨firstPays.timeline.trans (secondPays.timeline.trans thirdPays.timeline),
    fun solvent => firstPays.solvent (secondPays.solvent (thirdPays.solvent solvent)), ?_⟩
  intro solvent purse
  have thirdHeld := thirdPays.held solvent purse
  have secondHeld := secondPays.held (thirdPays.solvent solvent) purse
  have firstHeld := firstPays.held (secondPays.solvent (thirdPays.solvent solvent)) purse
  have totalAmount := Entitlement.sum_three_eq_ok summed purse
  omega

end PeriodLedger

namespace Claiming

variable {books after : ClaimBooks}

theorem mark_eq_ok {index : Nat} {amount : Entitlement} {u : Unit} :
    mark index amount books = .ok u after ↔
      ∃ ledger, books.ledger.mark index amount = .ok ledger ∧ after = { books with ledger } := by
  unfold mark PeriodLedger.mark
  cases amount.isZero with
  | true =>
    simp only [Bool.not_true, Bool.false_eq_true, ↓reduceIte, Stateful.pure_eq_ok,
      Outcome.pure_eq_ok, true_and, exists_eq_left']
    exact eq_comm
  | false =>
    simp only [Bool.not_false, ↓reduceIte, Stateful.bind_eq_ok, Stateful.get_eq_ok,
      Stateful.liftExcept_eq_ok, Stateful.set_eq_ok, Bool.false_eq_true]
    constructor
    · rintro ⟨_, _, ⟨rfl, rfl⟩, ledger, _, ⟨recorded, rfl⟩, rfl⟩
      exact ⟨ledger, recorded, rfl⟩
    · rintro ⟨ledger, recorded, rfl⟩
      exact ⟨_, _, ⟨rfl, rfl⟩, ledger, _, ⟨recorded, rfl⟩, rfl⟩

/-- What a claim that comes to its end has done. -/
theorem claim_eq_ok {terms : ClaimTerms} {total : Entitlement}
    (claimed : claim terms books = .ok total after) :
    ∃ owed first second third, books.assess terms = .ok owed ∧
      owed.toList = [first, second, third] ∧
      Entitlement.sum [first, second, third] = .ok total ∧ total.isZero = false ∧
      books.ledger.markAll first second third = .ok after.ledger ∧
      after.staker = { books.staker with lastClaimed := (after.ledger.window 1).id } := by
  simp only [claim, Stateful.bind_eq_ok, Stateful.get_eq_ok, Stateful.liftExcept_eq_ok] at claimed
  obtain ⟨_, _, ⟨rfl, rfl⟩, owed, _, ⟨assessed, rfl⟩, sum, _, ⟨summed, rfl⟩, rest⟩ := claimed
  obtain ⟨⟨entries⟩, size⟩ := owed
  obtain ⟨first, second, third, rfl⟩ := List.length_eq_three.mp size
  cases something : sum.isZero with
  | true =>
    simp only [something, ↓reduceIte, Stateful.bind_eq_ok, Stateful.throw_ne_ok, false_and,
      exists_false] at rest
  | false =>
    simp only [something, Bool.false_eq_true, ↓reduceIte, Stateful.bind_eq_ok, mark_eq_ok,
      Stateful.modify_eq_ok, Stateful.pure_eq_ok] at rest
    obtain ⟨_, _, ⟨oldest, thirdMarked, rfl⟩, _, _, ⟨middle, secondMarked, rfl⟩, _, _,
      ⟨youngest, firstMarked, rfl⟩, _, _, rfl, rfl, rfl⟩ := rest
    refine ⟨_, first, second, third, assessed, rfl, summed, something, ?_, rfl⟩
    simp only [PeriodLedger.markAll, Outcome.bind_eq_ok]
    exact ⟨oldest, thirdMarked, middle, secondMarked, firstMarked⟩

/-- A claim for an owner is a claim that the owner permitted. -/
theorem claimOnBehalf_eq_ok {approval : Approval} {delegate : Key} {terms : ClaimTerms}
    {total : Entitlement}
    (claimed : claimOnBehalf approval delegate terms books = .ok total after) :
    approval.permits books.staker.owner delegate = true ∧ claim terms books = .ok total after := by
  simp only [claimOnBehalf, Stateful.bind_eq_ok, Stateful.get_eq_ok] at claimed
  obtain ⟨_, _, ⟨rfl, rfl⟩, rest⟩ := claimed
  cases permitted : approval.permits books.staker.owner delegate with
  | false =>
    simp only [permitted, Bool.not_false, ↓reduceIte, Stateful.bind_eq_ok, Stateful.throw_ne_ok,
      false_and, exists_false] at rest
  | true =>
    simp only [permitted, Bool.not_true, Bool.false_eq_true, ↓reduceIte] at rest
    exact ⟨rfl, rest⟩

end Claiming

end FeeTreasury
