import FeeTreasury.Proofs.Ledger.Capacity
import FeeTreasury.Proofs.Ledger.Retained
import FeeTreasury.Proofs.Treasury.Claims

/-!
# A claim happens as a whole

A claim writes to its books as it goes, but by the time that it writes, nothing can fail any more:
what is owed of a period is never more than what is left of it, so every mark finds room. A claim
that fails has therefore written nothing, and a claim succeeds exactly if it is clear to go ahead
and what the ledger shows as available is something. What it then writes is what was owed, entry by
entry of the list of periods, and the staker's last claim
(`FeeTreasury.ClaimBooks.claims_atomically`).
-/

namespace FeeTreasury

open Outcome

/-! ## When a claim is clear to go ahead -/

namespace ClaimBooks

/-- No section that a claim needs is suspended, both feeds are fresh, where a price of zero counts
as none, and the staker's ratio is within the limit for claims. -/
structure Clear (books : ClaimBooks) (terms : ClaimTerms) : Prop where
  active : ∀ part ∈ claimSections, terms.board.isSuspended part = false
  judged : ∃ market position limit,
    (terms.oracle.rateFor .collateral = some ⟨market.price, false⟩ ∧ market.price ≠ 0) ∧
    terms.oracle.rateFor .totalDebt = some ⟨market.totalDebt, false⟩ ∧
    books.staker.position terms.supply market = .ok position ∧
    terms.settings.claimableRatioLimit = .ok limit ∧ position.ratio ≤ limit

variable {books after : ClaimBooks} {terms : ClaimTerms} {total : Entitlement}

theorem admits_iff_clear : books.Admits terms ↔ books.Clear terms := by
  simp only [Admits, Position.claimable, StatusBoard.requireActive_eq_ok, Oracle.market_eq_ok,
    bind_eq_ok, pure_eq_ok, decide_eq_true_eq]
  constructor
  · rintro ⟨market, position, active, ⟨priced, valued⟩, seen, limit, limited, within⟩
    exact ⟨active, market, position, limit, priced, valued, seen, limited, within⟩
  · rintro ⟨active, market, position, limit, priced, valued, seen, limited, within⟩
    exact ⟨market, position, active, ⟨priced, valued⟩, seen, limit, limited, within⟩

end ClaimBooks

/-! ## What a claim writes -/

theorem eq_add_of_checkedAdd {a b c : UInt64} (added : checkedAdd a b = .ok c) : c = a + b := by
  have exactly := checkedAdd_eq_ok.mp added
  have fits : a.toNat + b.toNat < UInt64.size := exactly ▸ c.toNat_lt
  rw [← UInt64.toNat_inj, UInt64.toNat_add, Nat.mod_eq_of_lt fits, exactly]

namespace FeePeriod

/-- A period from which some more was claimed. -/
def credit (period : FeePeriod) (owed : Entitlement) : FeePeriod :=
  { period with
    fees := { period.fees with claimed := period.fees.claimed + owed.fees }
    rewards := { period.rewards with claimed := period.rewards.claimed + owed.rewards } }

theorem credit_of_isZero {period : FeePeriod} {owed : Entitlement} (nothing : owed.isZero = true) :
    period.credit owed = period := by
  simp only [Entitlement.isZero, decide_eq_true_eq] at nothing
  simp only [credit, nothing.1, nothing.2, UInt64.add_zero]

theorem eq_credit_of_recordClaim {period after : FeePeriod} {fees rewards : UInt64}
    (recorded : period.recordClaim fees rewards = .ok after) :
    after = period.credit ⟨fees, rewards⟩ := by
  simp only [recordClaim, bind_eq_ok, pure_eq_ok] at recorded
  obtain ⟨feesClaimed, feesSum, rewardsClaimed, rewardsSum, _, _, rfl⟩ := recorded
  simp only [credit, eq_add_of_checkedAdd feesSum, eq_add_of_checkedAdd rewardsSum]

end FeePeriod

namespace PeriodLedger

variable {ledger after : PeriodLedger} {first second third : Entitlement}

/-- A mark changes one entry of the list. -/
theorem shown_mark {index : Nat} {amount : Entitlement}
    (marked : ledger.mark index amount = .ok after) (inside : index < periodCount) :
    after.recent = ledger.recent.set index ((ledger.window index).credit amount) ∧
      after.besides = ledger.besides := by
  simp only [mark, ite_eq_ok, pure_eq_ok] at marked
  rcases marked with ⟨nothing, rfl⟩ | ⟨_, recorded⟩
  · rw [FeePeriod.credit_of_isZero nothing, ← recent_put inside, put_window]
    exact ⟨rfl, rfl⟩
  · obtain ⟨_, period, changed, rfl⟩ := modifyPeriod_eq_ok.mp recorded
    obtain rfl := FeePeriod.eq_credit_of_recordClaim changed
    exact ⟨recent_put inside _, rfl⟩

/-- The marks of a claim change the list entry by entry. -/
theorem shown_markAll (marked : ledger.markAll first second third = .ok after) :
    after.recent =
        List.zipWith FeePeriod.credit ledger.recent [Entitlement.zero, first, second, third] ∧
      after.besides = ledger.besides := by
  simp only [markAll, bind_eq_ok] at marked
  obtain ⟨oldest, thirdMarked, middle, secondMarked, firstMarked⟩ := marked
  obtain ⟨thirdShown, thirdBesides⟩ := shown_mark thirdMarked (by decide)
  obtain ⟨secondShown, secondBesides⟩ := shown_mark secondMarked (by decide)
  obtain ⟨firstShown, firstBesides⟩ := shown_mark firstMarked (by decide)
  refine ⟨?_, firstBesides.trans (secondBesides.trans thirdBesides)⟩
  have untouched : (ledger.window 0).credit Entitlement.zero = ledger.window 0 :=
    FeePeriod.credit_of_isZero rfl
  rw [firstShown, window_mark secondMarked (by decide) (by decide),
    window_mark thirdMarked (by decide) (by decide), secondShown,
    window_mark thirdMarked (by decide) (by decide), thirdShown, recent_eq]
  simp only [List.zipWith_cons_cons, List.zipWith_nil_left, untouched, List.set_cons_succ,
    List.set_cons_zero]

end PeriodLedger

namespace ClaimBooks

variable {books after : ClaimBooks} {terms : ClaimTerms} {total : Entitlement}

/-- Books after a claim of a total: what was claimed of each period has grown by what is owed of it,
which together is the total, and nothing else has changed but the last claim. -/
structure Credited (before after : ClaimBooks) (total : Entitlement) : Prop where
  periods : ∃ owed, before.ledger.owedByPeriod before.staker.ownership before.staker.lastClaimed =
      .ok owed ∧
    after.ledger.recent =
      List.zipWith FeePeriod.credit before.ledger.recent (Entitlement.zero :: owed.toList) ∧
    (∀ index < periodCount, ∀ purse, after.ledger.claimedAt index purse =
      before.ledger.claimedAt index purse +
        (((Entitlement.zero :: owed.toList).getD index Entitlement.zero).amount purse).toNat) ∧
    ∀ purse, (total.amount purse).toNat = (owed.toList.map fun e => (e.amount purse).toNat).sum
  besides : after.ledger.besides = before.ledger.besides
  staker : after.staker = { before.staker with lastClaimed := (before.ledger.window 1).id }

theorem credited_of_claim (claimed : Claiming.claim terms books = .ok total after) :
    books.Credited after total := by
  obtain ⟨owed, first, second, third, assessed, listed, summed, _, marked, _⟩ :=
    Claiming.claim_eq_ok claimed
  obtain ⟨_, _, _, _, _, _, _, staker⟩ := Claiming.claim_owed claimed
  obtain ⟨shown, besides⟩ := PeriodLedger.shown_markAll marked
  refine ⟨⟨owed, (assess_eq_ok.mp assessed).2, ?_, ?_, ?_⟩, besides, staker⟩
  all_goals rw [listed]
  · exact shown
  · exact fun index inside => PeriodLedger.markAll_claimedAt marked inside
  · intro purse
    rw [Entitlement.sum_three_eq_ok summed purse]
    simp only [List.map_cons, List.map_nil, List.sum_cons, List.sum_nil, Nat.add_zero,
      Nat.add_assoc]

/-! ## All or nothing -/

/-- What was assessed and is something is paid, if no pot was claimed beyond its total. -/
theorem claim_of_assess (within : books.ledger.Within) {owed : Vector Entitlement 3}
    (assessed : books.assess terms = .ok owed) (summed : Entitlement.sum owed.toList = .ok total)
    (something : total.isZero = false) : ∃ after, Claiming.claim terms books = .ok total after := by
  obtain ⟨first, second, third, firstOwed, secondOwed, thirdOwed, rfl⟩ :=
    PeriodLedger.owedByPeriod_eq_ok.mp (assess_eq_ok.mp assessed).2
  obtain ⟨ledger, marked⟩ := PeriodLedger.answers_markAll within
    (PeriodLedger.owedFor_le_unclaimed firstOwed) (PeriodLedger.owedFor_le_unclaimed secondOwed)
    (PeriodLedger.owedFor_le_unclaimed thirdOwed)
  exact ⟨_, Claiming.claim_of_markAll assessed summed something marked⟩

/-- A claim fails before it writes. -/
theorem eq_of_claim_eq_error (within : books.ledger.Within) {fault : Fault}
    (failed : Claiming.claim terms books = .error fault after) : after = books := by
  have unpaid : ∀ total paid, ¬ Claiming.claim terms books = .ok total paid := by
    intro total paid claimed
    rw [claimed] at failed
    exact nomatch failed
  unfold Claiming.claim at failed
  rcases Stateful.bind_eq_error.mp failed with nothing | ⟨_, _, got, failed⟩
  · exact nomatch nothing
  obtain ⟨rfl, rfl⟩ := Stateful.get_eq_ok.mp got
  rcases Stateful.bind_eq_error.mp failed with unassessed | ⟨owed, _, lifted, failed⟩
  · exact Stateful.eq_of_liftExcept_eq_error unassessed
  obtain ⟨assessed, rfl⟩ := Stateful.liftExcept_eq_ok.mp lifted
  rcases Stateful.bind_eq_error.mp failed with unsummed | ⟨total, _, lifted, failed⟩
  · exact Stateful.eq_of_liftExcept_eq_error unsummed
  obtain ⟨summed, rfl⟩ := Stateful.liftExcept_eq_ok.mp lifted
  cases something : total.isZero with
  | true =>
    rw [something] at failed
    exact (EStateM.Result.error.inj failed).2.symm
  | false =>
    obtain ⟨paid, claimed⟩ := claim_of_assess within assessed summed something
    exact absurd claimed (unpaid total paid)

/-- A claim on some terms that happens as a whole or not at all, exactly if it is clear to go ahead
and the ledger shows something as available. -/
structure ClaimsAtomically (books : ClaimBooks) (terms : ClaimTerms) : Prop where
  failed : ∀ {fault after}, Claiming.claim terms books = .error fault after → after = books
  answers : ∀ {total}, (∃ after, Claiming.claim terms books = .ok total after) ↔
    books.Clear terms ∧
      books.ledger.available books.staker.ownership books.staker.lastClaimed = .ok total ∧
      total.isZero = false
  credited : ∀ {total after}, Claiming.claim terms books = .ok total after →
    books.Credited after total

/-- **A claim happens as a whole**, if no pot was claimed beyond its total. -/
theorem claims_atomically (within : books.ledger.Within) (terms : ClaimTerms) :
    books.ClaimsAtomically terms where
  failed := eq_of_claim_eq_error within
  answers := by
    intro total
    simp only [PeriodLedger.available, bind_eq_ok]
    constructor
    · rintro ⟨after, claimed⟩
      obtain ⟨owed, _, _, _, assessed, listed, summed, something, _⟩ :=
        Claiming.claim_eq_ok claimed
      obtain ⟨admits, owes⟩ := assess_eq_ok.mp assessed
      exact ⟨admits_iff_clear.mp admits, ⟨owed, owes, listed ▸ summed⟩, something⟩
    · rintro ⟨clear, ⟨owed, owes, summed⟩, something⟩
      have assessed := assess_eq_ok.mpr ⟨admits_iff_clear.mpr clear, owes⟩
      exact claim_of_assess within assessed summed something
  credited := credited_of_claim

/-- The books of a staker with half of the shares, after a first period has closed. -/
def halfDue : ClaimBooks :=
  let treasury := ((Treasury.opened 0).play (Treasury.claimedTwice.take 5)).2
  ⟨treasury.ledger, treasury.stakers .first⟩

theorem claims_atomically_halfDue :
    halfDue.ledger.Within ∧ halfDue.ClaimsAtomically (Treasury.calmTerms 100) ∧
      ∃ after, Claiming.claim (Treasury.calmTerms 100) halfDue = .ok ⟨45, 0⟩ after := by
  have run := Treasury.run_play (Treasury.opened 0) (Treasury.claimedTwice.take 5)
  have balances := run.balances (by decide +kernel) (PeriodLedger.timeline_new_ordered 0 255)
    (PeriodLedger.solvent_new 0 255)
  have within : halfDue.ledger.Within := balances.solvent.within
  exact ⟨within, claims_atomically within _, _, rfl⟩

end ClaimBooks

end FeeTreasury
