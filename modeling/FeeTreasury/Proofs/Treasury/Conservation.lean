import FeeTreasury.Proofs.Treasury.Course

/-!
# Conservation of fees and rewards

Whatever was recorded is either still held by the retained periods or was paid out by a claim
(`FeeTreasury.Treasury.held_add_paid_eq_recorded`). A step keeps the ledger solvent and balances
what it records against what it pays (`FeeTreasury.Treasury.balance_of_perform`).
-/

namespace FeeTreasury

open Outcome

/-- What an operation records of one kind of money. -/
def Operation.recorded {ι : Type} : Operation ι → Purse → Nat
  | .recordFee amount, .fees => amount.toNat
  | .recordReward amount, .rewards => amount.toNat
  | _, _ => 0

/-- What a receipt pays of one kind of money to a claim. -/
def Receipt.paid : Receipt → Purse → Nat
  | .claimed entitlement, purse => (entitlement.amount purse).toNat
  | _, _ => 0

namespace Treasury

variable {ι : Type}

/-- All that was recorded in a history. -/
def recorded (history : List (Step ι)) (purse : Purse) : Nat :=
  (history.map fun step => step.operation.recorded purse).sum

/-- All that claims were paid in a history. -/
def paid (history : List (Step ι)) (purse : Purse) : Nat :=
  (history.map fun step => step.receipt.paid purse).sum

theorem recorded_cons (step : Step ι) (history : List (Step ι)) (purse : Purse) :
    recorded (step :: history) purse = step.operation.recorded purse + recorded history purse := rfl

theorem paid_cons (step : Step ι) (history : List (Step ι)) (purse : Purse) :
    paid (step :: history) purse = step.receipt.paid purse + paid history purse := rfl

variable [DecidableEq ι] {start treasury after : Treasury ι} {receipt : Receipt}
  {history : List (Step ι)}

/-- A ledger keeps its books if it stays solvent and balances what comes in with what goes out. -/
structure Balances (before after : PeriodLedger) (recorded paid : Purse → Nat) : Prop where
  solvent : after.Solvent
  held : ∀ purse, after.held purse + paid purse = before.held purse + recorded purse

theorem balances_of_window {before after : PeriodLedger} (solvent : before.Solvent)
    (same : ∀ index, after.window index = before.window index) :
    Balances before after (fun _ => 0) fun _ => 0 where
  solvent := solvent.congr same
  held _ := PeriodLedger.held_congr same

theorem balances_of_rotate {before after : PeriodLedger} {now duration : Int64} {supply id : UInt64}
    (solvent : before.Solvent) (ordered : before.timeline.Ordered)
    (rotated : before.rotate now duration supply = .ok (after, id)) :
    Balances before after (fun _ => 0) fun _ => 0 := by
  obtain ⟨accrued, brought, _, rotates⟩ := PeriodLedger.rotate_eq_ok rotated
  have same := PeriodLedger.window_accrue brought
  obtain ⟨_, _, advances⟩ := PeriodLedger.timeline_accrue brought
  have kept := solvent.congr same
  have sorted := ordered.advance advances
  have numbered := PeriodLedger.current_ne_zero_of_ordered sorted
  exact ⟨rotates.solvent numbered (PeriodLedger.vacant_of_ordered sorted) kept, fun purse =>
    (rotates.held_eq kept purse).trans (PeriodLedger.held_congr same)⟩

theorem balances_of_claim {terms : ClaimTerms} {books after : ClaimBooks}
    {entitlement : Entitlement} (solvent : books.ledger.Solvent)
    (claimed : Claiming.claim terms books = .ok entitlement after) :
    Balances books.ledger after.ledger (fun _ => 0) (Receipt.claimed entitlement).paid := by
  obtain ⟨_, _, _, _, _, _, summed, _, marked, _⟩ := Claiming.claim_eq_ok claimed
  have pays := PeriodLedger.markAll_paysOut marked summed
  exact ⟨pays.solvent solvent, pays.held solvent⟩

/-- A step without import keeps the ledger solvent, and balances what it records and what it pays.
-/
theorem balance_of_perform {operation : Operation ι} (free : operation.isImport = false)
    (performed : treasury.perform operation = .ok (after, receipt))
    (ordered : treasury.ledger.timeline.Ordered) (solvent : treasury.ledger.Solvent) :
    Balances treasury.ledger after.ledger operation.recorded receipt.paid := by
  have numbered := PeriodLedger.current_ne_zero_of_ordered ordered
  cases performs_of_perform performed with
  | recordFee recorded =>
    obtain ⟨period, rfl, pays⟩ := PeriodLedger.recordFee_pays recorded
    obtain ⟨kept, held⟩ := solvent.receive numbered pays
    exact ⟨kept, fun purse => by cases purse <;> exact held _⟩
  | recordReward recorded =>
    obtain ⟨period, rfl, pays⟩ := PeriodLedger.recordReward_pays recorded
    obtain ⟨kept, held⟩ := solvent.receive numbered pays
    exact ⟨kept, fun purse => by cases purse <;> exact held _⟩
  | accrue accrued => exact balances_of_window solvent (PeriodLedger.window_accrue accrued)
  | setShares changed =>
    have accrued := (ShareBooks.setShares_eq_ok changed).1
    exact balances_of_window solvent (PeriodLedger.window_accrue accrued)
  | liquidate liquidated =>
    obtain ⟨_, _, changed⟩ := ShareBooks.liquidate_eq_ok liquidated
    have accrued := (ShareBooks.setShares_eq_ok changed).1
    exact balances_of_window solvent (PeriodLedger.window_accrue accrued)
  | close closed =>
    obtain ⟨_, rotated⟩ := PeriodLedger.rotate_of_closeCurrent closed
    exact balances_of_rotate solvent ordered rotated
  | closeFromRelayer closed =>
    obtain ⟨_, rotated⟩ := PeriodLedger.rotate_of_closeFromRelayer closed
    exact balances_of_rotate solvent ordered rotated
  | claim claimed => exact balances_of_claim solvent claimed
  | claimOnBehalf claimed =>
    exact balances_of_claim solvent (Claiming.claimOnBehalf_eq_ok claimed).2
  | importPeriod => simp only [Operation.isImport, reduceCtorEq] at free
  | setCollateral | deposit | credit | takeReward =>
    exact balances_of_window solvent fun _ => rfl

theorem Run.balances (run : start.Run history treasury) (free : ImportFree history)
    (ordered : start.ledger.timeline.Ordered) (solvent : start.ledger.Solvent) :
    Balances start.ledger treasury.ledger (recorded history) (paid history) := by
  induction run with
  | start => exact ⟨solvent, fun _ => rfl⟩
  | @step history _ _ operation _ run performed ih =>
    obtain ⟨imports, earlier⟩ : operation.isImport = false ∧ ImportFree history :=
      importFree_cons.mp free
    have before := ih earlier
    have step := balance_of_perform imports performed (run.ordered earlier ordered) before.solvent
    refine ⟨step.solvent, fun purse => ?_⟩
    have stepHeld := step.held purse
    have beforeHeld := before.held purse
    simp only [recorded_cons, paid_cons]
    omega

/-- **Conservation of fees and rewards.** In every treasury that a run without imports leads to from
a new ledger, what the retained periods hold and what claims were paid is together what was
recorded, and no retained period was claimed beyond its total. -/
theorem held_add_paid_eq_recorded {now : Int64} {bump : UInt8}
    (opened : start.ledger = PeriodLedger.new now bump) (run : start.Run history treasury)
    (free : ImportFree history) :
    (∀ purse, treasury.ledger.held purse + paid history purse = recorded history purse) ∧
      ∀ index < periodCount, ∀ purse,
        ((treasury.ledger.window index).pot purse).claimed ≤
          ((treasury.ledger.window index).pot purse).total := by
  have balances := run.balances free (opened ▸ PeriodLedger.timeline_new_ordered now bump)
    (opened ▸ PeriodLedger.solvent_new now bump)
  refine ⟨fun purse => ?_, balances.solvent.within⟩
  rw [balances.held, opened, PeriodLedger.held_new, Nat.zero_add]

/-- Terms of a claim at a steady price, with no section suspended. -/
def calmTerms (supply : UInt64) : ClaimTerms where
  board := StatusBoard.new 255
  oracle := Oracle.new { RateFeed.new .collateral 255 with rate := 2 * unit, round := 1 }
    { RateFeed.new .totalDebt 255 with rate := unit, round := 1 } Settings.standard 0
  settings := Settings.standard
  supply := supply

/-- A staker with half of the shares claims its part of a first period, which leaves the window with
the other half unclaimed. -/
def halfClaimed : List (Operation Pair) :=
  [.setCollateral .first (1000 * unit), .setShares .first 50 0, .setShares .second 50 0,
    .recordFee 91, .closeFromRelayer 10 1 10 10 100, .recordReward 7,
    .claim .first (calmTerms 100), .closeFromRelayer 20 2 10 10 100,
    .closeFromRelayer 30 3 10 10 100, .closeFromRelayer 40 4 10 10 100]

theorem held_add_paid_eq_recorded_halfClaimed :
    paid ((opened 0).play halfClaimed).1 .fees = 45 ∧
      ((opened 0).play halfClaimed).2.ledger.held .fees +
        paid ((opened 0).play halfClaimed).1 .fees =
          recorded ((opened 0).play halfClaimed).1 .fees :=
  ⟨by decide +kernel,
    (held_add_paid_eq_recorded rfl (run_play _ halfClaimed) (by decide +kernel)).1 .fees⟩

end Treasury

end FeeTreasury
