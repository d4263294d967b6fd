import FeeTreasury.Proofs.Ledger.Migration
import FeeTreasury.Proofs.Treasury.Claims

/-!
# Runs with migrated history

Seen from the window, an operation that is no import either moves money within the window or closes
the open period (`FeeTreasury.Treasury.transacts_of_perform`,
`FeeTreasury.Treasury.rotates_of_perform`). What both of these keep, and every import too, holds
along a run (`FeeTreasury.Treasury.Run.holds`).

An import can leave an inhabited slot below an empty one. Two closes later its money lies in the
oldest slot, which counts as empty, and the next close drops it. Closes lose nothing else, and
nothing at all as long as imports leave the window packed
(`FeeTreasury.Treasury.held_add_overlooked_of_close`).

An import can also leave a closed period with a larger id than the youngest one. A claim remembers
the id of the youngest, so that such a period stays owed as if nothing had been claimed. All others
are settled, and all of them are as long as imports leave the window descending
(`FeeTreasury.Treasury.owed_after_claim`).
-/

namespace FeeTreasury

open Outcome

namespace Operation

variable {ι : Type}

/-- The migrated history that the operation brings, if it is an import. -/
def imported : Operation ι → Option PeriodImport
  | .importPeriod _ _ history => some history
  | _ => none

/-- Migrated history comes with an id that is not zero. -/
def Numbered (operation : Operation ι) : Prop :=
  ∀ history ∈ operation.imported, history.id ≠ 0

instance (operation : Operation ι) : Decidable operation.Numbered :=
  Option.decidableForallMem operation.imported

theorem isImport_of_claims [DecidableEq ι] {operation : Operation ι} {who : ι}
    (claims : operation.claims who = true) : operation.isImport = false := by
  cases operation with
  | importPeriod now index history => exact absurd claims Bool.false_ne_true
  | _ => rfl

end Operation

namespace Treasury

variable {ι : Type} [DecidableEq ι] {start treasury after : Treasury ι} {receipt : Receipt}
  {who : ι} {history later earlier : List (Step ι)} {claim : Step ι} {operation : Operation ι}

/-! ## What a step does to the window -/

theorem transacts_of_claim {terms : ClaimTerms} {books after : ClaimBooks} {total : Entitlement}
    (claimed : Claiming.claim terms books = .ok total after) :
    PeriodLedger.Transacts books.ledger after.ledger := by
  obtain ⟨_, _, _, _, _, _, _, _, marked, _⟩ := Claiming.claim_eq_ok claimed
  exact .markAll marked

/-- An operation that neither closes the open period nor imports one moves money at most. -/
theorem transacts_of_perform (stays : operation.closes = false) (free : operation.isImport = false)
    (performed : treasury.perform operation = .ok (after, receipt)) :
    PeriodLedger.Transacts treasury.ledger after.ledger := by
  cases performs_of_perform performed with
  | recordFee recorded =>
    obtain ⟨period, rfl, pays⟩ := PeriodLedger.recordFee_pays recorded
    exact .receive pays
  | recordReward recorded =>
    obtain ⟨period, rfl, pays⟩ := PeriodLedger.recordReward_pays recorded
    exact .receive pays
  | accrue accrued => exact .of_window (PeriodLedger.window_accrue accrued)
  | setShares changed =>
    exact .of_window (PeriodLedger.window_accrue (ShareBooks.setShares_eq_ok changed).1)
  | liquidate liquidated =>
    obtain ⟨_, _, changed⟩ := ShareBooks.liquidate_eq_ok liquidated
    exact .of_window (PeriodLedger.window_accrue (ShareBooks.setShares_eq_ok changed).1)
  | close | closeFromRelayer => simp only [Operation.closes, reduceCtorEq] at stays
  | claim claimed => exact transacts_of_claim claimed
  | claimOnBehalf claimed =>
    exact transacts_of_claim (Claiming.claimOnBehalf_eq_ok claimed).2
  | importPeriod => simp only [Operation.isImport, reduceCtorEq] at free
  | setCollateral | deposit | credit | takeReward => exact .of_window fun _ => rfl

/-- An operation that closes the open period brings the index up to date, which leaves the window
alone, and rotates the window. -/
theorem rotates_of_perform (closes : operation.closes = true)
    (performed : treasury.perform operation = .ok (after, receipt)) :
    ∃ accrued now duration,
      (∀ index, PeriodLedger.window accrued index = treasury.ledger.window index) ∧
        PeriodLedger.Rotates accrued after.ledger now duration := by
  have rotates {ledger : PeriodLedger} {now duration : Int64} {supply id : UInt64}
      (rotated : treasury.ledger.rotate now duration supply = .ok (ledger, id)) :
      ∃ accrued now duration,
        (∀ index, PeriodLedger.window accrued index = treasury.ledger.window index) ∧
          PeriodLedger.Rotates accrued ledger now duration := by
    obtain ⟨accrued, brought, _, rotates⟩ := PeriodLedger.rotate_eq_ok rotated
    exact ⟨accrued, _, _, PeriodLedger.window_accrue brought, rotates⟩
  cases performs_of_perform performed with
  | close closed =>
    obtain ⟨_, rotated⟩ := PeriodLedger.rotate_of_closeCurrent closed
    exact rotates rotated
  | closeFromRelayer closed =>
    obtain ⟨_, rotated⟩ := PeriodLedger.rotate_of_closeFromRelayer closed
    exact rotates rotated
  | _ => exact absurd closes Bool.false_ne_true

theorem import_of_perform (imports : operation.isImport = true)
    (performed : treasury.perform operation = .ok (after, receipt)) :
    ∃ now index history, operation.imported = some history ∧
      treasury.ledger.importPeriod now index history = .ok after.ledger := by
  cases performs_of_perform performed with
  | importPeriod imported => exact ⟨_, _, _, rfl, imported⟩
  | _ => exact absurd imports Bool.false_ne_true

/-! ## What holds along a run -/

/-- A property of the ledger that money moving within the window keeps, and a close too. -/
structure Keeps (holds : PeriodLedger → Prop) : Prop where
  transact : ∀ {before after}, PeriodLedger.Transacts before after → holds before → holds after
  rotate : ∀ {before after now duration}, PeriodLedger.Rotates before after now duration →
    holds before → holds after

theorem Keeps.perform {holds : PeriodLedger → Prop} (keeps : Keeps holds)
    (free : operation.isImport = false)
    (performed : treasury.perform operation = .ok (after, receipt))
    (held : holds treasury.ledger) : holds after.ledger := by
  cases closes : operation.closes with
  | false => exact keeps.transact (transacts_of_perform closes free performed) held
  | true =>
    obtain ⟨accrued, _, _, same, rotates⟩ := rotates_of_perform closes performed
    exact keeps.rotate rotates (keeps.transact (.of_window same) held)

theorem Run.performed (run : start.Run history treasury) :
    ∀ step ∈ history, step.before.perform step.operation = .ok (step.after, step.receipt) := by
  induction run with
  | start => exact fun _ member => absurd member List.not_mem_nil
  | step _ performed ih => exact List.forall_mem_cons.mpr ⟨performed, ih⟩

/-- A property that all operations but imports keep holds at every step of a run whose imports keep
it, and at its end. -/
theorem Run.holds {holds : PeriodLedger → Prop} (keeps : Keeps holds)
    (run : start.Run history treasury) (opened : holds start.ledger)
    (imports : ∀ step ∈ history, step.operation.isImport = true → holds step.before.ledger →
      holds step.after.ledger) :
    (∀ step ∈ history, holds step.before.ledger) ∧ holds treasury.ledger := by
  induction run with
  | start => exact ⟨fun _ member => absurd member List.not_mem_nil, opened⟩
  | @step history before after operation receipt run performed ih =>
    obtain ⟨last, earlier⟩ := List.forall_mem_cons.mp imports
    obtain ⟨each, held⟩ := ih earlier
    refine ⟨List.forall_mem_cons.mpr ⟨held, each⟩, ?_⟩
    cases imported : operation.isImport with
    | true => exact last imported held
    | false => exact keeps.perform imported performed held

/-! ## Closes -/

theorem keeps_within : Keeps PeriodLedger.Within where
  transact transacts within := transacts.within within
  rotate rotates within := rotates.within within

/-- A ledger that is solvent and packed, with an open period that is numbered. -/
structure Orderly (ledger : PeriodLedger) : Prop where
  solvent : ledger.Solvent
  numbered : ledger.current.id ≠ 0
  packed : ledger.Packed

theorem keeps_orderly : Keeps Orderly where
  transact transacts orderly :=
    ⟨transacts.solvent orderly.numbered orderly.solvent,
      fun vacant => orderly.numbered ((transacts.id 0).symm.trans vacant),
      transacts.packed orderly.packed⟩
  rotate rotates orderly :=
    ⟨rotates.solvent orderly.numbered (orderly.packed 2 (by decide)) orderly.solvent,
      rotates.numbered, rotates.packed orderly.numbered orderly.packed⟩

theorem orderly_new (now : Int64) (bump : UInt8) : Orderly (PeriodLedger.new now bump) where
  solvent := PeriodLedger.solvent_new now bump
  numbered := by
    rw [PeriodLedger.current, PeriodLedger.ids_new]
    decide
  packed := PeriodLedger.packed_new now bump

/-- **What closes do to migrated history.** In a run from a new ledger, with imports of any history
into any slot, a close loses what the oldest slot holds if it counts as empty, and nothing else. It
loses nothing if every import brings a number and leaves the window packed. -/
theorem held_add_overlooked_of_close {now : Int64} {bump : UInt8}
    (opened : start.ledger = PeriodLedger.new now bump) (run : start.Run history treasury) :
    (∀ step ∈ history, step.operation.closes = true → ∀ purse,
      step.after.ledger.held purse + step.before.ledger.overlooked purse =
        step.before.ledger.held purse) ∧
    ((∀ step ∈ history, step.operation.isImport = true →
        step.operation.Numbered ∧ step.after.ledger.Packed) →
      ∀ step ∈ history, step.operation.closes = true → ∀ purse,
        step.after.ledger.held purse = step.before.ledger.held purse) := by
  have loses : ∀ step ∈ history, step.operation.closes = true → ∀ purse,
      step.after.ledger.held purse + step.before.ledger.overlooked purse =
        step.before.ledger.held purse := by
    have within := (run.holds keeps_within (opened ▸ PeriodLedger.within_new now bump)
      fun step member imports within => by
        obtain ⟨_, _, _, _, imported⟩ := import_of_perform imports (run.performed step member)
        exact PeriodLedger.within_importPeriod imported within).1
    intro step member closes purse
    obtain ⟨accrued, _, _, same, rotates⟩ :=
      rotates_of_perform closes (run.performed step member)
    have kept := (PeriodLedger.Transacts.of_window same).within (within step member)
    rw [← PeriodLedger.overlooked_congr same, ← PeriodLedger.held_congr same]
    exact rotates.held_add_overlooked kept purse
  refine ⟨loses, fun tidy step member closes purse => ?_⟩
  have orderly := (run.holds keeps_orderly (opened ▸ orderly_new now bump)
    fun step member imports orderly => by
      obtain ⟨counts, packed⟩ := tidy step member imports
      obtain ⟨_, _, history, brought, imported⟩ :=
        import_of_perform imports (run.performed step member)
      have numbered : history.id ≠ 0 := counts history brought
      exact ⟨PeriodLedger.solvent_importPeriod imported numbered orderly.solvent,
        PeriodLedger.current_ne_zero_importPeriod imported numbered orderly.numbered, packed⟩).1
  rw [← loses step member closes purse, (orderly step member).solvent.overlooked_eq, Nat.add_zero]

/-- History of a period with fees that nobody has claimed. -/
def migrated (id fees : UInt64) : PeriodImport := ⟨id, 0, ⟨fees, 0⟩, Pot.empty⟩

/-- History is imported next to the open period and stays in the window for four closes. -/
def importedNext : List (Operation Pair) :=
  [.importPeriod 1 1 (migrated 7 100), .closeFromRelayer 10 1 10 10 0, .recordFee 5,
    .closeFromRelayer 20 2 10 10 0, .closeFromRelayer 30 3 10 10 0, .closeFromRelayer 40 4 10 10 0]

theorem held_of_close_importedNext :
    ((opened 0).play importedNext).2.ledger.held .fees = 105 ∧
      ∀ step ∈ ((opened 0).play importedNext).1, step.operation.closes = true → ∀ purse,
        step.after.ledger.held purse = step.before.ledger.held purse :=
  ⟨by decide +kernel,
    (held_add_overlooked_of_close rfl (run_play (opened 0) importedNext)).2 (by decide +kernel)⟩

/-- History is imported into the oldest slot, below two empty ones. -/
def importedLast : List (Operation Pair) :=
  [.importPeriod 1 3 (migrated 7 100), .closeFromRelayer 10 1 10 10 0,
    .closeFromRelayer 20 2 10 10 0]

/-- The first close passes the fees on to an empty slot, and the second one drops them with it. -/
theorem not_held_of_close :
    ¬ ∀ (history : List (Step Pair)) (treasury : Treasury Pair),
      (opened 0).Run history treasury → (∀ step ∈ history, step.operation.Numbered) →
      ∀ step ∈ history, step.operation.closes = true → ∀ purse,
        step.after.ledger.held purse = step.before.ledger.held purse := by
  intro keeps
  have kept : ∀ step ∈ ((opened 0).play importedLast).1, step.operation.closes = true →
      step.after.ledger.held .fees = step.before.ledger.held .fees := by
    intro step member closes
    exact keeps _ _ (run_play (opened 0) importedLast) (by decide +kernel) step member closes .fees
  revert kept
  decide +kernel

/-! ## Claims -/

/-- After a claim of a staker, and until the next close or import, its last claim is the youngest
closed period. -/
theorem Run.lastClaimed_eq (run : start.Run (later ++ claim :: earlier) treasury)
    (claims : claim.operation.claims who = true)
    (still : ∀ step ∈ later, step.operation.closes = false ∧ step.operation.isImport = false) :
    (treasury.stakers who).lastClaimed = (treasury.ledger.window 1).id := by
  induction later generalizing treasury with
  | nil =>
    cases run with
    | step run performed =>
      have credits := claims_of_perform claims performed
      have same := congrArg (fun line => (line.spans 1).id) credits.timeline
      exact credits.lastClaimed.trans same.symm
  | cons step rest ih =>
    cases run with
    | @step _ before _ operation _ run performed =>
      obtain ⟨⟨stays, free⟩, still⟩ := List.forall_mem_cons.mp still
      rw [(transacts_of_perform stays free performed).id]
      by_cases own : operation.claims who = true
      · exact (claims_of_perform own performed).lastClaimed
      · rw [lastClaimed_of_perform (Bool.eq_false_of_not_eq_true own) performed]
        exact ih run still

theorem keeps_descending : Keeps PeriodLedger.Descending where
  transact transacts descending := transacts.descending descending
  rotate rotates descending := rotates.descending descending

/-- **What a claim leaves owed.** In a run from a new ledger, with imports of any history into any
slot, let a claim of a staker be followed by neither a close nor an import. Then the staker is owed
nothing of the periods whose ids do not exceed that of the youngest closed one, and of any other
what it would be owed without a claim. If there is no other, nothing is owed and no further claim
succeeds; and there is none if every import leaves the window descending. -/
theorem owed_after_claim {now : Int64} {bump : UInt8}
    (opened : start.ledger = PeriodLedger.new now bump)
    (run : start.Run (later ++ claim :: earlier) treasury)
    (claims : claim.operation.claims who = true)
    (still : ∀ step ∈ later, step.operation.closes = false ∧ step.operation.isImport = false) :
    (∀ index, treasury.ledger.owedFor (treasury.stakers who).ownership
        (treasury.stakers who).lastClaimed index =
      if (treasury.ledger.window index).id ≤ (treasury.ledger.window 1).id then .ok .zero
      else treasury.ledger.owedFor (treasury.stakers who).ownership 0 index) ∧
    ((∀ index < periodCount, index ≠ 0 →
        (treasury.ledger.window index).id ≤ (treasury.ledger.window 1).id) →
      treasury.ledger.owedByPeriod (treasury.stakers who).ownership
          (treasury.stakers who).lastClaimed = .ok #v[.zero, .zero, .zero] ∧
      (∀ operation, operation.claims who = true → ∀ outcome,
        treasury.perform operation ≠ .ok outcome) ∧
      ∀ terms, (⟨treasury.ledger, treasury.stakers who⟩ : ClaimBooks).Admits terms →
        treasury.perform (.claim who terms) = .error (.refused .nothingToClaim)) ∧
    ((∀ step ∈ earlier, step.operation.isImport = true → step.after.ledger.Descending) →
      ∀ index < periodCount, index ≠ 0 →
        (treasury.ledger.window index).id ≤ (treasury.ledger.window 1).id) := by
  have youngest := run.lastClaimed_eq claims still
  refine ⟨fun index => ?_, fun largest => ?_, fun tidy => ?_⟩
  · rw [← youngest]
    exact PeriodLedger.owedFor_eq_ite _ _ _ _
  · have settled : (⟨treasury.ledger, treasury.stakers who⟩ : ClaimBooks).Settled := by
      intro index inside closed
      exact UInt64.le_trans (largest index inside closed) (UInt64.le_of_eq youngest.symm)
    exact ⟨ClaimBooks.owedByPeriod_of_settled settled,
      fun operation own => perform_ne_ok_of_settled settled own,
      fun terms admits => (perform_of_settled settled admits).1⟩
  · have descending := (run.holds keeps_descending
      (opened ▸ PeriodLedger.descending_new now bump) fun step member imports _ => by
        rw [List.mem_append, List.mem_cons] at member
        rcases member with within | rfl | within
        · exact absurd ((still step within).2.symm.trans imports) Bool.false_ne_true
        · exact absurd ((Operation.isImport_of_claims claims).symm.trans imports)
            Bool.false_ne_true
        · exact tidy step within imports).2
    exact descending.le_youngest

/-- A staker claims its half of a first period and of history in its right place. -/
def claimedInOrder : List (Operation Pair) :=
  [.setCollateral .first (1000 * unit), .setShares .first 50 0, .setShares .second 50 0,
    .closeFromRelayer 10 1 10 10 100, .recordFee 40, .closeFromRelayer 20 2 10 10 100,
    .importPeriod 21 2 (migrated 1 100)]

theorem owed_after_claim_inOrder :
    ∃ after receipt,
      ((opened 0).play claimedInOrder).2.perform (.claim .first (calmTerms 100)) =
        .ok (after, receipt) ∧
      receipt.paid .fees = 70 ∧
      after.ledger.owedByPeriod (after.stakers .first).ownership
        (after.stakers .first).lastClaimed = .ok #v[.zero, .zero, .zero] := by
  have pays : (do
      let outcome ← ((opened 0).play claimedInOrder).2.perform (.claim .first (calmTerms 100))
      return outcome.2.paid .fees) = .ok 70 := by decide +kernel
  simp only [bind_eq_ok, pure_eq_ok] at pays
  obtain ⟨⟨after, receipt⟩, performed, paid⟩ := pays
  have run : (opened 0).Run ([] ++ _ :: _) after :=
    (run_play (opened 0) claimedInOrder).step performed
  obtain ⟨_, settled, tidy⟩ :=
    owed_after_claim rfl run (decide_eq_true rfl) fun _ member => absurd member List.not_mem_nil
  exact ⟨after, receipt, performed, paid, (settled (tidy (by decide +kernel))).1⟩

/-- Two periods were closed, and history with a larger id lies in the place of the older one. -/
def importedAbove : List (Operation Pair) :=
  [.setCollateral .first (1000 * unit), .setShares .first 50 0, .setShares .second 50 0,
    .closeFromRelayer 10 1 10 10 100, .closeFromRelayer 20 2 10 10 100,
    .importPeriod 21 2 (migrated 7 100)]

/-- A staker that claims its half of such history can claim the other half too. -/
theorem not_owed_after_claim :
    ¬ ∀ (treasury : Treasury Pair) (later earlier : List (Step Pair)) (claim : Step Pair)
        (who : Pair), (opened 0).Run (later ++ claim :: earlier) treasury →
      claim.operation.claims who = true →
      (∀ step ∈ later, step.operation.closes = false ∧ step.operation.isImport = false) →
      treasury.ledger.owedByPeriod (treasury.stakers who).ownership
          (treasury.stakers who).lastClaimed = .ok #v[.zero, .zero, .zero] ∧
        ∀ operation, operation.claims who = true → ∀ outcome,
          treasury.perform operation ≠ .ok outcome := by
  intro settles
  have pays : (do
      let first ← ((opened 0).play importedAbove).2.perform (.claim .first (calmTerms 100))
      let second ← first.1.perform (.claim .first (calmTerms 100))
      return (first.2.paid .fees, second.2.paid .fees)) = .ok (50, 50) := by decide +kernel
  simp only [bind_eq_ok] at pays
  obtain ⟨⟨once, _⟩, first, twice, second, _⟩ := pays
  have run : (opened 0).Run ([] ++ _ :: _) once :=
    (run_play (opened 0) importedAbove).step first
  have own : (Operation.claim Pair.first (calmTerms 100)).claims .first = true := by decide
  obtain ⟨_, refuses⟩ := settles once _ _ _ .first run own
    fun _ member => absurd member List.not_mem_nil
  exact refuses _ own twice second

end Treasury

end FeeTreasury
