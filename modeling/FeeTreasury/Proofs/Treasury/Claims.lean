import FeeTreasury.Proofs.Crediting
import FeeTreasury.Proofs.Treasury.Conservation

/-!
# No period is paid twice

A staker's last claim never falls back, and a claim moves it to the youngest closed period. A claim
credits only periods after the last claim, so two claims of one staker never credit the same period,
and after a claim there is nothing to claim until a period closes
(`FeeTreasury.Treasury.paid_at_most_once`).
-/

namespace FeeTreasury

open Outcome

namespace Operation

variable {ι : Type}

/-- Whether the operation is a claim of a staker, by the staker or by a delegate. -/
def claims [DecidableEq ι] (who : ι) : Operation ι → Bool
  | .claim claimant _ | .claimOnBehalf claimant _ _ _ => claimant = who
  | _ => false

/-- Whether the operation closes the open period. -/
def closes : Operation ι → Bool
  | .close .. | .closeFromRelayer .. => true
  | _ => false

end Operation

namespace Treasury

variable {ι : Type}

/-- What a step adds to what was claimed of one kind of money from the period at an index. -/
def Step.credit (step : Step ι) (index : Nat) (purse : Purse) : Nat :=
  step.after.ledger.claimedAt index purse - step.before.ledger.claimedAt index purse

/-- The ids of the periods that a step credits something from. -/
def Step.credited (step : Step ι) : Set UInt64 :=
  {id | ∃ index < periodCount,
    (step.before.ledger.window index).id = id ∧ ∃ purse, 0 < step.credit index purse}

variable [DecidableEq ι] {start treasury after : Treasury ι} {receipt : Receipt} {who : ι}
  {history : List (Step ι)} {operation : Operation ι}

/-! ## What a step does to the last claim -/

/-- A claim of a staker that succeeds is a claim on its books. -/
theorem claim_of_perform (claims : operation.claims who = true)
    (performed : treasury.perform operation = .ok (after, receipt)) :
    ∃ terms total books, Claiming.claim terms ⟨treasury.ledger, treasury.stakers who⟩ =
        .ok total books ∧ receipt = .claimed total ∧
      after = { treasury.putStaker who books.staker with ledger := books.ledger } := by
  cases performs_of_perform performed with
  | @claim claimant terms total books claimed =>
    obtain rfl : claimant = who := of_decide_eq_true claims
    exact ⟨terms, total, books, claimed, rfl, rfl⟩
  | @claimOnBehalf claimant _ _ terms total books claimed =>
    obtain rfl : claimant = who := of_decide_eq_true claims
    exact ⟨terms, total, books, (Claiming.claimOnBehalf_eq_ok claimed).2, rfl, rfl⟩
  | _ => exact absurd claims Bool.false_ne_true

/-- What a claim of a staker does. -/
structure Step.Claims (step : Step ι) (who : ι) : Prop where
  timeline : step.after.ledger.timeline = step.before.ledger.timeline
  lastClaimed : (step.after.stakers who).lastClaimed = (step.before.ledger.window 1).id
  paid : ∀ purse,
    step.receipt.paid purse = ∑ index ∈ Finset.range periodCount, step.credit index purse
  /-- It credits from closed periods after the last claim, and no more than the staker's part. -/
  credit : ∀ index < periodCount, ∀ purse, 0 < step.credit index purse →
    index ≠ 0 ∧ (step.before.stakers who).lastClaimed < (step.before.ledger.window index).id ∧
      ∃ ratio, step.before.ledger.debtRatio (step.before.stakers who).ownership index = .ok ratio ∧
        step.credit index purse ≤
          ((step.before.ledger.window index).pot purse).total.toNat * ratio.toNat / unit.toNat

theorem claims_of_perform (claims : operation.claims who = true)
    (performed : treasury.perform operation = .ok (after, receipt)) :
    Step.Claims ⟨treasury, operation, after, receipt⟩ who := by
  obtain ⟨terms, total, books, claimed, rfl, rfl⟩ := claim_of_perform claims performed
  obtain ⟨owed, none, owes, added, sums, _, timeline, staker⟩ := Claiming.claim_owed claimed
  have credit : ∀ index < periodCount, ∀ purse,
      books.ledger.claimedAt index purse - treasury.ledger.claimedAt index purse =
        ((owed index).amount purse).toNat := fun index inside purse => by
    rw [added index inside purse, Nat.add_sub_cancel_left]
  have open_zero : ∀ purse, ((owed 0).amount purse).toNat = 0 := fun purse => by
    rw [none]
    exact Entitlement.toNat_amount_zero purse
  refine ⟨timeline, ?_, fun purse => ?_, fun index inside purse => ?_⟩
  · simp only [putStaker, Function.update_self, staker]
  · have parts := Finset.sum_congr rfl fun index member =>
      credit index (Finset.mem_range.mp member) purse
    refine ((sums purse).trans ?_).trans parts.symm
    simp only [periodCount, Finset.sum_range_succ, Finset.sum_range_zero, open_zero, Nat.zero_add]
  · simp only [Step.credit, credit index inside purse]
    intro something
    have closed : index ≠ 0 := by
      rintro rfl
      rw [open_zero] at something
      exact Nat.lt_irrefl 0 something
    obtain nothing | ⟨later, ratio, rated, within⟩ :=
      PeriodLedger.owedFor_eq_ok (owes index inside closed)
    · rw [nothing, Entitlement.toNat_amount_zero] at something
      exact absurd something (Nat.lt_irrefl 0)
    · exact ⟨closed, later, ratio, rated, within purse⟩

/-- A staker whose account is written back with the same last claim keeps it, as all others do. -/
theorem lastClaimed_putStaker (treasury : Treasury ι) {other : ι} {staker : Staker}
    (same : staker.lastClaimed = (treasury.stakers other).lastClaimed) (who : ι) :
    ((treasury.putStaker other staker).stakers who).lastClaimed =
      (treasury.stakers who).lastClaimed := by
  rcases eq_or_ne who other with rfl | different
  · simp only [putStaker, Function.update_self, same]
  · simp only [putStaker, Function.update_of_ne different]

theorem lastClaimed_putShareBooks {other : ι} {collateral balance : UInt64} {books : ShareBooks}
    {pool : RewardPool} {now : Int64}
    (changed : ({ treasury.shareBooks other with
      staker := { treasury.stakers other with collateral } } : ShareBooks).setShares pool
        balance now = .ok books) (who : ι) :
    ((treasury.putShareBooks other books).stakers who).lastClaimed =
      (treasury.stakers who).lastClaimed := by
  obtain ⟨_, _, _, staker⟩ := ShareBooks.setShares_staker changed
  exact lastClaimed_putStaker treasury (by rw [staker]) who

theorem lastClaimed_putStaker_of_ne (treasury : Treasury ι) {other : ι} (different : other ≠ who)
    (staker : Staker) :
    ((treasury.putStaker other staker).stakers who).lastClaimed =
      (treasury.stakers who).lastClaimed := by
  simp only [putStaker, Function.update_of_ne different.symm]

/-- Only a claim of its own changes the last claim of a staker. -/
theorem lastClaimed_of_perform (quiet : operation.claims who = false)
    (performed : treasury.perform operation = .ok (after, receipt)) :
    (after.stakers who).lastClaimed = (treasury.stakers who).lastClaimed := by
  cases performs_of_perform performed with
  | recordFee | recordReward | accrue | close | closeFromRelayer | importPeriod | deposit => rfl
  | setShares changed => exact lastClaimed_putShareBooks changed who
  | liquidate liquidated =>
    obtain ⟨_, _, changed⟩ := ShareBooks.liquidate_eq_ok liquidated
    exact lastClaimed_putShareBooks changed who
  | claim | claimOnBehalf =>
    exact lastClaimed_putStaker_of_ne treasury (of_decide_eq_false quiet) _
  | setCollateral | credit | takeReward => exact lastClaimed_putStaker treasury (by rfl) who

/-- Only a close changes which period is open. -/
theorem current_of_perform (free : operation.isImport = false) (stays : operation.closes = false)
    (performed : treasury.perform operation = .ok (after, receipt)) :
    after.ledger.current.id = treasury.ledger.current.id := by
  have accrued {ledger : PeriodLedger} {now : Int64} {supply : UInt64}
      (brought : treasury.ledger.accrue now supply = .ok ledger) :
      ledger.current.id = treasury.ledger.current.id :=
    congrArg FeePeriod.id (PeriodLedger.window_accrue brought 0)
  have same {ledger : PeriodLedger} (timeline : ledger.timeline = treasury.ledger.timeline) :
      ledger.current.id = treasury.ledger.current.id :=
    congrArg (fun line => (line.spans 0).id) timeline
  cases performs_of_perform performed with
  | recordFee recorded => exact same (PeriodLedger.timeline_recordFee recorded)
  | recordReward recorded => exact same (PeriodLedger.timeline_recordReward recorded)
  | accrue brought => exact accrued brought
  | setShares changed => exact accrued (ShareBooks.setShares_eq_ok changed).1
  | liquidate liquidated =>
    obtain ⟨_, _, changed⟩ := ShareBooks.liquidate_eq_ok liquidated
    exact accrued (ShareBooks.setShares_eq_ok changed).1
  | close | closeFromRelayer => simp only [Operation.closes, reduceCtorEq] at stays
  | @claim other terms =>
    have claims : (Operation.claim other terms).claims other = true := decide_eq_true rfl
    exact same (claims_of_perform claims performed).timeline
  | @claimOnBehalf other approval delegate terms =>
    have claims : (Operation.claimOnBehalf other approval delegate terms).claims other = true :=
      decide_eq_true rfl
    exact same (claims_of_perform claims performed).timeline
  | importPeriod => simp only [Operation.isImport, reduceCtorEq] at free
  | setCollateral | deposit | credit | takeReward => rfl

theorem current_le_of_perform (free : operation.isImport = false)
    (performed : treasury.perform operation = .ok (after, receipt)) :
    treasury.ledger.current.id ≤ after.ledger.current.id := by
  obtain ⟨_, _, _, course, _⟩ := course_of_perform free performed
  rw [UInt64.le_iff_toNat_le]
  cases course with
  | pass advances _ | change _ _ advances _ =>
    exact Nat.le_of_eq (congrArg (fun spans => (spans 0).id.toNat) advances.spans).symm
  | turn accrued advances turns _ =>
    refine Nat.le_of_lt (Nat.lt_of_lt_of_eq ?_ turns.next.symm)
    rw [advances.spans]
    exact Nat.lt_succ_self _

/-- The last claim of a staker does not fall back, and stays behind the open period. -/
theorem lastClaimed_le_of_perform (free : operation.isImport = false)
    (ordered : treasury.ledger.timeline.Ordered)
    (behind : (treasury.stakers who).lastClaimed < treasury.ledger.current.id)
    (performed : treasury.perform operation = .ok (after, receipt)) :
    (treasury.stakers who).lastClaimed ≤ (after.stakers who).lastClaimed ∧
      (after.stakers who).lastClaimed < after.ledger.current.id := by
  have later := current_le_of_perform free performed
  cases quiet : operation.claims who with
  | false =>
    rw [lastClaimed_of_perform quiet performed]
    exact ⟨UInt64.le_refl _, UInt64.lt_of_lt_of_le behind later⟩
  | true =>
    have youngest := (claims_of_perform quiet performed).lastClaimed
    have counted : (treasury.ledger.window 1).id.toNat = treasury.ledger.current.id.toNat - 1 :=
      ordered.ids 1 (by decide)
    have positive : 0 < treasury.ledger.current.id.toNat := ordered.open_pos
    simp only [UInt64.lt_iff_toNat_lt, UInt64.le_iff_toNat_le] at behind later ⊢
    rw [youngest, counted]
    omega

/-! ## Runs -/

/-- What holds of every step that a run without imports can take holds of every step it took. -/
theorem Run.forall_mem (run : start.Run history treasury) (free : ImportFree history)
    {holds : Step ι → Prop}
    (each : ∀ {earlier before operation after receipt}, start.Run earlier before →
      ImportFree earlier → operation.isImport = false →
      before.perform operation = .ok (after, receipt) →
        holds ⟨before, operation, after, receipt⟩) :
    ∀ step ∈ history, holds step := by
  induction run with
  | start => exact fun _ member => absurd member List.not_mem_nil
  | step run performed ih =>
    obtain ⟨imports, earlier⟩ := importFree_cons.mp free
    exact List.forall_mem_cons.mpr ⟨each run earlier imports performed, ih earlier⟩

theorem Run.lastClaimed_lt (run : start.Run history treasury) (free : ImportFree history)
    (ordered : start.ledger.timeline.Ordered)
    (behind : (start.stakers who).lastClaimed < start.ledger.current.id) :
    (treasury.stakers who).lastClaimed < treasury.ledger.current.id := by
  induction run with
  | start => exact behind
  | step run performed ih =>
    obtain ⟨imports, earlier⟩ := importFree_cons.mp free
    exact (lastClaimed_le_of_perform imports (run.ordered earlier ordered) (ih earlier)
      performed).2

/-- What the claims of a staker credited lies up to its last claim, and no period was credited by
two of them. -/
theorem Run.credited_disjoint (run : start.Run history treasury) (free : ImportFree history)
    (ordered : start.ledger.timeline.Ordered)
    (behind : (start.stakers who).lastClaimed < start.ledger.current.id) :
    (∀ step ∈ history, step.operation.claims who = true →
        ∀ id ∈ step.credited, id ≤ (treasury.stakers who).lastClaimed) ∧
      history.Pairwise fun later earlier => later.operation.claims who = true →
        earlier.operation.claims who = true → Disjoint later.credited earlier.credited := by
  induction run with
  | start => exact ⟨fun _ member => absurd member List.not_mem_nil, .nil⟩
  | @step history before after operation receipt run performed ih =>
    obtain ⟨imports, earlier⟩ : operation.isImport = false ∧ ImportFree history :=
      importFree_cons.mp free
    obtain ⟨past, disjoint⟩ := ih earlier
    have sorted := run.ordered earlier ordered
    have forward := (lastClaimed_le_of_perform imports sorted
      (run.lastClaimed_lt earlier ordered behind) performed).1
    refine ⟨List.forall_mem_cons.mpr ⟨?_, ?_⟩, List.pairwise_cons.mpr ⟨?_, disjoint⟩⟩
    · rintro claims id ⟨index, inside, rfl, purse, something⟩
      have credits := claims_of_perform claims performed
      obtain ⟨closed, _, _⟩ := credits.credit index inside purse something
      have counted := sorted.ids index inside
      have youngest := sorted.ids 1 (by decide)
      rw [credits.lastClaimed, UInt64.le_iff_toNat_le]
      refine Nat.le_trans (Nat.le_of_eq counted) (Nat.le_trans ?_ (Nat.le_of_eq youngest.symm))
      omega
    · exact fun step member claims id credited =>
        UInt64.le_trans (past step member claims id credited) forward
    · intro step member claims claimed
      rw [Set.disjoint_left]
      rintro id ⟨index, inside, rfl, purse, something⟩ credited
      obtain ⟨_, later, _⟩ := (claims_of_perform claims performed).credit index inside purse
        something
      exact UInt64.not_le.mpr later (past step member claimed _ credited)

/-- After a claim of a staker, and as long as no period closes, every closed period lies before its
last claim. -/
theorem Run.settled {later earlier : List (Step ι)} {claim : Step ι}
    (run : start.Run (later ++ claim :: earlier) treasury)
    (free : ImportFree (later ++ claim :: earlier)) (ordered : start.ledger.timeline.Ordered)
    (behind : (start.stakers who).lastClaimed < start.ledger.current.id)
    (claims : claim.operation.claims who = true)
    (still : ∀ step ∈ later, step.operation.closes = false) :
    (⟨treasury.ledger, treasury.stakers who⟩ : ClaimBooks).Settled := by
  have sorted := run.ordered free ordered
  have youngest : (treasury.ledger.window 1).id ≤ (treasury.stakers who).lastClaimed := by
    induction later generalizing treasury with
    | nil =>
      cases run with
      | step run performed =>
        have credits := claims_of_perform claims performed
        have same := congrArg (fun line => (line.spans 1).id) credits.timeline
        exact UInt64.le_of_eq (same.trans credits.lastClaimed.symm)
    | cons step rest ih =>
      cases run with
      | step run performed =>
        obtain ⟨imports, free⟩ := importFree_cons.mp free
        obtain ⟨stays, still⟩ := List.forall_mem_cons.mp still
        have before := run.ordered free ordered
        have settled := ih run free still before
        have forward := (lastClaimed_le_of_perform imports before
          (run.lastClaimed_lt free ordered behind) performed).1
        refine UInt64.le_trans (UInt64.le_of_eq ?_) (UInt64.le_trans settled forward)
        have current := congrArg UInt64.toNat (current_of_perform imports stays performed)
        rw [← UInt64.toNat_inj]
        exact (sorted.ids 1 (by decide)).trans
          ((congrArg (· - 1) current).trans (before.ids 1 (by decide)).symm)
  intro index inside closed
  refine UInt64.le_trans (UInt64.le_iff_toNat_le.mpr ?_) youngest
  show (treasury.ledger.window index).id.toNat ≤ _
  have counted : (treasury.ledger.window index).id.toNat =
      treasury.ledger.current.id.toNat - index := sorted.ids index inside
  have first : (treasury.ledger.window 1).id.toNat = treasury.ledger.current.id.toNat - 1 :=
    sorted.ids 1 (by decide)
  omega

/-- No claim of a staker succeeds while every closed period lies before its last claim. -/
theorem perform_ne_ok_of_settled
    (settled : (⟨treasury.ledger, treasury.stakers who⟩ : ClaimBooks).Settled)
    (claims : operation.claims who = true) (outcome : Treasury ι × Receipt) :
    treasury.perform operation ≠ .ok outcome := by
  intro performed
  obtain ⟨_, _, _, claimed, _⟩ := claim_of_perform claims performed
  exact Claiming.not_claim_of_settled settled claimed

/-- A claim that is settled and would be admitted finds nothing, also if a delegate makes it. -/
theorem perform_of_settled {terms : ClaimTerms}
    (settled : (⟨treasury.ledger, treasury.stakers who⟩ : ClaimBooks).Settled)
    (admits : (⟨treasury.ledger, treasury.stakers who⟩ : ClaimBooks).Admits terms) :
    treasury.perform (.claim who terms) = .error (.refused .nothingToClaim) ∧
      ∀ approval delegate, approval.permits (treasury.stakers who).owner delegate = true →
        treasury.perform (.claimOnBehalf who approval delegate terms) =
          .error (.refused .nothingToClaim) := by
  have nothing := Claiming.claim_of_settled settled admits
  refine ⟨?_, fun approval delegate permits => ?_⟩
  · simp only [perform, settleClaim, nothing]
  · have same : Claiming.claimOnBehalf approval delegate terms
        ⟨treasury.ledger, treasury.stakers who⟩ =
          Claiming.claim terms ⟨treasury.ledger, treasury.stakers who⟩ :=
      Claiming.claimOnBehalf_of_permits permits terms
    simp only [perform, settleClaim, same, nothing]

/-- **No period is paid twice.** In a run without imports from a new ledger, the last claim of a
staker that joins it stays behind the open period and never falls back. The staker's claims credit
different periods, they pay what they credit, and from each period they credit no more than the
staker's part. After a claim no other succeeds until a period closes: if it is admitted, there is
nothing to claim. -/
theorem paid_at_most_once {now created : Int64} {bump seed : UInt8} {owner : Key}
    (opened : start.ledger = PeriodLedger.new now bump)
    (joined : start.stakers who = Staker.new owner seed created)
    (run : start.Run history treasury) (free : ImportFree history) :
    (treasury.stakers who).lastClaimed < treasury.ledger.current.id ∧
      (∀ step ∈ history,
        (step.before.stakers who).lastClaimed ≤ (step.after.stakers who).lastClaimed) ∧
      (history.Pairwise fun later earlier => later.operation.claims who = true →
        earlier.operation.claims who = true → Disjoint later.credited earlier.credited) ∧
      (∀ step ∈ history, step.operation.claims who = true → ∀ purse,
        step.receipt.paid purse = ∑ index ∈ Finset.range periodCount, step.credit index purse ∧
        ∀ index < periodCount, 0 < step.credit index purse → ∃ ratio,
          step.before.ledger.debtRatio (step.before.stakers who).ownership index = .ok ratio ∧
          step.credit index purse ≤
            ((step.before.ledger.window index).pot purse).total.toNat * ratio.toNat /
              unit.toNat) ∧
      ∀ later claim earlier, history = later ++ claim :: earlier →
        claim.operation.claims who = true →
        (∀ step ∈ later, step.operation.closes = false) →
        (∀ operation, operation.claims who = true → ∀ outcome,
          treasury.perform operation ≠ .ok outcome) ∧
        ∀ terms, (⟨treasury.ledger, treasury.stakers who⟩ : ClaimBooks).Admits terms →
          treasury.perform (.claim who terms) = .error (.refused .nothingToClaim) ∧
          ∀ approval delegate, approval.permits (treasury.stakers who).owner delegate = true →
            treasury.perform (.claimOnBehalf who approval delegate terms) =
              .error (.refused .nothingToClaim) := by
  have ordered : start.ledger.timeline.Ordered :=
    opened ▸ PeriodLedger.timeline_new_ordered now bump
  have behind : (start.stakers who).lastClaimed < start.ledger.current.id := by
    rw [joined, UInt64.lt_iff_toNat_lt]
    exact ordered.open_pos
  refine ⟨run.lastClaimed_lt free ordered behind, ?_,
    (run.credited_disjoint free ordered behind).2, ?_, ?_⟩
  · exact run.forall_mem free fun earlier free imports performed =>
      (lastClaimed_le_of_perform imports (earlier.ordered free ordered)
        (earlier.lastClaimed_lt free ordered behind) performed).1
  · refine run.forall_mem free fun earlier free imports performed claims purse => ?_
    have credits := claims_of_perform claims performed
    exact ⟨credits.paid purse, fun index inside something =>
      (credits.credit index inside purse something).2.2⟩
  · rintro later claim earlier rfl claims still
    have settled := run.settled free ordered behind claims still
    exact ⟨fun operation claims => perform_ne_ok_of_settled settled claims,
      fun terms admits => perform_of_settled settled admits⟩

/-- A staker claims its part of a first period, and a delegate claims that of a second one. -/
def claimedTwice : List (Operation Pair) :=
  [.setCollateral .first (1000 * unit), .setShares .first 50 0, .setShares .second 50 0,
    .recordFee 91, .closeFromRelayer 10 1 10 10 100, .claim .first (calmTerms 100), .recordFee 40,
    .closeFromRelayer 20 2 10 10 100,
    .claimOnBehalf .first (Approval.new Key.zero Key.zero true 255) Key.zero (calmTerms 100)]

theorem paid_at_most_once_claimedTwice :
    paid ((opened 0).play claimedTwice).1 .fees = 65 ∧
      (((opened 0).play claimedTwice).2.stakers .first).lastClaimed <
        ((opened 0).play claimedTwice).2.ledger.current.id ∧
      ((opened 0).play claimedTwice).1.Pairwise fun later earlier =>
        later.operation.claims Pair.first = true → earlier.operation.claims Pair.first = true →
          Disjoint later.credited earlier.credited := by
  obtain ⟨behind, _, disjoint, _⟩ :=
    paid_at_most_once rfl rfl (run_play (opened 0) claimedTwice) (by decide +kernel)
  exact ⟨by decide +kernel, behind, disjoint⟩

end Treasury

end FeeTreasury
