import FeeTreasury.Proofs.Ownership.Integral
import FeeTreasury.Proofs.Treasury.Likeness

/-!
# A close and a change of a balance at one time

A close and a new balance at the same time can come in either order. The order decides where the
change is written down: before the close it folds into the period that closes, after it, it starts
an entry of the next period. So the logs differ, but both follow the timeline with the same
share-seconds, and nothing that the treasury does depends on a log by more than that. Logs that
follow the timeline alike can stand in for each other (`FeeTreasury.Treasury.StandIns`): what
succeeds with the one succeeds with the other, hands out the same, and leaves logs that can stand in
for each other again (`FeeTreasury.Treasury.StandIns.step`). So the two orders give the same ledger
and the same registry, and every staker the same share-seconds and the same part of the debt from
then on (`FeeTreasury.Treasury.close_setShares_comm`).
-/

namespace FeeTreasury

open Outcome

/-- The staker with another log. -/
def Staker.relog (staker : Staker) (log : OwnershipLog) : Staker := { staker with ownership := log }

/-! ## Rules with another log -/

theorem Claiming.claim_relog {books after : ClaimBooks} {terms : ClaimTerms} {total : Entitlement}
    (log : OwnershipLog)
    (owed : books.ledger.owedByPeriod log books.staker.lastClaimed =
      books.ledger.owedByPeriod books.staker.ownership books.staker.lastClaimed)
    (claimed : claim terms books = .ok total after) :
    claim terms ⟨books.ledger, books.staker.relog log⟩ =
      .ok total ⟨after.ledger, after.staker.relog log⟩ := by
  obtain ⟨_, _, _, _, assessed, listed, summed, something, marked, staker⟩ := claim_eq_ok claimed
  obtain ⟨admits, owes⟩ := ClaimBooks.assess_eq_ok.mp assessed
  obtain ⟨_, _, _, _, _, _, rfl⟩ := PeriodLedger.owedByPeriod_eq_ok.mp owes
  simp only [Vector.toList_mk, List.cons.injEq, and_true] at listed
  obtain ⟨rfl, rfl, rfl⟩ := listed
  have reassessed : (⟨books.ledger, books.staker.relog log⟩ : ClaimBooks).assess terms =
      .ok #v[_, _, _] := ClaimBooks.assess_eq_ok.mpr ⟨admits, owed.trans owes⟩
  rw [claim_of_markAll reassessed summed something marked, staker]
  rfl

theorem Claiming.claimOnBehalf_relog {books after : ClaimBooks} {approval : Approval}
    {delegate : Key} {terms : ClaimTerms} {total : Entitlement} (log : OwnershipLog)
    (owed : books.ledger.owedByPeriod log books.staker.lastClaimed =
      books.ledger.owedByPeriod books.staker.ownership books.staker.lastClaimed)
    (claimed : claimOnBehalf approval delegate terms books = .ok total after) :
    claimOnBehalf approval delegate terms ⟨books.ledger, books.staker.relog log⟩ =
      .ok total ⟨after.ledger, after.staker.relog log⟩ := by
  obtain ⟨permits, claimed⟩ := claimOnBehalf_eq_ok claimed
  exact (@claimOnBehalf_of_permits ⟨books.ledger, books.staker.relog log⟩ _ _ permits terms).trans
    (claim_relog log owed claimed)

/-- A change that succeeds also succeeds on another ledger and with another log, if that ledger can
be brought forward and the log records the new balance there. -/
theorem ShareBooks.setShares_at {books after : ShareBooks} {pool : RewardPool} {balance : UInt64}
    {now : Int64} {ledger brought : PeriodLedger} {log changed : OwnershipLog}
    (set : books.setShares pool balance now = .ok after)
    (accrued : ledger.accrue now books.registry.supply = .ok brought)
    (recorded : log.recordChange now brought.current brought.ownershipIndex
      after.staker.shares after.registry.supply = .ok changed) :
    (⟨ledger, books.registry, books.staker.relog log⟩ : ShareBooks).setShares pool balance now =
      .ok ⟨brought, after.registry, after.staker.relog changed⟩ := by
  simp only [setShares, bind_eq_ok, pure_eq_ok] at set ⊢
  obtain ⟨_, _, rewards, credited, u, enough, supply, summed, _, _, rfl⟩ := set
  exact ⟨brought, accrued, rewards, credited, u, enough, supply, summed, changed, recorded, rfl⟩

theorem ShareBooks.setShares_relog {books after : ShareBooks} {pool : RewardPool}
    {balance : UInt64} {now : Int64} (log : OwnershipLog) {changed : OwnershipLog}
    (set : books.setShares pool balance now = .ok after)
    (recorded : log.recordChange now after.ledger.current after.ledger.ownershipIndex
      after.staker.shares after.registry.supply = .ok changed) :
    ({ books with staker := books.staker.relog log } : ShareBooks).setShares pool balance now =
      .ok { after with staker := after.staker.relog changed } :=
  setShares_at set (setShares_eq_ok set).1 recorded

theorem ShareBooks.liquidate_relog {books after : ShareBooks} {pool left : RewardPool}
    {plan : LiquidationPlan} {now : Int64} (log : OwnershipLog) {changed : OwnershipLog}
    (liquidated : books.liquidate pool plan now = .ok (after, left))
    (recorded : log.recordChange now after.ledger.current after.ledger.ownershipIndex
      after.staker.shares after.registry.supply = .ok changed) :
    ({ books with staker := books.staker.relog log } : ShareBooks).liquidate pool plan now =
      .ok ({ after with staker := after.staker.relog changed }, left) := by
  obtain ⟨enough, balance, burned, set, deposited⟩ := liquidate_parts liquidated
  have again := setShares_relog log set recorded
  simp only [liquidate, bind_eq_ok, pure_eq_ok, require_eq_ok, decide_eq_true_eq, exists_const]
  exact ⟨enough, balance, burned, _, again, left, deposited, rfl⟩

/-- At the start of a period, a log of earlier ones has room for a change. -/
theorem OwnershipLog.Kept.answers_recordChange_opened {log : OwnershipLog} {upTo : UInt64}
    {period : FeePeriod} {index : UInt128} {shares supply : UInt64} (kept : log.Kept upTo)
    (later : upTo < period.id) (opened : period.startingIndex = index)
    (told : Answers (fractionOf shares supply)) (now : Int64) :
    Answers (log.recordChange now period index shares supply) := by
  refine answers_recordChange (kept.mono (UInt64.le_of_lt later)) told ?_ now
  rw [opened, kept.secondsIn_of_lt later]
  decide

namespace Treasury

variable {ι : Type}

/-- The treasury with another log for each staker. -/
def relog (treasury : Treasury ι) (logs : ι → OwnershipLog) : Treasury ι :=
  { treasury with stakers := fun who => (treasury.stakers who).relog (logs who) }

/-- Logs that can stand in for the stakers' own: both follow the timeline, with the same balance in
force and the same share-seconds gathered. -/
structure StandIns (treasury : Treasury ι) (logs : ι → OwnershipLog) : Prop where
  ordered : treasury.ledger.timeline.Ordered
  follows : ∀ who, ∃ gathered,
    (treasury.stakers who).ownership.Follows treasury.ledger.timeline
        (treasury.stakers who).shares gathered ∧
      (logs who).Follows treasury.ledger.timeline (treasury.stakers who).shares gathered

namespace StandIns

variable {treasury after : Treasury ι} {logs : ι → OwnershipLog} {ledger : PeriodLedger}

/-- The stakers' own logs can stand in for those that can stand in for them. -/
theorem symm (stands : treasury.StandIns logs) :
    (treasury.relog logs).StandIns fun who => (treasury.stakers who).ownership where
  ordered := stands.ordered
  follows who := by
    obtain ⟨gathered, own, other⟩ := stands.follows who
    exact ⟨gathered, other, own⟩

/-! ### What both logs answer -/

theorem shareSecondsIn_eq (stands : treasury.StandIns logs) (who : ι) {index : Nat}
    (inside : index < periodCount) (closed : index ≠ 0) :
    (logs who).shareSecondsIn (treasury.ledger.window index) =
      (treasury.stakers who).ownership.shareSecondsIn (treasury.ledger.window index) := by
  obtain ⟨gathered, own, other⟩ := stands.follows who
  cases inhabited : (treasury.ledger.window index).isEmpty with
  | true => simp only [OwnershipLog.shareSecondsIn, inhabited, ↓reduceIte]
  | false =>
    rw [OwnershipLog.shareSecondsIn_eq_fit128 _ inhabited,
      OwnershipLog.shareSecondsIn_eq_fit128 _ inhabited]
    exact congrArg fit128 ((other.closed index inside closed).trans
      (own.closed index inside closed).symm)

theorem debtRatio_eq (stands : treasury.StandIns logs) (who : ι) (index : Nat) :
    treasury.ledger.debtRatio (logs who) index =
      treasury.ledger.debtRatio (treasury.stakers who).ownership index :=
  PeriodLedger.debtRatio_congr rfl
    (fun _ inside closed => stands.shareSecondsIn_eq who inside closed) index

theorem owedByPeriod_eq (stands : treasury.StandIns logs) (who : ι) (lastClaimed : UInt64) :
    treasury.ledger.owedByPeriod (logs who) lastClaimed =
      treasury.ledger.owedByPeriod (treasury.stakers who).ownership lastClaimed :=
  PeriodLedger.owedByPeriod_congr rfl fun _ inside closed =>
    stands.shareSecondsIn_eq who inside closed

/-- A change that the one log records, the other records too. -/
theorem recordChange (stands : treasury.StandIns logs) {who : ι} {now : Int64}
    {balance supply : UInt64} {changed : OwnershipLog}
    (recorded : (treasury.stakers who).ownership.recordChange now treasury.ledger.current
      treasury.ledger.ownershipIndex balance supply = .ok changed) :
    Answers ((logs who).recordChange now treasury.ledger.current treasury.ledger.ownershipIndex
      balance supply) := by
  obtain ⟨gathered, own, other⟩ := stands.follows who
  obtain ⟨told, fits⟩ := OwnershipLog.fits_of_recordChange own.kept recorded
  have same := other.opened.trans own.opened.symm
  exact OwnershipLog.answers_recordChange other.kept told
    (Nat.lt_of_le_of_lt (Nat.le_of_eq same) fits) now

/-! ### What keeps logs in their place -/

/-- What leaves time and shares alone. -/
theorem keep (stands : treasury.StandIns logs)
    (timeline : after.ledger.timeline = treasury.ledger.timeline)
    (steady : treasury.Steady after) : after.StandIns logs where
  ordered := timeline ▸ stands.ordered
  follows who := by
    rw [timeline, steady.ownership, steady.shares]
    exact stands.follows who

theorem advance {supply growth seconds : Nat} (stands : treasury.StandIns logs)
    (advances : treasury.ledger.timeline.Advances ledger.timeline supply growth seconds) :
    ({ treasury with ledger } : Treasury ι).StandIns logs where
  ordered := stands.ordered.advance advances
  follows who := by
    obtain ⟨_, own, other⟩ := stands.follows who
    exact ⟨_, own.advance stands.ordered advances fun _ => rfl,
      other.advance stands.ordered advances fun _ => rfl⟩

theorem turn (stands : treasury.StandIns logs)
    (turns : treasury.ledger.timeline.Turns ledger.timeline) :
    ({ treasury with ledger } : Treasury ι).StandIns logs where
  ordered := stands.ordered.turn turns
  follows who := by
    obtain ⟨gathered, own, other⟩ := stands.follows who
    exact ⟨gathered, own.turn turns, other.turn turns⟩

theorem rotate (stands : treasury.StandIns logs) {now duration : Int64} {supply id : UInt64}
    (rotated : treasury.ledger.rotate now duration supply = .ok (ledger, id)) :
    ({ treasury with ledger } : Treasury ι).StandIns logs := by
  obtain ⟨accrued, _, _, advances, turns⟩ := PeriodLedger.timeline_rotate rotated
  exact (stands.advance advances).turn turns

variable [DecidableEq ι]

/-- A new balance, recorded in the staker's own log and in the one that stands in for it. -/
theorem change (stands : treasury.StandIns logs) {who : ι} {staker : Staker} {now : Int64}
    {supply : UInt64} {changed : OwnershipLog} (registry : ShareRegistry) (pool : RewardPool)
    (recorded : (treasury.stakers who).ownership.recordChange now treasury.ledger.current
      treasury.ledger.ownershipIndex staker.shares supply = .ok staker.ownership)
    (rerecorded : (logs who).recordChange now treasury.ledger.current
      treasury.ledger.ownershipIndex staker.shares supply = .ok changed) :
    ({ treasury.putStaker who staker with registry, pool } : Treasury ι).StandIns
      (Function.update logs who changed) where
  ordered := stands.ordered
  follows other := by
    obtain ⟨gathered, own, stand⟩ := stands.follows other
    rcases eq_or_ne other who with rfl | different
    · simp only [putStaker, Function.update_self]
      exact ⟨gathered,
        own.change stands.ordered rfl (OwnershipLog.recordChange_eq_ok own.kept recorded),
        stand.change stands.ordered rfl (OwnershipLog.recordChange_eq_ok stand.kept rerecorded)⟩
    · simp only [putStaker, Function.update_of_ne different]
      exact ⟨gathered, own, stand⟩

/-- A new balance that is set with the staker's own log is recorded in the other log as well. -/
theorem setShares (stands : treasury.StandIns logs) {who : ι} {staker : Staker} {balance : UInt64}
    {now : Int64} {books : ShareBooks}
    (set : (⟨treasury.ledger, treasury.registry, staker⟩ : ShareBooks).setShares treasury.pool
      balance now = .ok books) (own : staker.ownership = (treasury.stakers who).ownership) :
    ∃ record, (logs who).recordChange now books.ledger.current books.ledger.ownershipIndex
        books.staker.shares books.registry.supply = .ok record ∧
      ∀ pool, ({ treasury.putShareBooks who books with pool } : Treasury ι).StandIns
        (Function.update logs who record) := by
  obtain ⟨accrued, logged, _, _, shares⟩ := ShareBooks.setShares_eq_ok set
  obtain ⟨_, _, advances⟩ := PeriodLedger.timeline_accrue accrued
  have advanced := stands.advance advances
  rw [← shares, own] at logged
  obtain ⟨record, recorded⟩ := advanced.recordChange logged
  exact ⟨record, recorded, fun pool => advanced.change books.registry pool logged recorded⟩

end StandIns

/-! ## Runs with other logs -/

variable [DecidableEq ι] {treasury after : Treasury ι} {logs : ι → OwnershipLog}
  {operation : Operation ι} {receipt : Receipt}

theorem relog_putStaker (treasury : Treasury ι) (logs : ι → OwnershipLog) (who : ι)
    (staker : Staker) (log : OwnershipLog) :
    (treasury.relog logs).putStaker who (staker.relog log) =
      (treasury.putStaker who staker).relog (Function.update logs who log) := by
  simp only [relog, putStaker, mk.injEq, true_and]
  funext other
  rcases eq_or_ne other who with rfl | different
  · simp only [Function.update_self]
  · simp only [Function.update_of_ne different]

theorem relog_putStaker_self (treasury : Treasury ι) (logs : ι → OwnershipLog) (who : ι)
    (staker : Staker) :
    (treasury.relog logs).putStaker who (staker.relog (logs who)) =
      (treasury.putStaker who staker).relog logs := by
  rw [relog_putStaker, Function.update_eq_self]

theorem relog_putShareBooks (treasury : Treasury ι) (logs : ι → OwnershipLog) (who : ι)
    (books : ShareBooks) (log : OwnershipLog) :
    (treasury.relog logs).putShareBooks who { books with staker := books.staker.relog log } =
      (treasury.putShareBooks who books).relog (Function.update logs who log) := by
  unfold putShareBooks
  rw [relog_putStaker]
  rfl

/-- A step that succeeds with the stakers' own logs succeeds with those that can stand in for them,
and hands out the same. The logs that it leaves can stand in for each other. -/
theorem StandIns.step (stands : treasury.StandIns logs) (free : operation.isImport = false)
    (performed : treasury.perform operation = .ok (after, receipt)) :
    ∃ left, (treasury.relog logs).Performs operation (after.relog left) receipt ∧
      after.StandIns left := by
  -- What does not depend on the time leaves the logs as they are.
  have kept (untimed : operation.time = none) : after.StandIns logs :=
    stands.keep (stands_of_perform untimed performed).1 (stands_of_perform untimed performed).2
  cases performs_of_perform performed with
  | recordFee recorded => exact ⟨logs, .recordFee recorded, kept rfl⟩
  | recordReward recorded => exact ⟨logs, .recordReward recorded, kept rfl⟩
  | accrue accrued =>
    obtain ⟨_, _, advances⟩ := PeriodLedger.timeline_accrue accrued
    exact ⟨logs, .accrue accrued, stands.advance advances⟩
  | @setShares who balance now books changed =>
    obtain ⟨record, recorded, stand⟩ := stands.setShares changed rfl
    refine ⟨Function.update logs who record, ?_, stand treasury.pool⟩
    have relogged := ShareBooks.setShares_relog (logs who) changed recorded
    have again : (treasury.relog logs).Performs (.setShares who balance now)
        ((treasury.relog logs).putShareBooks who
          { books with staker := books.staker.relog record }) _ := .setShares relogged
    rw [relog_putShareBooks] at again
    exact again
  | @liquidate who plan now books pool liquidated =>
    obtain ⟨_, _, _, changed, _⟩ := ShareBooks.liquidate_parts liquidated
    obtain ⟨record, recorded, stand⟩ := stands.setShares changed rfl
    refine ⟨Function.update logs who record, ?_, stand pool⟩
    have again : (treasury.relog logs).Performs _
        { (treasury.relog logs).putShareBooks who
          { books with staker := books.staker.relog record } with pool } _ :=
      .liquidate (ShareBooks.liquidate_relog (logs who) liquidated recorded)
    rw [relog_putShareBooks] at again
    exact again
  | close closed =>
    obtain ⟨_, rotated⟩ := PeriodLedger.rotate_of_closeCurrent closed
    exact ⟨logs, .close closed, stands.rotate rotated⟩
  | closeFromRelayer closed =>
    obtain ⟨_, rotated⟩ := PeriodLedger.rotate_of_closeFromRelayer closed
    exact ⟨logs, .closeFromRelayer closed, stands.rotate rotated⟩
  | @claim who terms total books claimed =>
    refine ⟨logs, ?_, kept rfl⟩
    have relogged := Claiming.claim_relog (logs who) (stands.owedByPeriod_eq who _) claimed
    have again : (treasury.relog logs).Performs (.claim who terms)
        { (treasury.relog logs).putStaker who (books.staker.relog (logs who)) with
          ledger := books.ledger } (.claimed total) :=
      @Performs.claim _ _ (treasury.relog logs) who terms total
        ⟨books.ledger, books.staker.relog (logs who)⟩ relogged
    rw [relog_putStaker_self] at again
    exact again
  | @claimOnBehalf who approval delegate terms total books claimed =>
    refine ⟨logs, ?_, kept rfl⟩
    have relogged := Claiming.claimOnBehalf_relog (logs who) (stands.owedByPeriod_eq who _) claimed
    have again : (treasury.relog logs).Performs (.claimOnBehalf who approval delegate terms)
        { (treasury.relog logs).putStaker who (books.staker.relog (logs who)) with
          ledger := books.ledger } (.claimed total) :=
      @Performs.claimOnBehalf _ _ (treasury.relog logs) who approval delegate terms total
        ⟨books.ledger, books.staker.relog (logs who)⟩ relogged
    rw [relog_putStaker_self] at again
    exact again
  | importPeriod => simp only [Operation.isImport, reduceCtorEq] at free
  | setCollateral who collateral =>
    refine ⟨logs, ?_, kept rfl⟩
    rw [← relog_putStaker_self]
    exact .setCollateral who collateral
  | deposit deposited => exact ⟨logs, .deposit deposited, kept rfl⟩
  | credit credited =>
    refine ⟨logs, ?_, kept rfl⟩
    rw [← relog_putStaker_self]
    exact .credit credited
  | @takeReward who pool rewards _ taken =>
    refine ⟨logs, ?_, kept rfl⟩
    have again : (treasury.relog logs).Performs _
        { (treasury.relog logs).putStaker who
          (Staker.relog { treasury.stakers who with rewards } (logs who)) with pool } _ :=
      .takeReward taken
    rw [relog_putStaker_self] at again
    exact again

/-- What a step was asked and what it handed out. -/
def Step.exchange (step : Step ι) : Operation ι × Receipt := (step.operation, step.receipt)

/-- A run that succeeds with the stakers' own logs succeeds with those that can stand in for them,
and hands out the same. -/
theorem StandIns.run {later : List (Step ι)} {last : Treasury ι} (stands : treasury.StandIns logs)
    (run : treasury.Run later last) (free : ImportFree later) :
    ∃ relater left, (treasury.relog logs).Run relater (last.relog left) ∧
      relater.map Step.exchange = later.map Step.exchange ∧ last.StandIns left := by
  induction run with
  | start => exact ⟨[], logs, .start, rfl, stands⟩
  | @step _ _ _ operation receipt _ performed ih =>
    obtain ⟨imports, earlier⟩ := importFree_cons.mp free
    obtain ⟨relater, _, rerun, same, stands⟩ := ih earlier
    obtain ⟨left, performs, stands⟩ := stands.step imports performed
    exact ⟨_, left, rerun.step performs.perform, congrArg ((operation, receipt) :: ·) same, stands⟩

omit [DecidableEq ι] in
/-- Two treasuries with the same ledger and the same registry, where every staker has the same
share-seconds in every closed period that is retained, and the same part of the debt. -/
structure Agrees (a b : Treasury ι) : Prop where
  ledger : b.ledger = a.ledger
  registry : b.registry = a.registry
  shareSeconds : ∀ who, ∀ index < periodCount, index ≠ 0 →
    (b.stakers who).ownership.shareSecondsIn (b.ledger.window index) =
      (a.stakers who).ownership.shareSecondsIn (a.ledger.window index)
  debtRatio : ∀ who index, b.ledger.debtRatio (b.stakers who).ownership index =
    a.ledger.debtRatio (a.stakers who).ownership index

/-- However a treasury goes on without imports, the other can go on in the same way: it carries out
the same operations, hands out the same, and agrees with it then. An import would give a period any
number, one of which only one of two logs may have an entry. -/
def Shadows (a b : Treasury ι) : Prop :=
  ∀ later last, a.Run later last → ImportFree later → ∃ relater relast, b.Run relater relast ∧
    relater.map Step.exchange = later.map Step.exchange ∧ last.Agrees relast

/-- Logs that can stand in for the stakers' own do so from then on. -/
theorem StandIns.shadows (stands : treasury.StandIns logs) :
    treasury.Shadows (treasury.relog logs) := by
  intro later last run free
  obtain ⟨relater, left, rerun, same, stands⟩ := stands.run run free
  exact ⟨relater, _, rerun, same, rfl, rfl,
    fun who _ inside closed => stands.shareSecondsIn_eq who inside closed, stands.debtRatio_eq⟩

end Treasury

/-! ## Closes of either kind -/

/-- A close, by anyone or by the relayer, at a time and with a supply that are still open. -/
inductive Close where
  | byAnyone (duration : Int64)
  | byRelayer (id : UInt64) (duration configured : Int64)

namespace Close

variable {close : Close} {ledger other after : PeriodLedger} {now : Int64} {supply late id : UInt64}

/-- The close as a request. -/
def operation {ι : Type} (close : Close) (now : Int64) (supply : UInt64) : Operation ι :=
  match close with
  | byAnyone duration => .close now duration supply
  | byRelayer id duration configured => .closeFromRelayer now id duration configured supply

/-- The close of a ledger, with the id of the closed period. -/
def carryOut (close : Close) (ledger : PeriodLedger) (now : Int64) (supply : UInt64) :
    Outcome (PeriodLedger × UInt64) :=
  match close with
  | byAnyone duration => ledger.closeCurrent now duration supply
  | byRelayer id duration configured =>
    ledger.closeFromRelayer now id duration configured supply

theorem rotate_of_carryOut (closed : close.carryOut ledger now supply = .ok (after, id)) :
    ∃ elapsed, ledger.rotate now elapsed supply = .ok (after, id) := by
  cases close with
  | byAnyone => exact PeriodLedger.rotate_of_closeCurrent closed
  | byRelayer => exact PeriodLedger.rotate_of_closeFromRelayer closed

theorem carryOut_of_accrue (close : Close)
    (brought : ledger.accrue now supply = other.accrue now late)
    (opened : ledger.current = other.current) :
    close.carryOut ledger now supply = close.carryOut other now late := by
  cases close with
  | byAnyone => exact PeriodLedger.closeCurrent_of_accrue brought opened
  | byRelayer => exact PeriodLedger.closeFromRelayer_of_accrue brought opened

theorem perform_operation {ι : Type} [DecidableEq ι] {treasury closed : Treasury ι}
    {receipt : Receipt} :
    treasury.perform (close.operation now supply) = .ok (closed, receipt) ↔
      ∃ ledger id, close.carryOut treasury.ledger now supply = .ok (ledger, id) ∧
        closed = { treasury with ledger } ∧ receipt = .closed id := by
  have performed : treasury.perform (close.operation now supply) = do
      let closed ← close.carryOut treasury.ledger now supply
      return ({ treasury with ledger := closed.1 }, .closed closed.2) := by
    cases close <;> rfl
  simp only [performed, bind_eq_ok, pure_eq_ok, Prod.mk.injEq, Prod.exists]
  simp only [eq_comm]

end Close

namespace PeriodLedger

variable {ledger after : PeriodLedger} {now : Int64} {supply : UInt64}

/-- There is nothing to accrue up to a time that has been reached. -/
theorem accrue_of_le (reached : now ≤ ledger.lastAccrual) (supply : UInt64) :
    ledger.accrue now supply = .ok ledger :=
  if_pos reached

theorem le_lastAccrual_of_accrue (accrued : ledger.accrue now supply = .ok after) :
    now ≤ after.lastAccrual := by
  simp only [accrue, ite_eq_ok, bind_eq_ok, pure_eq_ok] at accrued
  rcases accrued with ⟨reached, rfl⟩ | ⟨_, _, _, ⟨_, rfl⟩ | ⟨_, _, _, _, _, _, _, rfl⟩⟩
  · exact reached
  · exact Int64.le_refl _
  · exact Int64.le_refl _

end PeriodLedger

namespace Treasury

variable {ι : Type} [DecidableEq ι] {start treasury closed changed : Treasury ι}
  {history : List (Step ι)}

/-- A new balance after a close, and before it at the same time: the ledgers and the registries are
the same, and the logs can stand in for each other. -/
theorem standIns_of_close (ordered : treasury.ledger.timeline.Ordered)
    (follows : ∀ who, ∃ gathered, (treasury.stakers who).ownership.Follows
      treasury.ledger.timeline (treasury.stakers who).shares gathered)
    {close : Close} {who : ι} {now : Int64} {ledger : PeriodLedger} {id balance : UInt64}
    {books : ShareBooks}
    (closes : close.carryOut treasury.ledger now treasury.registry.supply = .ok (ledger, id))
    (set : (treasury.shareBooks who).setShares treasury.pool balance now = .ok books) :
    ∃ (left : ShareBooks) (logs : ι → OwnershipLog),
      ({ treasury with ledger } : Treasury ι).Performs (.setShares who balance now)
        (treasury.putShareBooks who left) .nothing ∧
      (∀ late, close.carryOut books.ledger now late = .ok (ledger, id)) ∧
      (treasury.putShareBooks who left).relog logs =
        { treasury.putShareBooks who books with ledger } ∧
      (treasury.putShareBooks who left).StandIns logs := by
  obtain ⟨accrued, logged, _, _, shares⟩ := ShareBooks.setShares_eq_ok set
  obtain ⟨elapsed, rotated⟩ := Close.rotate_of_carryOut closes
  obtain ⟨brought, again, _, rotates⟩ := PeriodLedger.rotate_eq_ok rotated
  obtain rfl : books.ledger = brought := Except.ok.inj (accrued.symm.trans again)
  obtain ⟨_, _, advances⟩ := PeriodLedger.timeline_accrue accrued
  have reached := PeriodLedger.le_lastAccrual_of_accrue accrued
  have turns := rotates.turns
  have advanced := ordered.advance advances
  have turned := advanced.turn turns
  -- Every log follows the timeline up to the close, and beyond it.
  have followed (other : ι) : ∃ gathered, (treasury.stakers other).ownership.Follows
      books.ledger.timeline (treasury.stakers other).shares gathered := by
    obtain ⟨_, before⟩ := follows other
    exact ⟨_, before.advance ordered advances fun _ => rfl⟩
  obtain ⟨gathered, own⟩ := followed who
  rw [← shares] at logged
  obtain ⟨told, _⟩ := OwnershipLog.fits_of_recordChange own.kept logged
  have later : (books.ledger.timeline.spans 0).id < ledger.current.id := by
    rw [UInt64.lt_iff_toNat_lt]
    exact Nat.lt_of_lt_of_eq (Nat.lt_succ_self _) turns.next.symm
  obtain ⟨record, recorded⟩ := own.kept.answers_recordChange_opened later
    (turns.startingIndex.trans turns.index.symm) told now
  refine ⟨⟨ledger, books.registry, books.staker.relog record⟩,
    Function.update (fun other => (treasury.stakers other).ownership) who books.staker.ownership,
    ?_, ?_, ?_, ?_⟩
  · exact .setShares (ShareBooks.setShares_at set
      (PeriodLedger.accrue_of_le (rotates.lastAccrual ▸ reached) _) recorded)
  · intro late
    have idle := PeriodLedger.accrue_of_le reached late
    exact (close.carryOut_of_accrue (idle.trans accrued.symm)
      (PeriodLedger.window_accrue accrued 0)).trans closes
  · simp only [relog, putShareBooks, putStaker, mk.injEq, true_and]
    funext other
    rcases eq_or_ne other who with rfl | different
    · simp only [Function.update_self]
      rfl
    · simp only [Function.update_of_ne different]
      rfl
  · refine ⟨turned, fun other => ?_⟩
    rcases eq_or_ne other who with rfl | different
    · simp only [putShareBooks, putStaker, Function.update_self]
      have beyond := own.turn turns
      refine ⟨gathered, ?_, ?_⟩
      · exact beyond.change turned rfl (OwnershipLog.recordChange_eq_ok beyond.kept recorded)
      · exact (own.change advanced rfl (OwnershipLog.recordChange_eq_ok own.kept logged)).turn turns
    · obtain ⟨gathers, steady⟩ := followed other
      simp only [putShareBooks, putStaker, Function.update_of_ne different]
      exact ⟨gathers, steady.turn turns, steady.turn turns⟩

/-- **A close and a new balance at the same time commute.** After a run without imports from a new
treasury, let a close with the registry's supply and a new balance of a staker succeed at the same
time. Then each succeeds after the other, the close with any supply and for the same period. The
two orders leave the same ledger and the same registry. However the one goes on without imports, the
other goes on in the same way, and then every staker has the same share-seconds and the same part of
the debt for every closed period. -/
theorem close_setShares_comm (fresh : start.Fresh) (run : start.Run history treasury)
    (free : ImportFree history) {close : Close} {who : ι} {balance : UInt64} {now : Int64}
    {receipt done : Receipt}
    (closes : treasury.perform (close.operation now treasury.registry.supply) =
      .ok (closed, receipt))
    (changes : treasury.perform (.setShares who balance now) = .ok (changed, done)) :
    ∃ first second, closed.perform (.setShares who balance now) = .ok (first, done) ∧
      (∀ supply, changed.perform (close.operation now supply) = .ok (second, receipt)) ∧
      (first.ledger = second.ledger ∧ first.registry = second.registry) ∧
      first.Shadows second ∧ second.Shadows first := by
  obtain ⟨opening, bump, opened⟩ := fresh.ledger
  have ordered := run.ordered free (opened ▸ PeriodLedger.timeline_new_ordered opening bump)
  have follows (other : ι) : ∃ gathered, (treasury.stakers other).ownership.Follows
      treasury.ledger.timeline (treasury.stakers other).shares gathered := by
    obtain ⟨owner, seed, created, joined⟩ := fresh.stakers other
    exact ⟨_, run.follows free opened joined⟩
  obtain ⟨ledger, id, carried, rfl, rfl⟩ := Close.perform_operation.mp closes
  cases performs_of_perform changes with
  | @setShares _ _ _ books set =>
    obtain ⟨left, logs, performs, recloses, same, stands⟩ :=
      standIns_of_close ordered follows carried set
    refine ⟨treasury.putShareBooks who left, (treasury.putShareBooks who left).relog logs,
      performs.perform, fun late => ?_, ⟨rfl, rfl⟩, stands.shadows, stands.symm.shadows⟩
    exact Close.perform_operation.mpr ⟨ledger, id, recloses late, same, rfl⟩

/-- Two stakers whose shares do not divide the seconds evenly, in a first period. -/
def contested : List (Operation Pair) :=
  [.setShares .first 3 0, .setShares .second 4 2, .recordFee 1000]

theorem close_setShares_comm_contested :
    ∃ closed changed first second : Treasury Pair,
      ((opened 0).play contested).2.perform (.closeFromRelayer 10 1 10 10 7) =
        .ok (closed, .closed 1) ∧
      ((opened 0).play contested).2.perform (.setShares .first 5 10) = .ok (changed, .nothing) ∧
      closed.perform (.setShares .first 5 10) = .ok (first, .nothing) ∧
      changed.perform (.closeFromRelayer 10 1 10 10 9) = .ok (second, .closed 1) ∧
      (first.ledger = second.ledger ∧ first.registry = second.registry) ∧
      first.Shadows second ∧ second.Shadows first := by
  obtain ⟨closed, closes⟩ : ∃ closed, ((opened 0).play contested).2.perform
      ((Close.byRelayer 1 10 10).operation 10 ((opened 0).play contested).2.registry.supply) =
        .ok (closed, .closed 1) := ⟨_, rfl⟩
  obtain ⟨changed, changes⟩ : ∃ changed, ((opened 0).play contested).2.perform
      (.setShares .first 5 10) = .ok (changed, .nothing) := ⟨_, rfl⟩
  obtain ⟨first, second, changesLater, closesLater, same, shadows⟩ :=
    close_setShares_comm (fresh_opened 0) (run_play _ contested) (by decide +kernel) closes changes
  exact ⟨closed, changed, first, second, closes, changes, changesLater, closesLater 9, same,
    shadows⟩

end Treasury

end FeeTreasury
