import FeeTreasury.Proofs.Claiming
import FeeTreasury.Proofs.Treasury.Run

/-!
# What a step does to time and shares

Seen from the ledger's timeline and the stakers' standings, each step that imports nothing advances
the timeline, and then does one of three things: nothing, change the shares of one staker, or turn
the timeline (`FeeTreasury.Treasury.course_of_perform`). Payments advance it by nothing.
-/

namespace FeeTreasury

open Outcome

namespace Treasury

variable {ι : Type}

/-- Nobody's shares changed, nor their record. -/
structure Steady (before after : Treasury ι) : Prop where
  supply : after.registry.supply = before.registry.supply
  shares : ∀ who, (after.stakers who).shares = (before.stakers who).shares
  ownership : ∀ who, (after.stakers who).ownership = (before.stakers who).ownership

/-- One staker got a new balance, and its log records the change at the index of the ledger after
the step. -/
structure Changes (before after : Treasury ι) (who : ι) (now : Int64) : Prop where
  logged : (before.stakers who).ownership.recordChange now after.ledger.current
    after.ledger.ownershipIndex (after.stakers who).shares after.registry.supply =
      .ok (after.stakers who).ownership
  balance_le : (before.stakers who).shares.toNat ≤ before.registry.supply.toNat
  supply : after.registry.supply.toNat =
    before.registry.supply.toNat - (before.stakers who).shares.toNat +
      (after.stakers who).shares.toNat
  others : ∀ other, other ≠ who → after.stakers other = before.stakers other

/-- The course of a step: the timeline advances by a growth of the index and some seconds, and then
at most one balance changes or the timeline turns. -/
inductive Course (before after : Treasury ι) (supply growth seconds : Nat) : Prop where
  | pass (advances : before.ledger.timeline.Advances after.ledger.timeline supply growth seconds)
      (steady : before.Steady after)
  | change (who : ι) (now : Int64)
      (advances : before.ledger.timeline.Advances after.ledger.timeline supply growth seconds)
      (changes : before.Changes after who now)
  | turn (accrued : PeriodLedger)
      (advances : before.ledger.timeline.Advances accrued.timeline supply growth seconds)
      (turns : accrued.timeline.Turns after.ledger.timeline)
      (steady : before.Steady after)

end Treasury

theorem ShareBooks.setShares_eq_ok {books after : ShareBooks} {pool : RewardPool}
    {balance : UInt64} {now : Int64} (changed : books.setShares pool balance now = .ok after) :
    books.ledger.accrue now books.registry.supply = .ok after.ledger ∧
      books.staker.ownership.recordChange now after.ledger.current after.ledger.ownershipIndex
        balance after.registry.supply = .ok after.staker.ownership ∧
      books.staker.shares.toNat ≤ books.registry.supply.toNat ∧
      after.registry.supply.toNat =
        books.registry.supply.toNat - books.staker.shares.toNat + balance.toNat ∧
      after.staker.shares = balance := by
  simp only [setShares, bind_eq_ok, pure_eq_ok, require_eq_ok, decide_eq_true_eq, checkedAdd_eq_ok,
    exists_const] at changed
  obtain ⟨ledger, accrued, rewards, _, enough, supply, summed, ownership, logged, rfl⟩ := changed
  refine ⟨accrued, logged, enough, ?_, rfl⟩
  rw [summed, UInt64.toNat_sub_of_le _ _ enough]

/-- The staker is credited with its old shares, and keeps what is not about shares. -/
theorem ShareBooks.setShares_staker {books after : ShareBooks} {pool : RewardPool}
    {balance : UInt64} {now : Int64} (changed : books.setShares pool balance now = .ok after) :
    ∃ rewards ownership, pool.credit books.staker.rewards books.staker.shares = .ok rewards ∧
      after.staker = { books.staker with rewards, ownership, shares := balance } := by
  simp only [setShares, bind_eq_ok, pure_eq_ok] at changed
  obtain ⟨_, _, rewards, credited, _, _, _, _, ownership, _, rfl⟩ := changed
  exact ⟨rewards, ownership, credited, rfl⟩

/-- The collateral that a liquidation takes and the shares that it burns are the staker's, and the
pool receives its part of the collateral for the shares that are left. -/
theorem ShareBooks.liquidate_parts {books after : ShareBooks} {pool left : RewardPool}
    {plan : LiquidationPlan} {now : Int64}
    (liquidated : books.liquidate pool plan now = .ok (after, left)) :
    plan.collateralRedeemed ≤ books.staker.collateral ∧
      ∃ balance, checkedSub books.staker.shares plan.sharesBurned = .ok balance ∧
        ({ books with staker := { books.staker with
          collateral := books.staker.collateral - plan.collateralRedeemed } } :
            ShareBooks).setShares pool balance now = .ok after ∧
        pool.deposit plan.poolDeposit after.registry.supply = .ok left := by
  simp only [liquidate, bind_eq_ok, pure_eq_ok, require_eq_ok, decide_eq_true_eq, exists_const,
    Prod.mk.injEq] at liquidated
  obtain ⟨enough, balance, burned, _, changed, _, deposited, rfl, rfl⟩ := liquidated
  exact ⟨enough, balance, burned, changed, deposited⟩

/-- A liquidation changes the shares of a staker whose collateral was taken. -/
theorem ShareBooks.liquidate_eq_ok {books after : ShareBooks} {pool left : RewardPool}
    {plan : LiquidationPlan} {now : Int64}
    (liquidated : books.liquidate pool plan now = .ok (after, left)) :
    ∃ collateral balance,
      ({ books with staker := { books.staker with collateral } } : ShareBooks).setShares pool
        balance now = .ok after := by
  obtain ⟨_, balance, _, changed, _⟩ := liquidate_parts liquidated
  exact ⟨_, balance, changed⟩

namespace Treasury

variable {ι : Type} [DecidableEq ι] {treasury after : Treasury ι} {receipt : Receipt}

theorem steady_putStaker (treasury : Treasury ι) (who : ι) (staker : Staker)
    (shares : staker.shares = (treasury.stakers who).shares)
    (ownership : staker.ownership = (treasury.stakers who).ownership) :
    treasury.Steady (treasury.putStaker who staker) where
  supply := rfl
  shares other := by
    rcases eq_or_ne other who with rfl | different
    · simp only [putStaker, Function.update_self, shares]
    · simp only [putStaker, Function.update_of_ne different]
  ownership other := by
    rcases eq_or_ne other who with rfl | different
    · simp only [putStaker, Function.update_self, ownership]
    · simp only [putStaker, Function.update_of_ne different]

theorem course_of_claim {who : ι} {terms : ClaimTerms} {entitlement : Entitlement}
    {books : ClaimBooks}
    (claimed : Claiming.claim terms ⟨treasury.ledger, treasury.stakers who⟩ =
      .ok entitlement books) (supply : Nat) :
    treasury.Course { treasury.putStaker who books.staker with ledger := books.ledger }
      supply 0 0 := by
  obtain ⟨_, _, _, _, _, _, summed, _, marked, staker⟩ := Claiming.claim_eq_ok claimed
  have timeline := (PeriodLedger.markAll_paysOut marked summed).timeline
  have steady := treasury.steady_putStaker who books.staker (by rw [staker]) (by rw [staker])
  refine .pass ?_ ⟨steady.supply, steady.shares, steady.ownership⟩
  simp only [timeline]
  exact .refl _ _

/-- A change of shares advances the timeline with the registry's supply. -/
theorem course_of_putShareBooks (treasury : Treasury ι) (who : ι) (collateral : UInt64)
    {books : ShareBooks} {pool : RewardPool} {balance : UInt64} {now : Int64}
    (changed : ({ treasury.shareBooks who with
      staker := { treasury.stakers who with collateral } } : ShareBooks).setShares pool
        balance now = .ok books) (left : RewardPool) :
    ∃ growth seconds, treasury.Course { treasury.putShareBooks who books with pool := left }
      treasury.registry.supply.toNat growth seconds := by
  obtain ⟨accrued, logged, enough, supply, shares⟩ := ShareBooks.setShares_eq_ok changed
  obtain ⟨growth, seconds, advances⟩ := PeriodLedger.timeline_accrue accrued
  refine ⟨growth, seconds, .change who now advances ⟨?_, enough, ?_, ?_⟩⟩
  · simp only [putShareBooks, putStaker, Function.update_self, shares]
    exact logged
  · simp only [putShareBooks, putStaker, Function.update_self, shares]
    exact supply
  · intro other different
    simp only [putShareBooks, putStaker, Function.update_of_ne different]

omit [DecidableEq ι] in
/-- A close turns the timeline. -/
theorem course_of_rotate {ledger : PeriodLedger} {now duration : Int64} {supply id : UInt64}
    (rotated : treasury.ledger.rotate now duration supply = .ok (ledger, id)) :
    ∃ growth seconds, treasury.Course { treasury with ledger } supply.toNat growth seconds := by
  obtain ⟨accrued, growth, seconds, advances, turns⟩ := PeriodLedger.timeline_rotate rotated
  exact ⟨growth, seconds, .turn accrued advances turns ⟨rfl, fun _ => rfl, fun _ => rfl⟩⟩

/-- **The course of a step.** A step that imports nothing advances the timeline with some supply,
the registry's if the operation asks for no other, and then changes one balance, turns the timeline,
or does neither. -/
theorem course_of_perform {operation : Operation ι} (free : operation.isImport = false)
    (performed : treasury.perform operation = .ok (after, receipt)) :
    ∃ supply growth seconds, treasury.Course after supply growth seconds ∧
      (operation.InStep treasury.registry.supply → supply = treasury.registry.supply.toNat) := by
  -- What moves money within the ledger leaves the timeline as it was.
  have stands {ledger : PeriodLedger} (same : ledger.timeline = treasury.ledger.timeline) :
      treasury.Course { treasury with ledger } treasury.registry.supply.toNat 0 0 := by
    refine .pass ?_ ⟨rfl, fun _ => rfl, fun _ => rfl⟩
    simp only [same]
    exact .refl _ _
  cases performs_of_perform performed with
  | recordFee recorded =>
    exact ⟨_, 0, 0, stands (PeriodLedger.timeline_recordFee recorded), fun _ => rfl⟩
  | recordReward recorded =>
    exact ⟨_, 0, 0, stands (PeriodLedger.timeline_recordReward recorded), fun _ => rfl⟩
  | accrue accrued =>
    obtain ⟨growth, seconds, advances⟩ := PeriodLedger.timeline_accrue accrued
    exact ⟨_, growth, seconds, .pass advances ⟨rfl, fun _ => rfl, fun _ => rfl⟩,
      fun given => congrArg UInt64.toNat (given _ rfl)⟩
  | @setShares who _ _ _ changed =>
    obtain ⟨growth, seconds, course⟩ := treasury.course_of_putShareBooks who
      (treasury.stakers who).collateral changed treasury.pool
    exact ⟨_, growth, seconds, course, fun _ => rfl⟩
  | @liquidate who _ _ _ pool liquidated =>
    obtain ⟨collateral, balance, changed⟩ := ShareBooks.liquidate_eq_ok liquidated
    obtain ⟨growth, seconds, course⟩ := treasury.course_of_putShareBooks who collateral
      changed pool
    exact ⟨_, growth, seconds, course, fun _ => rfl⟩
  | close closed =>
    obtain ⟨_, rotated⟩ := PeriodLedger.rotate_of_closeCurrent closed
    obtain ⟨growth, seconds, course⟩ := course_of_rotate rotated
    exact ⟨_, growth, seconds, course, fun given => congrArg UInt64.toNat (given _ rfl)⟩
  | closeFromRelayer closed =>
    obtain ⟨_, rotated⟩ := PeriodLedger.rotate_of_closeFromRelayer closed
    obtain ⟨growth, seconds, course⟩ := course_of_rotate rotated
    exact ⟨_, growth, seconds, course, fun given => congrArg UInt64.toNat (given _ rfl)⟩
  | claim claimed => exact ⟨_, 0, 0, course_of_claim claimed _, fun _ => rfl⟩
  | claimOnBehalf claimed =>
    exact ⟨_, 0, 0, course_of_claim (Claiming.claimOnBehalf_eq_ok claimed).2 _, fun _ => rfl⟩
  | importPeriod => simp only [Operation.isImport, reduceCtorEq] at free
  | setCollateral who collateral =>
    exact ⟨_, 0, 0, .pass (.refl _ _) (treasury.steady_putStaker who _ rfl rfl), fun _ => rfl⟩
  | deposit =>
    exact ⟨_, 0, 0, .pass (.refl _ _) ⟨rfl, fun _ => rfl, fun _ => rfl⟩, fun _ => rfl⟩
  | @credit who rewards =>
    exact ⟨_, 0, 0, .pass (.refl _ _) (treasury.steady_putStaker who _ rfl rfl), fun _ => rfl⟩
  | @takeReward who _ rewards =>
    have steady := treasury.steady_putStaker who { treasury.stakers who with rewards } rfl rfl
    exact ⟨_, 0, 0, .pass (.refl _ _) ⟨steady.supply, steady.shares, steady.ownership⟩,
      fun _ => rfl⟩

omit [DecidableEq ι] in
theorem Course.ordered {supply growth seconds : Nat}
    (course : treasury.Course after supply growth seconds)
    (ordered : treasury.ledger.timeline.Ordered) : after.ledger.timeline.Ordered := by
  cases course with
  | pass advances _ => exact ordered.advance advances
  | change _ _ advances _ => exact ordered.advance advances
  | turn _ advances turns _ => exact (ordered.advance advances).turn turns

/-- The periods of a run without imports are numbered downwards from the open one. -/
theorem Run.ordered {start : Treasury ι} {history : List (Step ι)}
    (run : start.Run history treasury) (free : ImportFree history)
    (ordered : start.ledger.timeline.Ordered) : treasury.ledger.timeline.Ordered := by
  induction run with
  | start => exact ordered
  | step _ performed ih =>
    obtain ⟨imports, earlier⟩ := importFree_cons.mp free
    obtain ⟨_, _, _, course, _⟩ := course_of_perform imports performed
    exact course.ordered (ih earlier)

end Treasury

end FeeTreasury
