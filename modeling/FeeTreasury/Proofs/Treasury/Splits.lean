import FeeTreasury.Proofs.Treasury.Tallies

/-!
# Rewards are a split of every deposit

The pool keeps one growing number, and credits a staker only when its shares change, when it is paid
or when somebody asks for it. A pool without that number would split each deposit at once, and give
every staker its part for the shares that it has at that moment. Whatever happens in between, a
staker has been paid or is owed what the splits have given it, but for less than one at each credit
(`FeeTreasury.Treasury.Run.owes_of_splits`). So what it was paid and has earned is the sum of the
splits, rounded down a few times (`FeeTreasury.Treasury.Run.rewards_split_deposits`).
-/

namespace FeeTreasury

open Outcome

namespace RewardPool

variable {pool after : RewardPool} {checkpoint : Checkpoint} {shares amount supply : UInt64}

/-- What a deposit adds to the reward of each share of a supply, if there is one. -/
theorem Receives.rewardPerShare (receives : pool.Receives after amount supply) :
    after.rewardPerShare.toNat = pool.rewardPerShare.toNat +
      if amount.toNat = 0 then 0
      else (pool.undistributed.toNat + amount.toNat) * preciseUnit / supply.toNat := by
  obtain ⟨nothing | unsupplied, same, _⟩ | ⟨⟨something, _⟩, _, grown⟩ := receives.spread
  · rw [same, nothing, UInt64.toNat_zero, if_pos rfl, Nat.add_zero]
  · rw [same, unsupplied, UInt64.toNat_zero, Nat.div_zero, ite_self, Nat.add_zero]
  · have nonzero : amount.toNat ≠ 0 := fun zero => something (UInt64.toNat_inj.mp zero)
    rw [grown, if_neg nonzero]

/-- A holder was credited no further than the pool has come. Without shares that does not matter. -/
def Caught (pool : RewardPool) (staker : Staker) : Prop :=
  staker.shares = 0 ∨ staker.rewards.creditedUpTo.toNat ≤ pool.rewardPerShare.toNat

/-- Growth of the reward per share raises what is owed for each share by as much. -/
theorem owes_add {growth : Nat} {staker : Staker} (caught : pool.Caught staker)
    (grown : after.rewardPerShare.toNat = pool.rewardPerShare.toNat + growth) :
    after.owes staker = pool.owes staker + staker.shares.toNat * growth := by
  unfold owes owed
  rw [grown, Nat.add_assoc, ← Nat.mul_add]
  rcases caught with none | credited
  · rw [none, UInt64.toNat_zero, Nat.zero_mul, Nat.zero_mul]
  · rw [Nat.sub_add_comm credited]

/-- Without shares, a holder has earned what it was credited with, whatever the pool received. -/
theorem earned_of_none : pool.earned checkpoint 0 = .ok checkpoint.accrued := by
  rw [earned_eq_ok, owed, UInt64.toNat_zero, Nat.zero_mul, Nat.add_zero,
    Nat.mul_div_cancel_left _ preciseUnit_pos]
  exact ⟨by decide, rfl⟩

end RewardPool

namespace Operation

variable {ι : Type} [DecidableEq ι]

/-- The operation credits a staker: it changes its shares, credits it, or pays it. -/
def credits (who : ι) : Operation ι → Bool
  | .setShares other _ _ | .liquidate other _ _ | .credit other | .takeReward other => other = who
  | _ => false

end Operation

namespace Treasury

variable {ι : Type}

/-! ## Splits -/

/-- What a step deposits for each share, with eighteen decimals and rounded down: the amount, and
what was held back before, divided by the supply at the deposit. Without a supply it is nothing. -/
def Step.perShare (step : Step ι) : Nat :=
  if step.operation.deposited = 0 then 0
  else (step.before.pool.undistributed.toNat + step.operation.deposited) * preciseUnit /
    step.after.registry.supply.toNat

/-- A staker's part of a step's deposit, for the shares that it has at the deposit. A liquidation
changes shares first. -/
def Step.split (step : Step ι) (who : ι) : Nat :=
  (step.after.stakers who).shares.toNat * step.perShare

/-- What a step pays a staker. -/
def Step.rewarded [DecidableEq ι] (step : Step ι) (who : ι) : Nat :=
  match step.operation, step.receipt with
  | .takeReward other, .released amount => if other = who then amount.toNat else 0
  | _, _ => 0

/-- A staker's parts of all deposits of a history, with eighteen decimals. -/
def splits (history : List (Step ι)) (who : ι) : Nat :=
  (history.map fun step => step.split who).sum

section History

variable [DecidableEq ι]

/-- All that a staker was paid in a history. -/
def rewarded (history : List (Step ι)) (who : ι) : Nat :=
  (history.map fun step => step.rewarded who).sum

/-- How often a staker was credited in a history. -/
def credits (history : List (Step ι)) (who : ι) : Nat :=
  history.countP fun step => step.operation.credits who

variable {treasury after : Treasury ι} {receipt : Receipt} {operation : Operation ι} {who : ι}

/-! ## What a step does to rewards -/

/-- The reward of each share grows by what a step deposits for it. -/
theorem rewardPerShare_of_perform (given : operation.DepositsOver treasury.registry.supply)
    (performed : treasury.perform operation = .ok (after, receipt)) :
    after.pool.rewardPerShare.toNat = treasury.pool.rewardPerShare.toNat +
      Step.perShare ⟨treasury, operation, after, receipt⟩ := by
  cases performs_of_perform performed with
  | liquidate liquidated =>
    obtain ⟨_, _, _, _, deposited⟩ := ShareBooks.liquidate_parts liquidated
    exact (RewardPool.receives_of_deposit deposited).rewardPerShare
  | @deposit amount supply _ deposited =>
    obtain rfl : supply = treasury.registry.supply := given supply rfl
    exact (RewardPool.receives_of_deposit deposited).rewardPerShare
  | takeReward taken =>
    obtain ⟨_, _, pays⟩ := RewardPool.takeReward_eq_ok taken
    exact congrArg BitVec.toNat pays.rewardPerShare
  | _ => rfl

/-- A step that does not credit a staker pays it nothing, and leaves its standing alone. -/
theorem kept_of_perform (others : operation.credits who = false)
    (performed : treasury.perform operation = .ok (after, receipt)) :
    (after.stakers who).rewards = (treasury.stakers who).rewards ∧
      (after.stakers who).shares = (treasury.stakers who).shares ∧
      Step.rewarded ⟨treasury, operation, after, receipt⟩ who = 0 := by
  -- A staker that is replaced by one with the same standing keeps it.
  have replaced (other : ι) (staker : Staker)
      (rewards : staker.rewards = (treasury.stakers other).rewards)
      (shares : staker.shares = (treasury.stakers other).shares) :
      (Function.update treasury.stakers other staker who).rewards =
          (treasury.stakers who).rewards ∧
        (Function.update treasury.stakers other staker who).shares =
          (treasury.stakers who).shares := by
    by_cases same : who = other
    · subst same
      simp only [Function.update_self, rewards, shares, and_self]
    · simp only [Function.update_of_ne same, and_self]
  have untouched {other : ι} (different : other ≠ who) (staker : Staker) :
      Function.update treasury.stakers other staker who = treasury.stakers who :=
    Function.update_of_ne different.symm ..
  cases performs_of_perform performed with
  | recordFee | recordReward | accrue | close | closeFromRelayer | importPeriod | deposit =>
    exact ⟨rfl, rfl, rfl⟩
  | @setShares other _ _ books =>
    have same := untouched (of_decide_eq_false others) books.staker
    exact ⟨congrArg Staker.rewards same, congrArg Staker.shares same, rfl⟩
  | @liquidate other _ _ books =>
    have same := untouched (of_decide_eq_false others) books.staker
    exact ⟨congrArg Staker.rewards same, congrArg Staker.shares same, rfl⟩
  | @claim other _ _ books claimed =>
    obtain ⟨_, _, _, _, _, _, _, _, _, staker⟩ := Claiming.claim_eq_ok claimed
    obtain ⟨rewards, shares⟩ := replaced other books.staker (by rw [staker]) (by rw [staker])
    exact ⟨rewards, shares, rfl⟩
  | @claimOnBehalf other _ _ _ _ books claimed =>
    obtain ⟨_, _, _, _, _, _, _, _, _, staker⟩ :=
      Claiming.claim_eq_ok (Claiming.claimOnBehalf_eq_ok claimed).2
    obtain ⟨rewards, shares⟩ := replaced other books.staker (by rw [staker]) (by rw [staker])
    exact ⟨rewards, shares, rfl⟩
  | setCollateral other collateral =>
    obtain ⟨rewards, shares⟩ := replaced other { treasury.stakers other with collateral } rfl rfl
    exact ⟨rewards, shares, rfl⟩
  | @credit other rewards =>
    have same := untouched (of_decide_eq_false others) { treasury.stakers other with rewards }
    exact ⟨congrArg Staker.rewards same, congrArg Staker.shares same, rfl⟩
  | @takeReward other _ rewards amount =>
    have different : other ≠ who := of_decide_eq_false others
    have same := untouched different { treasury.stakers other with rewards }
    exact ⟨congrArg Staker.rewards same, congrArg Staker.shares same, if_neg different⟩

/-- A step that credits a staker does so before it deposits: what the staker had earned is credited
to it or paid. -/
theorem credited_of_perform (credits : operation.credits who = true)
    (performed : treasury.perform operation = .ok (after, receipt)) :
    ∃ amount, treasury.earned who = .ok amount ∧
      (after.stakers who).rewards.creditedUpTo = treasury.pool.rewardPerShare ∧
      (after.stakers who).rewards.accrued.toNat +
        Step.rewarded ⟨treasury, operation, after, receipt⟩ who = amount.toNat := by
  -- A change of shares credits with the shares that there were.
  have changes (collateral : UInt64) {balance : UInt64} {now : Int64} {books : ShareBooks}
      (changed : ({ treasury.shareBooks who with
        staker := { treasury.stakers who with collateral } } : ShareBooks).setShares treasury.pool
          balance now = .ok books) :
      treasury.earned who = .ok books.staker.rewards.accrued ∧
        books.staker.rewards.creditedUpTo = treasury.pool.rewardPerShare := by
    obtain ⟨rewards, _, credited, staker⟩ := ShareBooks.setShares_staker changed
    rw [staker]
    exact RewardPool.credit_eq_ok.mp credited
  cases performs_of_perform performed with
  | @setShares other _ _ _ changed =>
    obtain rfl : other = who := of_decide_eq_true credits
    obtain ⟨earned, caught⟩ := changes (treasury.stakers other).collateral changed
    refine ⟨_, earned, ?_⟩
    simp only [putShareBooks, putStaker, Function.update_self]
    exact ⟨caught, rfl⟩
  | @liquidate other _ _ _ _ liquidated =>
    obtain rfl : other = who := of_decide_eq_true credits
    obtain ⟨_, _, changed⟩ := ShareBooks.liquidate_eq_ok liquidated
    obtain ⟨earned, caught⟩ := changes _ changed
    refine ⟨_, earned, ?_⟩
    simp only [putShareBooks, putStaker, Function.update_self]
    exact ⟨caught, rfl⟩
  | @credit other _ credited =>
    obtain rfl : other = who := of_decide_eq_true credits
    obtain ⟨earned, caught⟩ := RewardPool.credit_eq_ok.mp credited
    refine ⟨_, earned, ?_⟩
    simp only [putStaker, Function.update_self]
    exact ⟨caught, rfl⟩
  | @takeReward other _ _ amount taken =>
    obtain rfl : other = who := of_decide_eq_true credits
    obtain ⟨earned, rfl, _⟩ := RewardPool.takeReward_eq_ok taken
    refine ⟨amount, earned, ?_⟩
    simp only [putStaker, Function.update_self, Step.rewarded, ↓reduceIte, UInt64.toNat_zero,
      Nat.zero_add, and_self]
  | _ => exact absurd credits Bool.false_ne_true

/-- What a staker is owed grows by its part of a step's deposit, and shrinks by what the step pays
it, and by less than one if the step credits it. -/
theorem owes_of_perform (caught : treasury.pool.Caught (treasury.stakers who))
    (given : operation.DepositsOver treasury.registry.supply)
    (performed : treasury.perform operation = .ok (after, receipt)) :
    after.pool.Caught (after.stakers who) ∧
      ∃ lost, after.pool.owes (after.stakers who) +
            preciseUnit * Step.rewarded ⟨treasury, operation, after, receipt⟩ who + lost =
          treasury.pool.owes (treasury.stakers who) +
            Step.split ⟨treasury, operation, after, receipt⟩ who ∧
        lost ≤ (preciseUnit - 1) * if operation.credits who then 1 else 0 := by
  have grown := rewardPerShare_of_perform given performed
  unfold Step.split
  generalize Step.perShare ⟨treasury, operation, after, receipt⟩ = growth at grown
  cases credits : operation.credits who with
  | false =>
    obtain ⟨rewards, shares, unpaid⟩ := kept_of_perform credits performed
    have same (pool : RewardPool) : pool.owes (after.stakers who) =
        pool.owes (treasury.stakers who) := by
      rw [RewardPool.owes, rewards, shares, RewardPool.owes]
    refine ⟨?_, 0, ?_, Nat.zero_le _⟩
    · rw [RewardPool.Caught, rewards, shares, grown]
      exact caught.imp_right fun credited => Nat.le_trans credited (Nat.le_add_right ..)
    · rw [unpaid, Nat.mul_zero, Nat.add_zero, same, RewardPool.owes_add caught grown, shares]
  | true =>
    obtain ⟨amount, earned, upTo, divided⟩ := credited_of_perform credits performed
    have caughtUp : treasury.pool.Caught (after.stakers who) := .inr (by rw [upTo])
    -- What is lost is what the credit rounds down.
    have rounded := (RewardPool.earned_eq_ok.mp earned).2
    have parts := Nat.div_add_mod (treasury.pool.owes (treasury.stakers who)) preciseUnit
    have small := Nat.mod_lt (treasury.pool.owes (treasury.stakers who)) preciseUnit_pos
    have owed := RewardPool.owed_of_creditedUpTo upTo (after.stakers who).shares
    refine ⟨.inr (by rw [upTo, grown]; exact Nat.le_add_right ..),
      treasury.pool.owes (treasury.stakers who) % preciseUnit, ?_, ?_⟩
    · rw [RewardPool.owes_add caughtUp grown, RewardPool.owes, owed]
      rw [RewardPool.owes, ← rounded, ← divided, Nat.mul_add] at parts
      simp only [RewardPool.owes] at parts ⊢
      omega
    · rw [if_pos rfl, Nat.mul_one]
      omega

/-! ## Runs -/

variable {start : Treasury ι} {history : List (Step ι)}

/-- What a staker was paid and is owed is what the splits of all deposits have given it, but for
less than one at each credit. -/
theorem Run.owes_of_splits (unfunded : start.Unfunded) (run : start.Run history treasury)
    (given : DepositsInStep history) (who : ι) :
    treasury.pool.Caught (treasury.stakers who) ∧
      ∃ lost, treasury.pool.owes (treasury.stakers who) +
          preciseUnit * rewarded history who + lost = splits history who ∧
        lost ≤ (preciseUnit - 1) * credits history who := by
  induction run with
  | start =>
    refine ⟨.inl (unfunded.shares who), 0, ?_, Nat.zero_le _⟩
    rw [RewardPool.owes, RewardPool.owed, unfunded.accrued, unfunded.shares, UInt64.toNat_zero,
      Nat.mul_zero, Nat.zero_mul]
    rfl
  | @step history before after operation receipt _ performed ih =>
    obtain ⟨deposits, earlier⟩ := depositsInStep_cons.mp given
    obtain ⟨caught, lost, total, bounded⟩ := ih earlier
    obtain ⟨caughtNow, last, stepped, small⟩ := owes_of_perform caught deposits performed
    refine ⟨caughtNow, lost + last, ?_, ?_⟩
    · simp only [rewarded, splits, List.map_cons, List.sum_cons, Nat.mul_add] at total stepped ⊢
      omega
    · rw [credits, List.countP_cons, Nat.mul_add]
      exact Nat.add_le_add bounded small

/-- A staker without shares earns nothing from a deposit. -/
theorem earned_of_deposited (performed : treasury.perform operation = .ok (after, receipt))
    (deposits : operation.deposited ≠ 0) (none : (after.stakers who).shares = 0) {amount : UInt64}
    (earned : treasury.earned who = .ok amount) : after.earned who = .ok amount := by
  have unpaid : Step.rewarded ⟨treasury, operation, after, receipt⟩ who = 0 := by
    cases operation with
    | takeReward => exact absurd rfl deposits
    | _ => rfl
  cases credits : operation.credits who with
  | false =>
    obtain ⟨rewards, shares, _⟩ := kept_of_perform credits performed
    rw [shares] at none
    rw [Treasury.earned, none, RewardPool.earned_of_none] at earned
    rw [Treasury.earned, rewards, shares, none, RewardPool.earned_of_none, earned]
  | true =>
    obtain ⟨credited, answered, _, divided⟩ := credited_of_perform credits performed
    obtain rfl := Except.ok.inj (earned.symm.trans answered)
    rw [unpaid, Nat.add_zero] at divided
    rw [Treasury.earned, none, RewardPool.earned_of_none, UInt64.toNat_inj.mp divided]

/-- **Rewards are a split of every deposit.** Whatever the order of deposits, changes of shares,
liquidations, credits and payments: what a staker was paid and has earned is what it would have got
if each deposit had been split at once over the shares of that moment. Of that sum it may lack less
than one for each time it was credited, and less than one more. So a deposit that finds a staker
without shares changes nothing about what it has earned. -/
theorem Run.rewards_split_deposits [Fintype ι] (unfunded : start.Unfunded)
    (run : start.Run history treasury) (given : DepositsInStep history) (who : ι) :
    ∃ amount, treasury.earned who = .ok amount ∧
      preciseUnit * (rewarded history who + amount.toNat) ≤ splits history who ∧
      splits history who <
        preciseUnit * (rewarded history who + amount.toNat + credits history who + 1) ∧
      ∀ operation after receipt, treasury.perform operation = .ok (after, receipt) →
        operation.deposited ≠ 0 → (after.stakers who).shares = 0 →
          after.earned who = .ok amount := by
  obtain ⟨_, amount, _, earned, _⟩ := (run.funded given unfunded.funded).takeReward who
  obtain ⟨_, lost, total, bounded⟩ := run.owes_of_splits unfunded given who
  have rounded := (RewardPool.earned_eq_ok.mp earned).2
  have parts := Nat.div_add_mod (treasury.pool.owes (treasury.stakers who)) preciseUnit
  have small := Nat.mod_lt (treasury.pool.owes (treasury.stakers who)) preciseUnit_pos
  rw [RewardPool.owes, ← rounded] at parts
  have most : (preciseUnit - 1) * credits history who ≤ preciseUnit * credits history who :=
    Nat.mul_le_mul_right _ (Nat.sub_le ..)
  refine ⟨amount, earned, ?_, ?_, fun _ _ _ performed deposits none =>
    earned_of_deposited performed deposits none earned⟩
  all_goals
    simp only [Nat.mul_add, Nat.mul_one, RewardPool.owes] at parts total small ⊢
    omega

/-- After the deposits of the shared pool, the staker that was liquidated takes its reward, and one
more deposit is split. -/
def takenPool : List (Operation Pair) :=
  sharedPool ++ [.takeReward .second, .deposit 7 33, .credit .first]

/-- The splits give 397.06, of which 389 were paid and 6 are earned, with three credits. -/
theorem rewards_split_deposits_takenPool :
    splits ((opened 0).play takenPool).1 .second = 397063636363636363620 ∧
      rewarded ((opened 0).play takenPool).1 .second = 389 ∧
      credits ((opened 0).play takenPool).1 .second = 3 ∧
      ((opened 0).play takenPool).2.earned .second = .ok 6 ∧
      preciseUnit * (389 + 6) ≤ 397063636363636363620 ∧
      397063636363636363620 < preciseUnit * (389 + 6 + 3 + 1) := by
  obtain ⟨amount, earned, atLeast, less, _⟩ :=
    Run.rewards_split_deposits (unfunded_opened 0) (run_play (opened 0) takenPool)
      (by decide +kernel) .second
  have earns : ((opened 0).play takenPool).2.earned .second = .ok 6 := by decide +kernel
  have split : splits ((opened 0).play takenPool).1 .second = 397063636363636363620 := by
    decide +kernel
  have taken : rewarded ((opened 0).play takenPool).1 .second = 389 := by decide +kernel
  have counted : credits ((opened 0).play takenPool).1 .second = 3 := by decide +kernel
  obtain rfl : amount = 6 := Except.ok.inj (earned.symm.trans earns)
  rw [split, taken] at atLeast
  rw [split, taken, counted] at less
  exact ⟨split, taken, counted, earns, atLeast, less⟩

end History

end Treasury

end FeeTreasury
