import FeeTreasury.Proofs.RewardPool
import FeeTreasury.Proofs.Treasury.Course

/-!
# The reward pool is solvent

The balance of the pool covers what it holds back and what it owes all stakers, with eighteen
decimals (`FeeTreasury.Treasury.Funded`). Every step keeps that, since a staker is credited before
its shares change, and a deposit is spread over the supply, which is the sum of all shares. So every
staker can take what it has earned, whoever else takes before it
(`FeeTreasury.Treasury.rewards_covered`).
-/

namespace FeeTreasury

open Outcome

/-- The supply that the request spreads a deposit over, if it names one. -/
def Operation.depositSupply {ι : Type} : Operation ι → Option UInt64
  | .deposit _ supply => some supply
  | _ => none

/-- The operation spreads a deposit over no other supply than the given one. -/
def Operation.DepositsOver {ι : Type} (supply : UInt64) (operation : Operation ι) : Prop :=
  ∀ named ∈ operation.depositSupply, named = supply

instance {ι : Type} (supply : UInt64) (operation : Operation ι) :
    Decidable (operation.DepositsOver supply) :=
  Option.decidableForallMem operation.depositSupply

namespace Treasury

variable {ι : Type}

/-- Every deposit of the history is spread over the registry's supply. -/
def DepositsInStep (history : List (Step ι)) : Prop :=
  ∀ step ∈ history, step.operation.DepositsOver step.before.registry.supply

instance (history : List (Step ι)) : Decidable (DepositsInStep history) :=
  List.decidableBAll _ history

theorem depositsInStep_cons {step : Step ι} {history : List (Step ι)} :
    DepositsInStep (step :: history) ↔
      step.operation.DepositsOver step.before.registry.supply ∧ DepositsInStep history :=
  List.forall_mem_cons

/-- A new pool, no shares, and stakers that have not earned anything. -/
structure Unfunded (treasury : Treasury ι) : Prop where
  pool : ∃ bump, treasury.pool = RewardPool.new bump
  supply : treasury.registry.supply = 0
  shares : ∀ who, (treasury.stakers who).shares = 0
  accrued : ∀ who, (treasury.stakers who).rewards.accrued = 0

theorem unfunded_opened (now : Int64) : (opened now : Treasury ι).Unfunded where
  pool := ⟨255, rfl⟩
  supply := rfl
  shares _ := rfl
  accrued _ := rfl

end Treasury

/-- What the pool owes a staker, with eighteen decimals. -/
def RewardPool.owes (pool : RewardPool) (staker : Staker) : Nat :=
  pool.owed staker.rewards staker.shares

section Funded

variable {ι : Type} [Fintype ι]

/-- The shares of all stakers are the supply, the balance covers what is held back and what the pool
owes the stakers, and what was deposited is in the balance or was paid. -/
structure RewardPool.Funds (pool : RewardPool) (supply : UInt64) (stakers : ι → Staker) : Prop where
  shares : ∑ who, (stakers who).shares.toNat = supply.toNat
  covered : preciseUnit * pool.undistributed.toNat + ∑ who, pool.owes (stakers who) ≤
    preciseUnit * pool.balance.toNat
  settled : pool.balance.toNat + pool.totalPaid.toNat = pool.totalDeposited.toNat

namespace RewardPool.Funds

variable {pool after : RewardPool} {supply : UInt64} {stakers : ι → Staker}

theorem owes_le (funds : pool.Funds supply stakers) (who : ι) :
    pool.owes (stakers who) ≤ preciseUnit * pool.balance.toNat := by
  have part := Finset.single_le_sum (f := fun other => pool.owes (stakers other))
    (fun _ _ => Nat.zero_le _) (Finset.mem_univ who)
  exact Nat.le_trans part (Nat.le_trans (Nat.le_add_left ..) funds.covered)

theorem shares_le (funds : pool.Funds supply stakers) (who : ι) :
    (stakers who).shares ≤ supply := by
  rw [UInt64.le_iff_toNat_le, ← funds.shares]
  exact Finset.single_le_sum (f := fun other => (stakers other).shares.toNat)
    (fun _ _ => Nat.zero_le _) (Finset.mem_univ who)

/-- A staker that is owed no more than before replaces itself, with its shares in the supply. -/
theorem replace [DecidableEq ι] (funds : pool.Funds supply stakers) {who : ι} {staker : Staker}
    (owed : pool.owes staker ≤ pool.owes (stakers who)) {counted : UInt64}
    (recounted : counted.toNat + (stakers who).shares.toNat = supply.toNat + staker.shares.toNat) :
    pool.Funds counted (Function.update stakers who staker) where
  shares := by
    have summed :=
      sum_update_add (Finset.mem_univ who) stakers (fun staker => staker.shares.toNat) staker
    have shares := funds.shares
    omega
  covered := by
    have summed := sum_update_add (Finset.mem_univ who) stakers pool.owes staker
    have covered := funds.covered
    omega
  settled := funds.settled

/-- A deposit that is spread raises what all stakers are owed by no more than it was. -/
theorem receive (funds : pool.Funds supply stakers) {amount : UInt64}
    (receives : pool.Receives after amount supply) : after.Funds supply stakers where
  shares := funds.shares
  covered := by
    have covered := funds.covered
    rw [receives.balance, Nat.mul_add]
    obtain ⟨_, reward, held⟩ | ⟨⟨_, supplied⟩, held, grown⟩ := receives.spread
    · have same : ∀ who, after.owes (stakers who) = pool.owes (stakers who) := fun who => by
        simp only [owes, owed, reward]
      rw [held, Nat.mul_add, Finset.sum_congr rfl fun who _ => same who]
      omega
    · have raised := Finset.sum_le_sum fun who (_ : who ∈ Finset.univ) =>
        owed_le_add grown (stakers who).rewards (stakers who).shares
      rw [Finset.sum_add_distrib, ← Finset.sum_mul, funds.shares] at raised
      have spread := Nat.mul_div_le
        ((pool.undistributed.toNat + amount.toNat) * preciseUnit) supply.toNat
      rw [Nat.add_mul, Nat.mul_comm _ preciseUnit, Nat.mul_comm _ preciseUnit] at spread raised
      rw [held, UInt64.toNat_zero, Nat.mul_zero, Nat.zero_add]
      simp only [owes] at covered ⊢
      omega
  settled := by
    rw [receives.balance, receives.totalDeposited, receives.totalPaid, ← funds.settled]
    omega

/-- A staker that takes what it has earned is owed nothing more. -/
theorem pay [DecidableEq ι] (funds : pool.Funds supply stakers) {who : ι} {rewards : Checkpoint}
    {amount : UInt64}
    (taken : pool.takeReward (stakers who).rewards (stakers who).shares =
      .ok (after, rewards, amount)) :
    after.Funds supply (Function.update stakers who { stakers who with rewards }) where
  shares := by
    have summed := sum_update_add (Finset.mem_univ who) stakers (fun staker => staker.shares.toNat)
      { stakers who with rewards }
    exact (Nat.add_right_cancel summed).trans funds.shares
  covered := by
    obtain ⟨answered, rfl, pays⟩ := takeReward_eq_ok taken
    have summed := sum_update_add (Finset.mem_univ who) stakers pool.owes
      { stakers who with rewards := ⟨pool.rewardPerShare, 0⟩ }
    have nothing : pool.owes { stakers who with rewards := ⟨pool.rewardPerShare, 0⟩ } = 0 :=
      owed_of_creditedUpTo rfl _
    have same : after.owes = pool.owes := by
      funext staker
      simp only [owes, owed, pays.rewardPerShare]
    have earned : preciseUnit * amount.toNat ≤ pool.owes (stakers who) := earned_mul_le answered
    have covered := funds.covered
    have less := congrArg (preciseUnit * ·) pays.balance
    simp only [Nat.mul_add] at less
    rw [same, pays.undistributed]
    omega
  settled := by
    obtain ⟨_, _, pays⟩ := takeReward_eq_ok taken
    rw [pays.totalPaid, pays.totalDeposited, ← funds.settled, ← pays.balance]
    omega

end RewardPool.Funds

namespace Treasury

variable [DecidableEq ι] {start treasury after : Treasury ι} {receipt : Receipt}
  {history : List (Step ι)}

/-- The pool of a treasury funds its stakers. -/
def Funded (treasury : Treasury ι) : Prop :=
  treasury.pool.Funds treasury.registry.supply treasury.stakers

omit [DecidableEq ι] in
theorem Unfunded.funded (unfunded : start.Unfunded) : start.Funded := by
  obtain ⟨bump, pool⟩ := unfunded.pool
  have shares : ∀ who, (start.stakers who).shares.toNat = 0 := fun who => by
    rw [unfunded.shares]
    rfl
  have owes : ∀ who, start.pool.owes (start.stakers who) = 0 := fun who => by
    rw [RewardPool.owes, RewardPool.owed, unfunded.accrued, shares, UInt64.toNat_zero, Nat.mul_zero,
      Nat.zero_mul]
  refine ⟨?_, ?_, ?_⟩
  · rw [Finset.sum_eq_zero fun who _ => shares who, unfunded.supply]
    rfl
  · rw [Finset.sum_eq_zero fun who _ => owes who, pool]
    exact Nat.le_refl _
  · rw [pool]
    rfl

/-- A change of shares credits the staker first. -/
theorem Funded.putShareBooks (funded : treasury.Funded) {who : ι} {collateral balance : UInt64}
    {books : ShareBooks} {now : Int64}
    (changed : ({ treasury.shareBooks who with
      staker := { treasury.stakers who with collateral } } : ShareBooks).setShares treasury.pool
        balance now = .ok books) : (treasury.putShareBooks who books).Funded := by
  obtain ⟨_, _, enough, counted, shares⟩ := ShareBooks.setShares_eq_ok changed
  obtain ⟨rewards, ownership, credited, staker⟩ := ShareBooks.setShares_staker changed
  refine RewardPool.Funds.replace funded ?_ ?_
  · rw [staker]
    exact RewardPool.owed_of_credit credited balance
  · simp only [shareBooks] at counted enough
    show books.registry.supply.toNat + _ = _
    rw [counted, shares]
    omega

/-- A staker that only differs in what the pool does not look at leaves the pool as it is. -/
theorem Funded.putStaker (funded : treasury.Funded) (who : ι) {staker : Staker}
    (rewards : staker.rewards = (treasury.stakers who).rewards)
    (shares : staker.shares = (treasury.stakers who).shares) :
    (treasury.putStaker who staker).Funded := by
  refine RewardPool.Funds.replace funded ?_ ?_
  · rw [RewardPool.owes, rewards, shares]
    rfl
  · rw [shares]
    rfl

theorem Funded.settleClaim (funded : treasury.Funded) {who : ι} {terms : ClaimTerms}
    {entitlement : Entitlement} {books : ClaimBooks}
    (claimed : Claiming.claim terms ⟨treasury.ledger, treasury.stakers who⟩ =
      .ok entitlement books) :
    ({ treasury.putStaker who books.staker with ledger := books.ledger } : Treasury ι).Funded := by
  obtain ⟨_, _, _, _, _, _, _, _, _, staker⟩ := Claiming.claim_eq_ok claimed
  exact funded.putStaker who (by rw [staker]) (by rw [staker])

/-- A step whose deposit is spread over the supply keeps the treasury funded. -/
theorem funded_of_perform {operation : Operation ι} (funded : treasury.Funded)
    (given : operation.DepositsOver treasury.registry.supply)
    (performed : treasury.perform operation = .ok (after, receipt)) : after.Funded := by
  cases performs_of_perform performed with
  | recordFee | recordReward | accrue | close | closeFromRelayer | importPeriod => exact funded
  | setShares changed => exact funded.putShareBooks changed
  | liquidate liquidated =>
    obtain ⟨_, _, _, changed, deposited⟩ := ShareBooks.liquidate_parts liquidated
    exact (funded.putShareBooks changed).receive (RewardPool.receives_of_deposit deposited)
  | claim claimed => exact funded.settleClaim claimed
  | claimOnBehalf claimed => exact funded.settleClaim (Claiming.claimOnBehalf_eq_ok claimed).2
  | setCollateral who => exact funded.putStaker who rfl rfl
  | @deposit _ supply _ deposited =>
    obtain rfl : supply = treasury.registry.supply := given supply rfl
    exact funded.receive (RewardPool.receives_of_deposit deposited)
  | @credit who rewards credited =>
    have owed : treasury.pool.owes { treasury.stakers who with rewards } ≤
        treasury.pool.owes (treasury.stakers who) := RewardPool.owed_of_credit credited _
    exact RewardPool.Funds.replace funded owed rfl
  | takeReward taken => exact funded.pay taken

theorem Run.funded (run : start.Run history treasury) (given : DepositsInStep history)
    (funded : start.Funded) : treasury.Funded := by
  induction run with
  | start => exact funded
  | step _ performed ih =>
    obtain ⟨deposits, earlier⟩ := depositsInStep_cons.mp given
    exact funded_of_perform (ih earlier) deposits performed

omit [Fintype ι] [DecidableEq ι] in
/-- What a staker has earned and was not paid. -/
def earned (treasury : Treasury ι) (who : ι) : Outcome UInt64 :=
  treasury.pool.earned (treasury.stakers who).rewards (treasury.stakers who).shares

/-- A staker of a funded treasury takes what it has earned. That changes nothing for the others. -/
theorem Funded.takeReward (funded : treasury.Funded) (who : ι) :
    ∃ after amount, treasury.perform (.takeReward who) = .ok (after, .released amount) ∧
      treasury.earned who = .ok amount ∧
      ∀ other, other ≠ who → after.earned other = treasury.earned other := by
  obtain ⟨pool, rewards, amount, taken⟩ :=
    RewardPool.exists_takeReward (RewardPool.Funds.owes_le funded who) funded.settled
  obtain ⟨answered, _, pays⟩ := RewardPool.takeReward_eq_ok taken
  refine ⟨_, amount, (Performs.takeReward taken).perform, answered, ?_⟩
  intro other different
  simp only [earned, RewardPool.earned, Treasury.putStaker, Function.update_of_ne different,
    pays.rewardPerShare]

/-- Stakers of a funded treasury that take their rewards one after the other are paid what each of
them had earned before the first was paid. -/
theorem Funded.takeRewards (funded : treasury.Funded) {amounts : ι → UInt64} (order : List ι)
    (once : order.Nodup) (earns : ∀ who ∈ order, treasury.earned who = .ok (amounts who)) :
    ∃ payments after, treasury.Run payments after ∧
      payments.reverse.map (fun step => (step.operation, step.receipt)) =
        order.map fun who => (.takeReward who, .released (amounts who)) := by
  induction order generalizing treasury with
  | nil => exact ⟨[], treasury, .start, rfl⟩
  | cons who rest ih =>
    obtain ⟨absent, once⟩ := List.nodup_cons.mp once
    obtain ⟨earnsFirst, earnsRest⟩ := List.forall_mem_cons.mp earns
    obtain ⟨next, amount, performed, answered, others⟩ := funded.takeReward who
    obtain rfl := Except.ok.inj (answered.symm.trans earnsFirst)
    have left : next.Funded :=
      funded_of_perform funded (fun _ named => absurd named (Option.not_mem_none _)) performed
    obtain ⟨payments, after, run, paid⟩ := ih left once fun other member => by
      rw [others other (ne_of_mem_of_not_mem member absent), earnsRest other member]
    refine ⟨payments ++ [⟨treasury, .takeReward who, next, .released (amounts who)⟩], after,
      (Run.start.step performed).trans run, ?_⟩
    rw [List.reverse_append, List.map_append, paid]
    rfl

/-- **The reward pool is solvent.** In every treasury that a run leads to, with every deposit spread
over the supply, the balance is what was deposited and not paid. It covers what is held back and
what all stakers have earned, so that a staker can take its reward at any time, and any stakers can
take theirs in any order. -/
theorem rewards_covered (unfunded : start.Unfunded) (run : start.Run history treasury)
    (given : DepositsInStep history) :
    treasury.pool.balance.toNat + treasury.pool.totalPaid.toNat =
        treasury.pool.totalDeposited.toNat ∧
      ∃ amounts : ι → UInt64, (∀ who, treasury.earned who = .ok (amounts who)) ∧
        treasury.pool.undistributed.toNat + ∑ who, (amounts who).toNat ≤
          treasury.pool.balance.toNat ∧
        (∀ who, ∃ after,
          treasury.perform (.takeReward who) = .ok (after, .released (amounts who))) ∧
        ∀ order : List ι, order.Nodup → ∃ payments after, treasury.Run payments after ∧
          payments.reverse.map (fun step => (step.operation, step.receipt)) =
            order.map fun who => (.takeReward who, .released (amounts who)) := by
  have funded := run.funded given unfunded.funded
  have takes := funded.takeReward
  choose after amounts performed earns _ using takes
  refine ⟨funded.settled, amounts, earns, ?_, fun who => ⟨after who, performed who⟩,
    fun order once => funded.takeRewards order once fun who _ => earns who⟩
  have rounded : ∑ who, preciseUnit * (amounts who).toNat ≤
      ∑ who, treasury.pool.owes (treasury.stakers who) :=
    Finset.sum_le_sum fun who _ => RewardPool.earned_mul_le (earns who)
  have covered := funded.covered
  refine Nat.le_of_mul_le_mul_left ?_ preciseUnit_pos
  rw [Nat.mul_add, Finset.mul_sum]
  omega

/-- A deposit waits for shares, a second one is spread over all, and then one staker loses some of
its shares to a liquidation whose proceeds are spread over the rest. -/
def sharedPool : List (Operation Pair) :=
  [.deposit 100 0, .setShares .first 30 0, .setCollateral .second 1000, .setShares .second 70 0,
    .deposit 101 100, .liquidate .second ⟨50, 40, 500, 0, 0, 500, false⟩ 5, .setShares .first 3 6]

theorem rewards_covered_sharedPool :
    ∃ payments after, ((opened 0).play sharedPool).2.Run payments after ∧
      payments.reverse.map (fun step => (step.operation, step.receipt)) =
        [(.takeReward .second, .released 389), (.takeReward .first, .released 310)] := by
  obtain ⟨_, amounts, earns, _, _, takes⟩ :=
    rewards_covered (unfunded_opened 0) (run_play _ sharedPool) (by decide +kernel)
  have first : amounts .first = 310 :=
    Except.ok.inj ((earns .first).symm.trans (by decide +kernel))
  have second : amounts .second = 389 :=
    Except.ok.inj ((earns .second).symm.trans (by decide +kernel))
  have paid := takes [.second, .first] (by decide)
  simpa only [List.map_cons, List.map_nil, first, second] using paid

end Treasury

end Funded

end FeeTreasury
