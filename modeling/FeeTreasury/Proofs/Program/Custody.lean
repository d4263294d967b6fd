import FeeTreasury.Proofs.Liquidation.Plan
import FeeTreasury.Proofs.Program.Touches
import FeeTreasury.Proofs.RewardPool

/-!
# The collateral that the program accounts for

The treasury accounts for collateral in two places: as the collateral of the stakers, and as the
balance of the reward pool (`FeeTreasury.Accounts.custody`). Of all instructions only five move it,
and what they move into these places and out of them is what they transfer into the vault and out of
it (`FeeTreasury.Program.custody_of_perform`): a liquidation hands what it redeems to the flagger,
the liquidator and the pool, without a remainder.
-/

namespace FeeTreasury

/-! ## Sums over the accounts -/

namespace Accounts

variable {accounts : Accounts} {program key : Key} {α : Type} [Stored α] [Recorded α]

/-- The keys of the accounts that were touched. -/
def keys (accounts : Accounts) : Finset Key := (accounts.entries.map Prod.fst).toFinset

/-- An amount, summed over all accounts that hold a value of a type. -/
def total (accounts : Accounts) (program : Key) (amount : α → Nat) : Nat :=
  ∑ key ∈ accounts.keys, (accounts.held program key).elim 0 amount

theorem held_of_notMem_keys (untouched : key ∉ accounts.keys) :
    accounts.held program key = (none : Option α) := by
  have unlisted : accounts.find? key = none := by
    simp only [keys, List.mem_toFinset, List.mem_map, not_exists, not_and] at untouched
    rw [find?, Option.map_eq_none_iff, List.find?_eq_none]
    intro entry member same
    exact untouched entry member (of_decide_eq_true same)
  apply held_of_vacant
  rw [get, unlisted]
  exact fun _ _ member => absurd member List.not_mem_nil

/-- A sum over all accounts is the sum over any keys that include them. -/
theorem total_eq_sum {keys : Finset Key} (includes : accounts.keys ⊆ keys) (amount : α → Nat) :
    accounts.total program amount =
      ∑ key ∈ keys, (accounts.held program key).elim 0 amount := by
  apply Finset.sum_subset includes
  intro key _ untouched
  rw [held_of_notMem_keys untouched]
  rfl

/-- Where accounts hold the same values of a type, sums over the type are the same. -/
theorem total_congr {after : Accounts} {amount : α → Nat}
    (same : after.held program = (accounts.held program : Key → Option α)) :
    after.total program amount = accounts.total program amount := by
  rw [total_eq_sum (Finset.subset_union_left : _ ⊆ _ ∪ accounts.keys),
    total_eq_sum (Finset.subset_union_right : _ ⊆ after.keys ∪ _), same]

end Accounts

namespace Run.Writes

variable {program key : Key} {before after : Run} {puts : List (Key × Record)}
  {calls : List OutsideCall} {α : Type} [Stored α] [Recorded α]

theorem total_eq (writes : before.Writes program after puts calls) (amount : α → Nat)
    (others : valuesOf α puts = []) :
    after.accounts.total program amount = before.accounts.total program amount :=
  Accounts.total_congr (writes.held_eq others)

/-- Where one value of a type was written, a sum over the type changes by it. -/
theorem total_add (writes : before.Writes program after puts calls) (amount : α → Nat)
    (value : α) (one : valuesOf α puts = [(key, value)]) :
    after.accounts.total program amount + (before.accounts.held program key).elim 0 amount =
      before.accounts.total program amount + amount value := by
  have updated := writes.held_one one
  -- An untouched account holds nothing, but the key holds the value now.
  have touched : key ∈ after.accounts.keys ∪ before.accounts.keys := by
    apply Finset.mem_union_left
    by_contra untouched
    have none : after.accounts.held program key = (none : Option α) :=
      Accounts.held_of_notMem_keys untouched
    rw [updated, Function.update_self] at none
    exact nomatch none
  rw [Accounts.total_eq_sum (Finset.subset_union_left : _ ⊆ _ ∪ before.accounts.keys),
    Accounts.total_eq_sum (Finset.subset_union_right : _ ⊆ after.accounts.keys ∪ _), updated]
  exact sum_update_add touched (before.accounts.held program) (Option.elim · 0 amount) (some value)

end Run.Writes

/-! ## Custody -/

/-- The collateral of all stakers, and the balance of the reward pool. -/
def Accounts.custody (accounts : Accounts) (program : Key) : Nat :=
  accounts.total program (fun staker : Staker => staker.collateral.toNat) +
    accounts.total program (fun pool : RewardPool => pool.balance.toNat)

theorem Accounts.custody_of_spares {accounts after : Accounts} {program : Key}
    (spares : accounts.Spares program after) :
    after.custody program = accounts.custody program := by
  rw [custody, total_congr (held_of_spares spares), total_congr (held_of_spares spares), custody]

namespace Run.Writes

variable {program key place : Key} {before after : Run} {puts : List (Key × Record)}
  {calls : List OutsideCall} {staker changed : Staker} {pool fed : RewardPool}

theorem custody_eq (writes : before.Writes program after puts calls)
    (stakers : valuesOf Staker puts = []) (pools : valuesOf RewardPool puts = []) :
    after.accounts.custody program = before.accounts.custody program := by
  rw [Accounts.custody, writes.total_eq _ stakers, writes.total_eq _ pools, Accounts.custody]

theorem custody_staker (writes : before.Writes program after puts calls)
    (found : before.Holds program key staker) (stakers : valuesOf Staker puts = [(key, changed)])
    (pools : valuesOf RewardPool puts = []) :
    after.accounts.custody program + staker.collateral.toNat =
      before.accounts.custody program + changed.collateral.toNat := by
  have collateral := writes.total_add (fun staker : Staker => staker.collateral.toNat) _ stakers
  rw [found, Option.elim_some] at collateral
  rw [Accounts.custody, Accounts.custody, writes.total_eq _ pools]
  omega

theorem custody_both (writes : before.Writes program after puts calls)
    (found : before.Holds program key staker) (stakers : valuesOf Staker puts = [(key, changed)])
    (poolFound : before.Holds program place pool)
    (pools : valuesOf RewardPool puts = [(place, fed)]) :
    after.accounts.custody program + staker.collateral.toNat + pool.balance.toNat =
      before.accounts.custody program + changed.collateral.toNat + fed.balance.toNat := by
  have collateral := writes.total_add (fun staker : Staker => staker.collateral.toNat) _ stakers
  have balance := writes.total_add (fun pool : RewardPool => pool.balance.toNat) _ pools
  rw [found, Option.elim_some] at collateral
  rw [poolFound, Option.elim_some] at balance
  rw [Accounts.custody, Accounts.custody]
  omega

end Run.Writes

/-! ## What an instruction moves -/

/-- What a call transfers. -/
def OutsideCall.amount : OutsideCall → Nat
  | createAccount .. => 0
  | transfer _ _ _ amount => amount.toNat

/-- What some calls transfer together. -/
def transferred (calls : List OutsideCall) : Nat := (calls.map OutsideCall.amount).sum

theorem transferred_append (first second : List OutsideCall) :
    transferred (first ++ second) = transferred first + transferred second := by
  simp only [transferred, List.map_append, List.sum_append]

theorem transferred_payment (vault destination authority : Key) (amount : UInt64) :
    transferred (Exec.payment vault destination authority amount) = amount.toNat := by
  unfold Exec.payment
  split
  · rw [‹amount = 0›]
    rfl
  · rfl

namespace Instruction

/-- Collateral that an instruction puts into the vault. -/
def deposited : Instruction → Nat
  | depositCollateral amount => amount.toNat
  | _ => 0

/-- Collateral that an instruction, with its calls, takes out of the vault. -/
def released : Instruction → List OutsideCall → Nat
  | withdrawCollateral amount, _ => amount.toNat
  | liquidateAccount, calls | takeReward, calls => transferred calls
  | _, _ => 0

/-- An instruction that writes no stakers leaves the vault alone. -/
theorem released_eq_deposited {instruction : Instruction}
    (quiet : Kind.staker ∉ instruction.touches) (calls : List OutsideCall) :
    instruction.released calls = instruction.deposited := by
  cases instruction with
  | depositCollateral | withdrawCollateral | liquidateAccount | takeReward =>
    exact absurd (by simp [touches]) quiet
  | _ => rfl

end Instruction

/-- A liquidation takes from the staker what it redeems, and gives the pool its part. -/
theorem ShareBooks.custody_of_liquidate {books left : ShareBooks} {pool fed : RewardPool}
    {plan : LiquidationPlan} {now : Int64}
    (liquidated : books.liquidate pool plan now = .ok (left, fed)) :
    left.staker.collateral.toNat + plan.collateralRedeemed.toNat = books.staker.collateral.toNat ∧
      fed.balance.toNat = pool.balance.toNat + plan.poolDeposit.toNat := by
  obtain ⟨enough, balance, _, changed, deposited⟩ := liquidate_parts liquidated
  obtain ⟨_, _, _, staker⟩ := setShares_staker changed
  refine ⟨?_, (RewardPool.receives_of_deposit deposited).balance⟩
  rw [staker, UInt64.toNat_sub_of_le _ _ enough,
    Nat.sub_add_cancel (UInt64.le_iff_toNat_le.mp enough)]

namespace Program

open Exec Stateful

variable {env : Env} {run after : Run} {u : Unit}

/-- A part of a run did to the custody of collateral what an instruction does. -/
def Keeps (env : Env) (instruction : Instruction) (before after : Run) : Prop :=
  ∃ puts calls, before.Writes env.program after puts calls ∧
    after.accounts.custody env.program + instruction.released calls =
      before.accounts.custody env.program + instruction.deposited

section Keeps

variable {instruction : Instruction} {puts : List (Key × Record)} {calls : List OutsideCall}

theorem keeps_of_quiet (writes : run.Writes env.program after puts calls)
    (stakers : valuesOf Staker puts = []) (pools : valuesOf RewardPool puts = [])
    (stays : instruction.released calls = instruction.deposited) :
    Keeps env instruction run after :=
  ⟨puts, calls, writes, by rw [stays, writes.custody_eq stakers pools]⟩

theorem keeps_of_staker {key : Key} {staker changed : Staker}
    (writes : run.Writes env.program after puts calls) (found : run.Holds env.program key staker)
    (stakers : valuesOf Staker puts = [(key, changed)]) (pools : valuesOf RewardPool puts = [])
    (moves : changed.collateral.toNat + instruction.released calls =
      staker.collateral.toNat + instruction.deposited) : Keeps env instruction run after := by
  refine ⟨puts, calls, writes, ?_⟩
  have custody := writes.custody_staker found stakers pools
  omega

theorem keeps_of_both {key place : Key} {staker changed : Staker} {pool fed : RewardPool}
    (writes : run.Writes env.program after puts calls) (found : run.Holds env.program key staker)
    (stakers : valuesOf Staker puts = [(key, changed)])
    (poolFound : run.Holds env.program place pool)
    (pools : valuesOf RewardPool puts = [(place, fed)])
    (moves : changed.collateral.toNat + fed.balance.toNat + instruction.released calls =
      staker.collateral.toNat + pool.balance.toNat + instruction.deposited) :
    Keeps env instruction run after := by
  refine ⟨puts, calls, writes, ?_⟩
  have custody := writes.custody_both found stakers poolFound pools
  omega

end Keeps

theorem keeps_setUp {r : SetUpRoster} {settings : Settings} (sound : run.accounts.Sound env.program)
    (ran : setUp env r settings run = .ok u after) : Keeps env (.setUp settings) run after := by
  obtain ⟨_, _, _, _, _, bump, _, _, ⟨_, unheld, _⟩, writes⟩ := setUp_writes sound ran
  refine ⟨_, _, writes, ?_⟩
  have balance := writes.total_add (fun pool : RewardPool => pool.balance.toNat)
    (RewardPool.new bump) rfl
  have collateral := writes.total_eq (fun staker : Staker => staker.collateral.toNat) rfl
  rw [unheld] at balance
  rw [Accounts.custody, Accounts.custody, collateral]
  exact congrArg _ balance

theorem keeps_createStaker {r : NewStakerRoster} (sound : run.accounts.Sound env.program)
    (ran : createStaker env r run = .ok u after) : Keeps env .createStaker run after := by
  obtain ⟨bump, _, _, empty, _, writes⟩ := createStaker_writes sound ran
  refine ⟨_, _, writes, ?_⟩
  have collateral := writes.total_add (fun staker : Staker => staker.collateral.toNat)
    (Staker.new r.owner bump env.now) rfl
  have balance := writes.total_eq (fun pool : RewardPool => pool.balance.toNat) rfl
  rw [held_of_isEmpty empty] at collateral
  rw [Accounts.custody, Accounts.custody, balance]
  exact congrArg (· + run.accounts.total env.program fun pool : RewardPool => pool.balance.toNat)
    collateral

theorem keeps_recordShares {r : SharesRoster} {shares : UInt64}
    (sound : run.accounts.Sound env.program)
    (ran : recordShares env r shares run = .ok u after) :
    Keeps env (.recordShares shares) run after := by
  obtain ⟨_, books, changed, _, _, _, _, _, found, answered, writes⟩ :=
    recordShares_writes sound ran
  obtain ⟨_, _, _, staker⟩ := ShareBooks.setShares_staker answered
  exact keeps_of_staker writes found rfl rfl (by rw [staker]; rfl)

theorem keeps_payClaim {r : ClaimRoster} {owner : Key} {claim : ClaimTerms → Claiming Entitlement}
    {instruction : Instruction} (sound : run.accounts.Sound env.program)
    (ran : payClaim env r owner claim run = .ok u after)
    (settles : ∀ terms books claimed after, claim terms books = .ok claimed after →
      Claiming.Settles books after)
    (stays : ∀ calls, instruction.released calls = instruction.deposited) :
    Keeps env instruction run after := by
  obtain ⟨_, _, _, _, _, _, _, _, _, _, found, _, _, _, answered, writes⟩ :=
    payClaim_writes sound ran settles
  obtain ⟨_, staker⟩ := (settles _ _ _ _ answered).staker
  exact keeps_of_staker writes found rfl rfl (by rw [staker, stays])

theorem keeps_depositCollateral {r : DepositRoster} {amount : UInt64}
    (sound : run.accounts.Sound env.program)
    (ran : depositCollateral env r amount run = .ok u after) :
    Keeps env (.depositCollateral amount) run after := by
  obtain ⟨_, _, _, _, _, found, _, summed, writes⟩ := depositCollateral_writes sound ran
  exact keeps_of_staker writes found rfl rfl summed

theorem keeps_withdrawCollateral {r : WithdrawRoster} {amount : UInt64}
    (sound : run.accounts.Sound env.program)
    (ran : withdrawCollateral env r amount run = .ok u after) :
    Keeps env (.withdrawCollateral amount) run after := by
  obtain ⟨_, _, _, _, staker, _, _, _, _, _, _, _, _, found, _, _, ⟨_, enough, _⟩, _, writes⟩ :=
    withdrawCollateral_writes sound ran
  apply keeps_of_staker writes found rfl rfl
  show (staker.collateral - amount).toNat + amount.toNat = staker.collateral.toNat
  rw [UInt64.toNat_sub_of_le _ _ enough, Nat.sub_add_cancel (UInt64.le_iff_toNat_le.mp enough)]

theorem keeps_takeReward {r : RewardRoster} (sound : run.accounts.Sound env.program)
    (ran : takeReward env r run = .ok u after) : Keeps env .takeReward run after := by
  obtain ⟨_, _, pool, left, staker, rewards, amount, _, poolFound, found, _, taken, _,
    ⟨_, writes⟩ | ⟨_, writes⟩⟩ := takeReward_writes sound ran
  · exact keeps_of_quiet writes rfl rfl rfl
  · apply keeps_of_both writes found rfl poolFound rfl
    obtain ⟨_, _, pays⟩ := RewardPool.takeReward_eq_ok taken
    show staker.collateral.toNat + left.balance.toNat + transferred (payment ..) =
      staker.collateral.toNat + pool.balance.toNat
    rw [transferred_payment, Nat.add_assoc, pays.balance]

theorem keeps_liquidateAccount {roster : DelinquentRoster} (sound : run.accounts.Sound env.program)
    (ran : liquidateAccount env roster run = .ok u after) :
    Keeps env .liquidateAccount run after := by
  obtain ⟨_, _, books, left, pool, fed, _, _, _, _, _, plan, _, ⟨_, _, poolFound, _, found⟩, _, _,
    _, ⟨_, planned, liquidated⟩, writes⟩ := liquidateAccount_writes sound ran
  apply keeps_of_both writes found rfl poolFound rfl
  obtain ⟨collateral, balance⟩ := ShareBooks.custody_of_liquidate liquidated
  have divides := Position.plan_divides planned
  show left.staker.collateral.toNat + fed.balance.toNat +
      transferred (payment _ _ _ plan.flagReward ++ payment _ _ _ plan.liquidateReward) =
    books.staker.collateral.toNat + pool.balance.toNat
  rw [transferred_append, transferred_payment, transferred_payment]
  omega

theorem keeps_liquidateSelf {r : LiquidationRoster} (sound : run.accounts.Sound env.program)
    (ran : liquidateSelf env r run = .ok u after) : Keeps env .liquidateSelf run after := by
  obtain ⟨_, _, books, left, pool, fed, records, _, _, _, terms, plan, _,
    ⟨_, _, poolFound, _, found, _⟩, _, _, ⟨agreed, planned, liquidated⟩, writes⟩ :=
    liquidateSelf_writes sound ran
  -- A flag that is closed on the way is written to the book and the entry, and to nothing else.
  apply keeps_of_both writes found (valuesOf_optional rfl) poolFound (valuesOf_optional rfl)
  obtain ⟨collateral, balance⟩ := ShareBooks.custody_of_liquidate liquidated
  have divides := Position.plan_divides planned
  obtain ⟨flagReward, liquidateReward⟩ := Position.plan_rewards_le planned
  -- The terms for the owner promise no rewards, so the pool gets all that is redeemed.
  simp only [Settings.termsForSelf, Outcome.bind_eq_ok, Outcome.pure_eq_ok] at agreed
  obtain ⟨_, _, rfl⟩ := agreed
  have unpaid : plan.flagReward.toNat ≤ 0 ∧ plan.liquidateReward.toNat ≤ 0 :=
    ⟨flagReward, liquidateReward⟩
  show left.staker.collateral.toNat + fed.balance.toNat + 0 =
    books.staker.collateral.toNat + pool.balance.toNat + 0
  omega

/-- **What an instruction does to the custody of collateral.** It grows by what the instruction
deposits, and shrinks by what the instruction releases. -/
theorem custody_of_perform {keys : List Key} {instruction : Instruction}
    (sound : run.accounts.Sound env.program)
    (performed : perform env keys instruction run = .ok u after) :
    Keeps env instruction run after := by
  by_cases quiet : Kind.staker ∉ instruction.touches ∧ Kind.rewardPool ∉ instruction.touches
  · obtain ⟨stakers, pools⟩ := quiet
    obtain ⟨puts, calls, writes, kinds⟩ := writes_of_perform sound performed
    exact keeps_of_quiet writes (valuesOf_eq_nil fun member => stakers (kinds member))
      (valuesOf_eq_nil fun member => pools (kinds member))
      (Instruction.released_eq_deposited stakers calls)
  -- The others write stakers or the reward pool.
  · cases instruction
    case setUp =>
      obtain ⟨_, _, ran⟩ := withRoster_eq_ok.mp performed
      exact keeps_setUp sound ran
    case createStaker =>
      obtain ⟨_, _, ran⟩ := withRoster_eq_ok.mp performed
      exact keeps_createStaker sound ran
    case recordShares =>
      obtain ⟨_, _, ran⟩ := withRoster_eq_ok.mp performed
      exact keeps_recordShares sound ran
    case claimFees =>
      obtain ⟨_, _, _, _, _, _, ran⟩ := claimFees_eq_ok.mp performed
      exact keeps_payClaim sound ran (fun _ _ _ _ => Claiming.settles_of_claim) fun _ => rfl
    case claimOnBehalf =>
      obtain ⟨_, _, _, _, _, _, _, _, _, ran⟩ := claimOnBehalf_eq_ok.mp performed
      exact keeps_payClaim sound ran (fun _ _ _ _ => Claiming.settles_of_claimOnBehalf)
        fun _ => rfl
    case depositCollateral =>
      obtain ⟨_, _, ran⟩ := withRoster_eq_ok.mp performed
      exact keeps_depositCollateral sound ran
    case withdrawCollateral =>
      obtain ⟨_, _, ran⟩ := withRoster_eq_ok.mp performed
      exact keeps_withdrawCollateral sound ran
    case liquidateAccount =>
      obtain ⟨_, _, ran⟩ := withRoster_eq_ok.mp performed
      exact keeps_liquidateAccount sound ran
    case liquidateSelf =>
      obtain ⟨_, _, ran⟩ := withRoster_eq_ok.mp performed
      exact keeps_liquidateSelf sound ran
    case takeReward =>
      obtain ⟨_, _, ran⟩ := withRoster_eq_ok.mp performed
      exact keeps_takeReward sound ran
    all_goals exact absurd (by simp [Instruction.touches]) quiet

end Program

end FeeTreasury
