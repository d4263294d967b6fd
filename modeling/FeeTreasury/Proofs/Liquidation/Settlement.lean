import FeeTreasury.Proofs.Liquidation.Restoration
import FeeTreasury.Proofs.Treasury.Course

/-!
# What a partial liquidation settles

A plan removes debt in dollars, but what an account gives up is shares, rounded up. Once the total
debt is reported without the removed part, the account's debt is reckoned anew, as its part of a
smaller total over a smaller supply. Its old debt was rounded down, so that its part of the total is
a little more than what the plan knows of; but the rest of that fraction is spread over all shares
that are left, and the account holds no more than these (`FeeTreasury.part_left_lt`). So the account
owes at most what the plan leaves of its debt, and its collateral is worth at least what the charge
leaves of its value (`FeeTreasury.ShareBooks.position_of_liquidate_partly`).
-/

namespace FeeTreasury

open Outcome

/-- The old part of an owner, rounded down, is what is due and what is removed. If the shares burned
are enough for what is removed, the new part of what is left of the total is less than one more than
what is due. -/
theorem part_left_lt {left burned others due removed total : Nat} (something : 0 < left)
    (enough : left * removed ≤ burned * due)
    (whole : (left + burned) * total < (left + burned + others) * (due + removed + 1)) :
    left * total < (left + others) * (due + 1) + left * removed := by
  have borne : others * (left * removed) ≤ others * (burned * due) := Nat.mul_le_mul_left _ enough
  have balanced : left * ((left + burned + others) * (due + removed + 1)) +
      (others * (burned * due) + others * burned) =
        (left + burned) * ((left + others) * (due + 1) + left * removed) +
          others * (left * removed) := by ring
  refine Nat.lt_of_mul_lt_mul_left (a := left + burned) ?_
  calc (left + burned) * (left * total)
      = left * ((left + burned) * total) := Nat.mul_left_comm ..
    _ < left * ((left + burned + others) * (due + removed + 1)) :=
      Nat.mul_lt_mul_of_pos_left whole something
    _ ≤ (left + burned) * ((left + others) * (due + 1) + left * removed) := by omega

/-- Shares that are burned, rounded up, for a part of a debt that is rounded down, leave at most the
rest of the debt. -/
theorem debt_left_le {shares supply total debt removed burned : Nat} (part : shares ≤ supply)
    (owes : debt = shares * total / supply) (less : removed < debt) (within : burned ≤ shares)
    (enough : shares * removed ≤ burned * debt) :
    (shares - burned) * (total - removed) / (supply - burned) + removed ≤ debt := by
  obtain ⟨left, rfl⟩ := Nat.exists_eq_add_of_le' within
  obtain ⟨others, rfl⟩ := Nat.exists_eq_add_of_le part
  obtain ⟨due, rfl⟩ := Nat.exists_eq_add_of_le' (Nat.le_of_lt less)
  rw [Nat.add_sub_cancel]
  rcases Nat.eq_zero_or_pos left with rfl | something
  · rw [Nat.zero_mul, Nat.zero_div, Nat.zero_add]
    exact Nat.le_of_lt less
  have supplied : 0 < left + burned + others := by omega
  have whole : (left + burned) * total < (left + burned + others) * (due + removed + 1) := by
    rw [owes]
    exact Nat.lt_mul_div_succ _ supplied
  have spared : left * removed ≤ burned * due := by
    rw [Nat.add_mul, Nat.mul_add] at enough
    omega
  have bound := part_left_lt something spared whole
  have rest : left + burned + others - burned = left + others := by omega
  have room : 0 < (left + others) * (due + 1) := Nat.mul_pos (by omega) due.succ_pos
  refine Nat.add_le_add_right (Nat.lt_succ_iff.mp ?_) removed
  rw [rest, Nat.div_lt_iff_lt_mul (by omega), Nat.mul_sub, Nat.mul_comm (due.succ)]
  show _ < (left + others) * (due + 1)
  omega

/-- The debt of some shares is their part of the total debt, rounded down. -/
theorem debtOf_eq_ok {shares supply totalDebt debt : UInt64} (part : shares ≤ supply) :
    debtOf shares supply totalDebt = .ok debt ↔
      debt.toNat = shares.toNat * totalDebt.toNat / supply.toNat := by
  unfold debtOf
  by_cases none : shares = 0 ∨ supply = 0
  · have nothing : shares.toNat * totalDebt.toNat / supply.toNat = 0 := by
      rcases none with rfl | rfl
      · rw [UInt64.toNat_zero, Nat.zero_mul, Nat.zero_div]
      · rw [UInt64.toNat_zero, Nat.div_zero]
    rw [if_pos none, pure_eq_ok, nothing, ← UInt64.toNat_zero, UInt64.toNat_inj, eq_comm]
  · rw [if_neg none, mulDiv_eq_ok]
    exact and_iff_right fun empty => none (.inr empty)

namespace Position

variable {shares collateral supply : UInt64} {market : Market} {position : Position}

/-- A position has what it was made of, and its debt is the shares' part of the total debt. -/
theorem of_eq_ok (part : shares ≤ supply)
    (seen : Position.of shares collateral supply market = .ok position) :
    position.shares = shares ∧ position.collateral = collateral ∧
      position.debt.toNat = shares.toNat * market.totalDebt.toNat / supply.toNat := by
  simp only [Position.of, bind_eq_ok, pure_eq_ok, debtOf_eq_ok part] at seen
  obtain ⟨debt, owes, _, _, _, _, rfl⟩ := seen
  exact ⟨rfl, rfl, owes⟩

/-- Shares of the supply and collateral whose value is a word have a position. -/
theorem exists_of (part : shares ≤ supply)
    (worth : collateral.toNat * market.price.toNat / unit.toNat < UInt64.size) :
    ∃ position, Position.of shares collateral supply market = .ok position := by
  obtain ⟨debt, owes⟩ : ∃ debt, debtOf shares supply market.totalDebt = .ok debt := by
    unfold debtOf
    by_cases none : shares = 0 ∨ supply = 0
    · exact ⟨0, if_pos none⟩
    · rw [if_neg none, mulDiv_comm]
      exact mulDiv_of_le (fun empty => none (.inr empty)) part
  obtain ⟨value, valueEq⟩ := lt_size_iff.mp worth
  have valued : decimalMul collateral market.price = .ok value := decimalMul_eq_ok.mpr valueEq
  obtain ⟨ratio, rated⟩ : ∃ ratio, debtRatio debt value = .ok ratio := by
    rcases Nat.eq_zero_or_pos debt.toNat with free | indebted
    · exact ⟨0, if_pos (UInt64.toNat_inj.mp free)⟩
    · obtain ⟨ratio, rated, _⟩ := debtRatio_of_pos indebted value
      exact ⟨ratio, rated⟩
  refine ⟨⟨shares, debt, collateral, value, ratio⟩, ?_⟩
  simp only [Position.of, bind_eq_ok, pure_eq_ok]
  exact ⟨debt, owes, value, valued, ratio, rated, rfl⟩

/-- A plan that is not full burns no more shares than there are, and enough for the debt removed. -/
theorem burned_of_plan_partly {terms : LiquidationTerms} {plan : LiquidationPlan}
    (planned : position.plan terms = .ok plan) (partly : plan.full = false) :
    plan.sharesBurned.toNat ≤ position.shares.toNat ∧
      position.shares.toNat * plan.debtRemoved.toNat ≤
        plan.sharesBurned.toNat * position.debt.toNat := by
  obtain ⟨amount, taken, _, _, _, takes, _, rfl⟩ := plan_eq_ok planned
  obtain ⟨_, _, ⟨_, _, _, rfl⟩ | ⟨within, burned, burns, rfl⟩⟩ := takings_eq_ok.mp takes
  · exact Bool.noConfusion partly
  obtain ⟨indebted, burnedEq⟩ := mulDivUp_eq_ok.mp burns
  have positive : 0 < position.debt.toNat := toNat_pos_of_ne_zero indebted
  have enough : position.shares.toNat * amount.toNat ≤ burned.toNat * position.debt.toNat := by
    rw [burnedEq, Nat.mul_comm (_ ⌈/⌉ _)]
    exact le_smul_ceilDiv positive
  -- The amount is less than the debt, so that the cap at the account's shares is never met.
  have part : burned ≤ position.shares := by
    rw [UInt64.le_iff_toNat_le, burnedEq, ceilDiv_le_iff_le_smul positive, smul_eq_mul,
      Nat.mul_comm position.debt.toNat]
    exact Nat.mul_le_mul_left _ (Nat.le_of_lt (UInt64.lt_iff_toNat_lt.mp within.1))
  have uncapped : (if burned ≤ position.shares then burned else position.shares) = burned :=
    if_pos part
  show (if burned ≤ position.shares then burned else position.shares).toNat ≤ _ ∧
    _ ≤ (if burned ≤ position.shares then burned else position.shares).toNat * _
  rw [uncapped]
  exact ⟨UInt64.le_iff_toNat_le.mp part, enough⟩

end Position

namespace ShareBooks

variable {books after : ShareBooks} {pool fed : RewardPool} {market : Market} {position : Position}
  {terms : LiquidationTerms} {plan : LiquidationPlan} {now : Int64}

/-- What a liquidation leaves of shares, supply and collateral. -/
theorem left_of_liquidate (liquidated : books.liquidate pool plan now = .ok (after, fed)) :
    plan.collateralRedeemed ≤ books.staker.collateral ∧
      after.staker.collateral = books.staker.collateral - plan.collateralRedeemed ∧
      books.staker.shares ≤ books.registry.supply ∧
      after.staker.shares.toNat = books.staker.shares.toNat - plan.sharesBurned.toNat ∧
      (plan.sharesBurned ≤ books.staker.shares →
        after.registry.supply.toNat = books.registry.supply.toNat - plan.sharesBurned.toNat) := by
  obtain ⟨redeems, balance, burned, changed, _⟩ := liquidate_parts liquidated
  obtain ⟨within, rfl⟩ := checkedSub_eq_ok.mp burned
  obtain ⟨_, _, part, supplied, shares⟩ := setShares_eq_ok changed
  obtain ⟨_, _, _, staker⟩ := setShares_staker changed
  have left := UInt64.toNat_sub_of_le _ _ (UInt64.le_iff_toNat_le.mpr within)
  refine ⟨redeems, by rw [staker], UInt64.le_iff_toNat_le.mpr part, by rw [shares, left],
    fun _ => ?_⟩
  simp only [left] at supplied part
  omega

/-- **A partial liquidation removes the debt that it says.** If the plan for the staker's position
is not full and is carried out, and the total debt is then reported without the debt removed, at the
same price: the staker has a position again, its debt is at most what the plan leaves of the old
debt, and its collateral is worth at least what the charge for the debt removed, the penalty
included and rounded down, leaves of the old value. -/
theorem position_of_liquidate_partly (priced : terms.price = market.price)
    (seen : books.staker.position books.registry.supply market = .ok position)
    (planned : position.plan terms = .ok plan) (partly : plan.full = false)
    (liquidated : books.liquidate pool plan now = .ok (after, fed)) :
    plan.debtRemoved ≤ market.totalDebt ∧
      ∃ left, after.staker.position after.registry.supply
          ⟨market.price, market.totalDebt - plan.debtRemoved⟩ = .ok left ∧
        left.debt.toNat + plan.debtRemoved.toNat ≤ position.debt.toNat ∧
        position.collateralValue.toNat ≤ left.collateralValue.toNat +
          plan.debtRemoved.toNat * (unit.toNat + terms.penalty.toNat) / unit.toNat := by
  obtain ⟨redeems, collateralLeft, part, sharesLeft, supplyLeft⟩ := left_of_liquidate liquidated
  obtain ⟨shares, collateral, owes⟩ := Position.of_eq_ok part seen
  obtain ⟨_, _, less, requires, _⟩ := Position.plan_partly planned partly
  obtain ⟨within, enough⟩ := Position.burned_of_plan_partly planned partly
  rw [shares] at within enough
  replace supplyLeft := supplyLeft (UInt64.le_iff_toNat_le.mpr within)
  rw [UInt64.lt_iff_toNat_lt] at less
  rw [UInt64.le_iff_toNat_le] at part
  -- The account's debt is a part of the total, so the total can be reported without its part.
  have whole : position.debt.toNat ≤ market.totalDebt.toNat := by
    rw [owes]
    exact Nat.div_le_of_le_mul (Nat.mul_le_mul_right _ part)
  have reported : plan.debtRemoved ≤ market.totalDebt :=
    UInt64.le_iff_toNat_le.mpr (by omega)
  have partLeft : after.staker.shares ≤ after.registry.supply := by
    rw [UInt64.le_iff_toNat_le, sharesLeft, supplyLeft]
    omega
  -- The collateral redeemed is rounded down twice, so it is worth at most the charge.
  obtain ⟨_, required⟩ := collateralFor_eq_ok requires
  have worth : plan.collateralRedeemed.toNat * market.price.toNat ≤
      plan.debtRemoved.toNat * (unit.toNat + terms.penalty.toNat) / unit.toNat * unit.toNat := by
    rw [required, priced]
    exact Nat.div_mul_le_self ..
  have kept := value_le_left_add books.staker.collateral.toNat unit_pos worth
  rw [← UInt64.toNat_sub_of_le _ _ redeems, ← collateralLeft] at kept
  have value := Position.collateralValue_of seen
  rw [collateral] at value
  have fits : after.staker.collateral.toNat * market.price.toNat / unit.toNat < UInt64.size := by
    refine Nat.lt_of_le_of_lt ?_ (value ▸ position.collateralValue.toNat_lt)
    rw [collateralLeft, UInt64.toNat_sub_of_le _ _ redeems]
    exact Nat.div_le_div_right (Nat.mul_le_mul_right _ (Nat.sub_le ..))
  obtain ⟨left, valued⟩ : ∃ left, after.staker.position after.registry.supply
      ⟨market.price, market.totalDebt - plan.debtRemoved⟩ = .ok left :=
    Position.exists_of partLeft fits
  obtain ⟨_, collateralSeen, owed⟩ := Position.of_eq_ok partLeft valued
  have valueLeft := Position.collateralValue_of valued
  rw [collateralSeen] at valueLeft
  refine ⟨reported, left, valued, ?_, ?_⟩
  · rw [owed, sharesLeft, supplyLeft, UInt64.toNat_sub_of_le _ _ reported]
    exact debt_left_le part owes less within enough
  · rw [value, valueLeft]
    exact kept

/-- A staker with a third of the shares, sixty thousand of collateral, and no history. -/
def partHolder : ShareBooks where
  ledger := PeriodLedger.new 0 255
  registry := { ShareRegistry.new 255 with supply := 30000000000 }
  staker := { Staker.new default 255 0 with shares := 10000000000, collateral := 60000000000 }

/-- A price of thirty cents, and a total debt of which a third is not a whole number. -/
def unevenMarket : Market := ⟨300000, 30000000007⟩

/-- The staker's position, its debt rounded down. -/
def partPosition : Position := ⟨10000000000, 10000000002, 60000000000, 18000000000, 555555⟩

/-- The plan for it under the standard terms, the shares burned rounded up. -/
def partPlan : LiquidationPlan :=
  ⟨8648648652, 8648648651, 37477477490, 10000000, 20000000, 37447477490, false⟩

theorem position_of_liquidate_partly_partHolder :
    ∃ after fed, partHolder.liquidate (RewardPool.new 255) partPlan 100 = .ok (after, fed) ∧
      ∃ left, after.staker.position after.registry.supply
          ⟨unevenMarket.price, unevenMarket.totalDebt - partPlan.debtRemoved⟩ = .ok left ∧
        left.debt.toNat + partPlan.debtRemoved.toNat ≤ partPosition.debt.toNat := by
  have seen : partHolder.staker.position partHolder.registry.supply unevenMarket =
      .ok partPosition := by decide +kernel
  have planned : partPosition.plan Position.standardTerms = .ok partPlan := by decide +kernel
  have carriedOut :
      (partHolder.liquidate (RewardPool.new 255) partPlan 100).isOk = true := by decide +kernel
  cases liquidated : partHolder.liquidate (RewardPool.new 255) partPlan 100 with
  | error fault =>
    rw [liquidated] at carriedOut
    exact absurd carriedOut Bool.false_ne_true
  | ok books =>
    obtain ⟨_, left, valued, removed, _⟩ :=
      position_of_liquidate_partly rfl seen planned rfl liquidated
    exact ⟨books.1, books.2, rfl, left, valued, removed⟩

end ShareBooks

end FeeTreasury
