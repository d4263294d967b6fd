import FeeTreasury.Proofs.Liquidation.Restoration

/-!
# What a plan may take

A plan takes no more debt, shares or collateral than the account has. The collateral that it redeems
is worth at most the debt removed and the penalty on it, and a plan that is not full falls short of
that by less than one unit of collateral and one dollar's millionth
(`FeeTreasury.collateralFor_bounds`). The redeemed collateral is divided without a remainder. The
rewards are paid in full if it covers them; if not, both shrink in proportion, and rounding leaves
at most one unit for the pool (`FeeTreasury.splitRewards_rest_le`). All of this holds of every plan
that there is, whatever the position and the terms (`FeeTreasury.Position.plan_bounded`).
-/

namespace FeeTreasury

open Outcome

section Rounding

variable {one price : Nat}

/-- A charge that is rounded down to whole units, and the collateral for it that is rounded down at
a price: what the collateral is worth, with the decimals of the price, lies between the charge less
one unit and one price, and the charge. -/
theorem charge_bounds (amount raised : Nat) (positive : 0 < one) (priced : 0 < price) :
    amount * raised / one * one / price * price ≤ amount * raised ∧
      amount * raised < (amount * raised / one * one / price + 1) * price + one := by
  have charged := Nat.div_mul_le_self (amount * raised) one
  have short := Nat.lt_div_mul_add (a := amount * raised) positive
  have redeemed := Nat.lt_div_mul_add (a := amount * raised / one * one) priced
  constructor
  · exact Nat.le_trans (Nat.div_mul_le_self ..) charged
  · rw [Nat.succ_mul]
    omega

/-- Two parts of some collateral, in proportion to rewards that it does not cover, leave at most one
unit of it: each of the two loses less than one. -/
theorem le_parts_succ (redeemed : Nat) {flag liquidate : Nat} (positive : 0 < flag + liquidate) :
    redeemed ≤ flag * redeemed / (flag + liquidate) +
      liquidate * redeemed / (flag + liquidate) + 1 := by
  have flagShort := Nat.lt_div_mul_add (a := flag * redeemed) positive
  have liquidateShort := Nat.lt_div_mul_add (a := liquidate * redeemed) positive
  refine Nat.le_of_lt_succ (Nat.lt_of_mul_lt_mul_right (a := flag + liquidate) ?_)
  calc redeemed * (flag + liquidate)
      = flag * redeemed + liquidate * redeemed := by ring
    _ < flag * redeemed / (flag + liquidate) * (flag + liquidate) + (flag + liquidate) +
        (liquidate * redeemed / (flag + liquidate) * (flag + liquidate) +
          (flag + liquidate)) := Nat.add_lt_add flagShort liquidateShort
    _ = (flag * redeemed / (flag + liquidate) +
          liquidate * redeemed / (flag + liquidate) + 1 + 1) * (flag + liquidate) := by ring

end Rounding

/-- Collateral for an amount is worth at most the amount and the penalty on it, and one more unit of
it would be worth more, but for the dollar's millionth that the charge is rounded down by. -/
theorem collateralFor_bounds {amount penalty price required : UInt64}
    (answered : collateralFor amount penalty price = .ok required) :
    required.toNat * price.toNat ≤ amount.toNat * (unit.toNat + penalty.toNat) ∧
      amount.toNat * (unit.toNat + penalty.toNat) <
        (required.toNat + 1) * price.toNat + unit.toNat := by
  obtain ⟨priced, counted⟩ := collateralFor_eq_ok answered
  rw [counted]
  exact charge_bounds _ _ unit_pos (toNat_pos_of_ne_zero priced)

/-- Rewards that are not covered leave at most one unit. -/
theorem splitRewards_rest_le {redeemed flagReward liquidateReward : UInt64} {split : RewardSplit}
    (splits : splitRewards redeemed flagReward liquidateReward = .ok split)
    (short : redeemed.toNat < flagReward.toNat + liquidateReward.toNat) :
    split.rest.toNat ≤ 1 := by
  have whole := splitRewards_sum splits
  obtain ⟨flagEq, liquidateEq⟩ := splitRewards_of_short splits short
  have parts := le_parts_succ redeemed.toNat (Nat.zero_lt_of_lt short)
  rw [← flagEq, ← liquidateEq] at parts
  omega

/-- A plan that takes no more than an account has or owes, whose collateral is worth what it
removes, and which divides what it redeems. -/
structure LiquidationPlan.Bounded (plan : LiquidationPlan) (position : Position)
    (terms : LiquidationTerms) : Prop where
  debt_le : plan.debtRemoved ≤ position.debt
  shares_le : plan.sharesBurned ≤ position.shares
  collateral_le : plan.collateralRedeemed ≤ position.collateral
  /-- The collateral is worth at most the debt removed and the penalty on it. -/
  worth_le : plan.collateralRedeemed.toNat * terms.price.toNat ≤
    plan.debtRemoved.toNat * (unit.toNat + terms.penalty.toNat)
  divided : plan.flagReward.toNat + plan.liquidateReward.toNat + plan.poolDeposit.toNat =
    plan.collateralRedeemed.toNat
  rewards_le : plan.flagReward ≤ terms.flagReward ∧ plan.liquidateReward ≤ terms.liquidateReward
  /-- Rewards that the collateral covers are paid in full. -/
  rewards_eq : terms.flagReward.toNat + terms.liquidateReward.toNat ≤
    plan.collateralRedeemed.toNat →
      plan.flagReward = terms.flagReward ∧ plan.liquidateReward = terms.liquidateReward
  /-- Rewards that are scaled down leave at most one unit to the pool. -/
  rest_le : plan.collateralRedeemed.toNat <
    terms.flagReward.toNat + terms.liquidateReward.toNat → plan.poolDeposit.toNat ≤ 1
  /-- A full plan takes all shares and all debt. -/
  full : plan.full = true →
    plan.debtRemoved = position.debt ∧ plan.sharesBurned = position.shares
  /-- Any other plan takes a part of the debt and of the collateral, and the collateral is worth the
  debt removed and the penalty, but for one unit of it and one dollar's millionth. -/
  partly : plan.full = false →
    (0 < plan.debtRemoved ∧ plan.debtRemoved < position.debt) ∧
      plan.collateralRedeemed < position.collateral ∧
      plan.debtRemoved.toNat * (unit.toNat + terms.penalty.toNat) <
        (plan.collateralRedeemed.toNat + 1) * terms.price.toNat + unit.toNat

namespace Position

variable {position : Position} {terms : LiquidationTerms} {plan : LiquidationPlan}

/-- What is taken in full is all debt, all shares, and the collateral for the debt as far as it
goes. -/
theorem takings_full {amount : UInt64} {taken : Takings}
    (takes : position.takings terms amount = .ok taken) (full : taken.full = true) :
    taken.debtRemoved = position.debt ∧ taken.sharesBurned = position.shares ∧
      ∃ required, collateralFor position.debt terms.penalty terms.price = .ok required ∧
        taken.collateralRedeemed = min required position.collateral := by
  obtain ⟨_, _, ⟨_, required, requires, rfl⟩ | ⟨_, _, _, rfl⟩⟩ := takings_eq_ok.mp takes
  · exact ⟨rfl, rfl, required, requires, rfl⟩
  · exact absurd full Bool.false_ne_true

/-- Shares that are burned in part are capped by the account's. -/
theorem takings_shares_le {amount : UInt64} {taken : Takings}
    (takes : position.takings terms amount = .ok taken) :
    taken.sharesBurned ≤ position.shares := by
  obtain ⟨_, _, ⟨_, _, _, rfl⟩ | ⟨_, _, _, rfl⟩⟩ := takings_eq_ok.mp takes
  · exact UInt64.le_refl _
  · exact Std.min_le_right

/-- **A plan never takes more than the account has or owes.** -/
theorem plan_bounded (planned : position.plan terms = .ok plan) :
    plan.Bounded position terms := by
  have divided := plan_divides planned
  have rewards := plan_rewards_le planned
  obtain ⟨amount, taken, split, fixed, something, takes, splits, rfl⟩ := plan_eq_ok planned
  have shares := takings_shares_le takes
  have paid := splitRewards_of_covered splits
  have left := splitRewards_rest_le splits
  cases full : taken.full with
  | true =>
    obtain ⟨debt, burned, required, requires, redeemed⟩ := takings_full takes full
    have within : taken.collateralRedeemed ≤ position.collateral := by
      rw [redeemed]
      exact Std.min_le_right
    have capped : taken.collateralRedeemed ≤ required := by
      rw [redeemed]
      exact Std.min_le_left
    have worth : taken.collateralRedeemed.toNat * terms.price.toNat ≤
        taken.debtRemoved.toNat * (unit.toNat + terms.penalty.toNat) := by
      rw [debt]
      refine Nat.le_trans ?_ (collateralFor_bounds requires).1
      exact Nat.mul_le_mul_right _ (UInt64.le_iff_toNat_le.mp capped)
    exact ⟨debt ▸ UInt64.le_refl _, shares, within, worth, divided, rewards, paid, left,
      fun _ => ⟨debt, burned⟩, nofun⟩
  | false =>
    obtain ⟨less, rfl, requires, within⟩ := takings_partly takes full
    obtain ⟨worth, near⟩ := collateralFor_bounds requires
    have positive : 0 < taken.debtRemoved := UInt64.pos_iff_ne_zero.mpr something
    exact ⟨UInt64.le_of_lt less, shares, UInt64.le_of_lt within, worth, divided, rewards, paid,
      left, nofun, fun _ => ⟨⟨positive, less⟩, within, near⟩⟩

/-- Ten dollars' millionths of debt against seven units of collateral, at a price of one. -/
def lastUnits : Position := ⟨10, 10, 7, 7, 1428571⟩

/-- Terms with rewards that the collateral does not cover. -/
def steepTerms : LiquidationTerms := ⟨1000000, 300000, 200000, 10, 20⟩

/-- The plan for such an account: it is full, and of the seven units one is left over. -/
def lastUnitsPlan : LiquidationPlan := ⟨10, 10, 7, 2, 4, 1, true⟩

theorem plan_bounded_lastUnits :
    halfCovered.plan standardTerms = .ok halfCoveredPlan ∧
      halfCoveredPlan.Bounded halfCovered standardTerms ∧
      lastUnits.plan steepTerms = .ok lastUnitsPlan ∧
      lastUnitsPlan.Bounded lastUnits steepTerms := by
  have partly : halfCovered.plan standardTerms = .ok halfCoveredPlan := by decide +kernel
  have fully : lastUnits.plan steepTerms = .ok lastUnitsPlan := by decide +kernel
  exact ⟨partly, plan_bounded partly, fully, plan_bounded fully⟩

end Position

end FeeTreasury
