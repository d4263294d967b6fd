import FeeTreasury.Liquidation.Plan
import FeeTreasury.Proofs.Answer

/-!
# What a plan takes

A plan fixes an amount of debt, takes collateral for it, and divides the collateral
(`FeeTreasury.Position.plan_eq_ok`). The amount and the collateral are exact numbers, rounded up and
down (`FeeTreasury.amountToFix_eq_ok`, `FeeTreasury.collateralFor_eq_ok`). A plan that is not full
removes just the amount, and redeems just the collateral that the amount requires
(`FeeTreasury.Position.plan_partly`).
-/

namespace FeeTreasury

open Outcome

/-- The issuance ratio raised by the penalty, with twelve decimals: what the restored ratio allows
of a dollar of debt that goes away together with its collateral. -/
def LiquidationTerms.raisedRatio (terms : LiquidationTerms) : Nat :=
  (unit.toNat + terms.penalty.toNat) * terms.issuanceRatio.toNat

/-- The ratio itself is at most the raised one. -/
theorem LiquidationTerms.issuanceRatio_le_raised (terms : LiquidationTerms) :
    terms.issuanceRatio.toNat ≤ terms.raisedRatio / unit.toNat := by
  rw [Nat.le_div_iff_mul_le unit_pos, raisedRatio, Nat.mul_comm]
  exact Nat.mul_le_mul_right _ (Nat.le_add_right ..)

/-- The amount to remove is nothing for an account whose debt is backed. For any other it is the
debt that is not backed, divided by what the raised ratio, rounded down to six decimals, leaves of
one. -/
theorem amountToFix_eq_ok {debt value amount : UInt64} {terms : LiquidationTerms}
    (answered : amountToFix debt value terms.penalty terms.issuanceRatio = .ok amount) :
    amount = 0 ∨
      value.toNat * terms.issuanceRatio.toNat / unit.toNat < debt.toNat ∧
        terms.raisedRatio / unit.toNat < unit.toNat ∧
        amount.toNat =
          (debt.toNat - value.toNat * terms.issuanceRatio.toNat / unit.toNat) * unit.toNat ⌈/⌉
            (unit.toNat - terms.raisedRatio / unit.toNat) := by
  simp only [amountToFix, decimalDivUp, bind_eq_ok, ite_eq_ok, pure_eq_ok, require_eq_ok,
    decide_eq_true_eq, exists_const, decimalMul_eq_ok, plainAdd_eq_ok, plainSub_eq_ok,
    mulDivUp_eq_ok] at answered
  obtain ⟨backed, backedEq, ⟨_, rfl⟩ | ⟨unbacked, raised, raisedEq, scaled, scaledEq, below, _,
    ⟨_, rfl⟩, _, ⟨_, rfl⟩, _, counted⟩⟩ := answered
  · exact .inl rfl
  · rw [raisedEq] at scaledEq
    rw [UInt64.le_iff_toNat_le, Nat.not_le, backedEq] at unbacked
    rw [UInt64.lt_iff_toNat_lt, scaledEq] at below
    rw [UInt64.toNat_sub_of_le, UInt64.toNat_sub_of_le, backedEq, scaledEq] at counted
    · exact .inr ⟨unbacked, below, counted⟩
    · rw [UInt64.le_iff_toNat_le, scaledEq]
      exact Nat.le_of_lt below
    · rw [UInt64.le_iff_toNat_le, backedEq]
      exact Nat.le_of_lt unbacked

theorem collateralFor_eq_ok {amount penalty price required : UInt64}
    (answered : collateralFor amount penalty price = .ok required) :
    price ≠ 0 ∧ required.toNat =
      amount.toNat * (unit.toNat + penalty.toNat) / unit.toNat * unit.toNat / price.toNat := by
  simp only [collateralFor, bind_eq_ok, plainAdd_eq_ok, decimalMul_eq_ok, mulDiv_eq_ok] at answered
  obtain ⟨raised, raisedEq, value, valueEq, priced, counted⟩ := answered
  rw [valueEq, raisedEq] at counted
  exact ⟨priced, counted⟩

section Split

variable {redeemed flagReward liquidateReward : UInt64} {split : RewardSplit}

/-- Redeemed collateral is divided without a remainder. -/
theorem splitRewards_sum (splits : splitRewards redeemed flagReward liquidateReward = .ok split) :
    split.flag.toNat + split.liquidate.toNat + split.rest.toNat = redeemed.toNat := by
  simp only [splitRewards, bind_eq_ok, ite_eq_ok, pure_eq_ok, checkedAdd_eq_ok, plainSub_eq_ok,
    checkedSub_eq_ok] at splits
  obtain ⟨rewards, rewardsEq, ⟨_, rest, ⟨covered, rfl⟩, rfl⟩ |
    ⟨_, flag, _, liquidate, _, left, ⟨flagFits, rfl⟩, rest, ⟨liquidateFits, rfl⟩, rfl⟩⟩ := splits
  · have rest := UInt64.toNat_sub_of_le _ _ (UInt64.le_iff_toNat_le.mpr covered)
    show flagReward.toNat + liquidateReward.toNat + (redeemed - rewards).toNat = _
    omega
  · have left := UInt64.toNat_sub_of_le _ _ (UInt64.le_iff_toNat_le.mpr flagFits)
    have rest := UInt64.toNat_sub_of_le _ _ (UInt64.le_iff_toNat_le.mpr liquidateFits)
    show flag.toNat + liquidate.toNat + (redeemed - flag - liquidate).toNat = _
    omega

/-- Rewards that are covered are paid in full. -/
theorem splitRewards_of_covered
    (splits : splitRewards redeemed flagReward liquidateReward = .ok split)
    (covered : flagReward.toNat + liquidateReward.toNat ≤ redeemed.toNat) :
    split.flag = flagReward ∧ split.liquidate = liquidateReward := by
  simp only [splitRewards, bind_eq_ok, ite_eq_ok, pure_eq_ok, checkedAdd_eq_ok] at splits
  obtain ⟨rewards, rewardsEq, ⟨_, _, _, rfl⟩ | ⟨short, _⟩⟩ := splits
  · exact ⟨rfl, rfl⟩
  · rw [UInt64.le_iff_toNat_le, rewardsEq] at short
    exact absurd covered short

/-- Rewards that are not covered shrink in proportion. -/
theorem splitRewards_of_short
    (splits : splitRewards redeemed flagReward liquidateReward = .ok split)
    (short : redeemed.toNat < flagReward.toNat + liquidateReward.toNat) :
    split.flag.toNat =
        flagReward.toNat * redeemed.toNat / (flagReward.toNat + liquidateReward.toNat) ∧
      split.liquidate.toNat =
        liquidateReward.toNat * redeemed.toNat / (flagReward.toNat + liquidateReward.toNat) := by
  simp only [splitRewards, bind_eq_ok, ite_eq_ok, pure_eq_ok, checkedAdd_eq_ok,
    mulDiv_eq_ok] at splits
  obtain ⟨rewards, rewardsEq, ⟨covered, _⟩ |
    ⟨_, flag, ⟨_, flagEq⟩, liquidate, ⟨_, liquidateEq⟩, _, _, rest, _, rfl⟩⟩ := splits
  · rw [UInt64.le_iff_toNat_le, rewardsEq] at covered
    exact absurd short (Nat.not_lt.mpr covered)
  · rw [rewardsEq] at flagEq liquidateEq
    exact ⟨flagEq, liquidateEq⟩

/-- Neither reward exceeds its full amount. -/
theorem splitRewards_le (splits : splitRewards redeemed flagReward liquidateReward = .ok split) :
    split.flag ≤ flagReward ∧ split.liquidate ≤ liquidateReward := by
  by_cases covered : flagReward.toNat + liquidateReward.toNat ≤ redeemed.toNat
  · obtain ⟨flag, liquidate⟩ := splitRewards_of_covered splits covered
    exact ⟨flag ▸ UInt64.le_refl _, liquidate ▸ UInt64.le_refl _⟩
  · have short := Nat.not_le.mp covered
    obtain ⟨flag, liquidate⟩ := splitRewards_of_short splits short
    -- A part of the rewards in the same proportion as the collateral is a part of the whole.
    have scaled (reward : Nat) :
        reward * redeemed.toNat / (flagReward.toNat + liquidateReward.toNat) ≤ reward := by
      refine Nat.div_le_of_le_mul ?_
      rw [Nat.mul_comm]
      exact Nat.mul_le_mul_right _ (Nat.le_of_lt short)
    rw [UInt64.le_iff_toNat_le, UInt64.le_iff_toNat_le, flag, liquidate]
    exact ⟨scaled _, scaled _⟩

end Split

namespace Position

variable {position : Position} {terms : LiquidationTerms} {plan : LiquidationPlan}

/-- What a plan consists of. -/
theorem plan_eq_ok (planned : position.plan terms = .ok plan) :
    ∃ amount taken split,
      amountToFix position.debt position.collateralValue terms.penalty terms.issuanceRatio =
        .ok amount ∧ amount ≠ 0 ∧
      position.takings terms amount = .ok taken ∧
      splitRewards taken.collateralRedeemed terms.flagReward terms.liquidateReward = .ok split ∧
      plan = ⟨taken.debtRemoved, taken.sharesBurned, taken.collateralRedeemed, split.flag,
        split.liquidate, split.rest, taken.full⟩ := by
  simp only [Position.plan, bind_eq_ok, pure_eq_ok, require_eq_ok, decide_eq_true_eq,
    exists_const] at planned
  obtain ⟨amount, fixed, something, taken, takes, split, splits, rfl⟩ := planned
  exact ⟨amount, taken, split, fixed, something, takes, splits, rfl⟩

/-- A plan divides what it redeems. -/
theorem plan_divides (planned : position.plan terms = .ok plan) :
    plan.flagReward.toNat + plan.liquidateReward.toNat + plan.poolDeposit.toNat =
      plan.collateralRedeemed.toNat := by
  obtain ⟨_, _, _, _, _, _, splits, rfl⟩ := plan_eq_ok planned
  exact splitRewards_sum splits

theorem plan_rewards_le (planned : position.plan terms = .ok plan) :
    plan.flagReward ≤ terms.flagReward ∧ plan.liquidateReward ≤ terms.liquidateReward := by
  obtain ⟨_, _, _, _, _, _, splits, rfl⟩ := plan_eq_ok planned
  exact splitRewards_le splits

/-- What is taken to remove an amount. If the amount, or the collateral that it requires, is all
that the account has, everything is taken, as far as the collateral goes. If not, the amount is
taken, with its part of the shares and the collateral that it requires. -/
theorem takings_eq_ok {amount : UInt64} {taken : Takings} :
    position.takings terms amount = .ok taken ↔
      ∃ required, collateralFor amount terms.penalty terms.price = .ok required ∧
        ((position.debt ≤ amount ∨ position.collateral ≤ required) ∧
            (∃ whole, collateralFor position.debt terms.penalty terms.price = .ok whole ∧
              ⟨position.debt, position.shares, min whole position.collateral, true⟩ = taken) ∨
          (amount < position.debt ∧ required < position.collateral) ∧
            ∃ burned, mulDivUp position.shares amount position.debt = .ok burned ∧
              ⟨amount, min burned position.shares, required, false⟩ = taken) := by
  simp only [takings, fullTakings, bind_eq_ok, ite_eq_ok, pure_eq_ok, not_or, UInt64.not_le]

/-- What is taken to remove an amount in part is what the amount requires. -/
theorem takings_partly {amount : UInt64} {taken : Takings}
    (takes : position.takings terms amount = .ok taken) (partly : taken.full = false) :
    amount < position.debt ∧ taken.debtRemoved = amount ∧
      collateralFor amount terms.penalty terms.price = .ok taken.collateralRedeemed ∧
      taken.collateralRedeemed < position.collateral := by
  obtain ⟨required, requires, ⟨_, _, _, rfl⟩ | ⟨⟨less, within⟩, _, _, rfl⟩⟩ :=
    takings_eq_ok.mp takes
  · exact nomatch partly
  · exact ⟨less, rfl, requires, within⟩

/-- A plan that is not full removes just enough debt, and redeems just the collateral for it. -/
theorem plan_partly (planned : position.plan terms = .ok plan) (partly : plan.full = false) :
    amountToFix position.debt position.collateralValue terms.penalty terms.issuanceRatio =
        .ok plan.debtRemoved ∧ plan.debtRemoved ≠ 0 ∧ plan.debtRemoved < position.debt ∧
      collateralFor plan.debtRemoved terms.penalty terms.price = .ok plan.collateralRedeemed ∧
      plan.collateralRedeemed < position.collateral := by
  obtain ⟨amount, taken, split, fixed, something, takes, _, rfl⟩ := plan_eq_ok planned
  obtain ⟨less, rfl, requires, within⟩ := takings_partly takes partly
  exact ⟨fixed, something, less, requires, within⟩

end Position

end FeeTreasury
