import FeeTreasury.Liquidation.Rules
import FeeTreasury.Proofs.Liquidation.Plan

/-!
# What a partial liquidation restores

A partial liquidation is to bring an account back to the issuance ratio. Of its five roundings four
favour the account's health; one does not: the raised ratio is rounded down before it is taken from
one, so that the amount to remove comes out too small. What that rounding loses of the debt removed
is all that can keep the account above the ratio (`FeeTreasury.Position.debt_left_mul_le`). If
nothing is lost, as with the standard settings, the ratio is restored; in any case it is missed by
no more than the loss is worth against the collateral that is left
(`FeeTreasury.Position.ratio_le_of_plan_partly`). Against very little collateral it is worth a lot
(`FeeTreasury.Position.not_ratio_le_of_plan_partly`).
-/

namespace FeeTreasury

open Outcome

/-- What the raised ratio loses when it is rounded down to six decimals. -/
def LiquidationTerms.lost (terms : LiquidationTerms) : Nat := terms.raisedRatio % unit.toNat

section Rounding

variable {debt backed amount one scaled : Nat}

/-- An amount that is large enough for a divisor leaves debt that is backed, but for its share of
what was taken from one. -/
theorem debt_left_add_le (removed : amount ≤ debt) (unbacked : backed ≤ debt) (below : scaled ≤ one)
    (enough : (debt - backed) * one ≤ (one - scaled) * amount) :
    (debt - amount) * one + scaled * amount ≤ backed * one := by
  have whole := Nat.mul_le_mul_right one removed
  have part := Nat.mul_le_mul_right one unbacked
  have share := Nat.mul_le_mul_right amount below
  rw [Nat.sub_mul, Nat.sub_mul, Nat.mul_comm one amount] at enough
  rw [Nat.mul_comm one amount] at share
  rw [Nat.sub_mul]
  omega

/-- Collateral that is worth at most some value, taken away, takes away at most that value. -/
theorem value_le_left_add (collateral : Nat) {redeemed price value : Nat} (positive : 0 < one)
    (worth : redeemed * price ≤ value * one) :
    collateral * price / one ≤ (collateral - redeemed) * price / one + value := by
  have split : collateral * price ≤ (collateral - redeemed) * price + value * one := by
    rw [Nat.sub_mul]
    omega
  calc collateral * price / one
      ≤ ((collateral - redeemed) * price + value * one) / one := Nat.div_le_div_right split
    _ = (collateral - redeemed) * price / one + value := Nat.add_mul_div_right _ _ positive

/-- Debt that is left after it was charged the rounded ratio is backed by the value that is left
after the full ratio was paid, but for what the rounding lost. -/
theorem debt_left_le_of_charged {left value valueLeft taken raised ratio lost : Nat}
    (charged : left * one + scaled * amount ≤ backed * one) (backs : backed * one ≤ value * ratio)
    (kept : value ≤ valueLeft + taken) (paid : taken * one ≤ amount * raised)
    (rounded : one * scaled + lost = raised * ratio) :
    left * one * one ≤ ratio * valueLeft * one + amount * lost := by
  refine Nat.le_of_add_le_add_right (b := amount * (one * scaled)) ?_
  calc left * one * one + amount * (one * scaled)
      = (left * one + scaled * amount) * one := by ring
    _ ≤ backed * one * one := by gcongr
    _ ≤ value * ratio * one := by gcongr
    _ ≤ (valueLeft + taken) * ratio * one := by gcongr
    _ = ratio * valueLeft * one + ratio * (taken * one) := by ring
    _ ≤ ratio * valueLeft * one + ratio * (amount * raised) := by gcongr
    _ = ratio * valueLeft * one + amount * (one * scaled + lost) := by rw [rounded]; ring
    _ = ratio * valueLeft * one + amount * lost + amount * (one * scaled) := by ring

/-- What is not backed at a ratio raises the quotient of debt and value above it by its own
quotient. -/
theorem quotient_le_add {left value ratio unbacked : Nat} (positive : 0 < one) (worth : 0 < value)
    (backed : left * one * one ≤ ratio * value * one + unbacked) :
    left * one / value ≤ ratio + unbacked / (one * value) := by
  have spread : 0 < one * value := Nat.mul_pos positive worth
  calc left * one / value
      = one * (left * one) / (one * value) := (Nat.mul_div_mul_left _ _ positive).symm
    _ = left * one * one / (one * value) := by rw [Nat.mul_comm one (left * one)]
    _ ≤ (ratio * value * one + unbacked) / (one * value) := Nat.div_le_div_right backed
    _ = (unbacked + ratio * (one * value)) / (one * value) := by ring_nf
    _ = ratio + unbacked / (one * value) := by
      rw [Nat.add_mul_div_right _ _ spread, Nat.add_comm]

end Rounding

/-- The ratio of some debt is the exact quotient, as far as it fits, and the largest number if there
is no collateral. -/
theorem debtRatio_of_pos {debt : UInt64} (indebted : 0 < debt.toNat) (value : UInt64) :
    ∃ ratio, debtRatio debt value = .ok ratio ∧
      (value = 0 → ratio.toNat = UInt64.size - 1) ∧
      (value ≠ 0 →
        ratio.toNat = min (UInt64.size - 1) (debt.toNat * unit.toNat / value.toNat)) := by
  have owing : debt ≠ 0 := fun free => by simp only [free, UInt64.toNat_zero, lt_irrefl] at indebted
  rw [debtRatio, if_neg owing]
  by_cases worthless : value = 0
  · exact ⟨_, if_pos worthless, fun _ => rfl, fun worth => absurd worthless worth⟩
  · rw [if_neg worthless, decimalDiv, mulDiv, if_neg worthless, fit64]
    by_cases fits : debt.toNat * unit.toNat / value.toNat < UInt64.size
    · refine ⟨.ofNat (debt.toNat * unit.toNat / value.toNat), by rw [if_pos fits],
        fun worth => absurd worth worthless, fun _ => ?_⟩
      rw [UInt64.toNat_ofNat_of_lt' fits, Nat.min_eq_right (Nat.le_sub_one_of_lt fits)]
    · refine ⟨.ofNat (UInt64.size - 1), by rw [if_neg fits]; rfl,
        fun worth => absurd worth worthless, fun _ => ?_⟩
      rw [Nat.min_eq_left (Nat.le_trans (Nat.sub_le ..) (Nat.le_of_not_lt fits))]
      rfl

/-- A ratio that can be set is met exactly if the debt is covered at that ratio. -/
theorem debtRatio_le_iff {debt value ratio limit : UInt64} (indebted : 0 < debt.toNat)
    (rated : debtRatio debt value = .ok ratio) (set : limit.toNat < unit.toNat) :
    ratio ≤ limit ↔ debt.toNat * unit.toNat < (limit.toNat + 1) * value.toNat := by
  obtain ⟨_, rated', largest, exactly⟩ := debtRatio_of_pos indebted value
  obtain rfl := Except.ok.inj (rated.symm.trans rated')
  have small : limit.toNat < UInt64.size - 1 := Nat.lt_trans set (by decide)
  rw [UInt64.le_iff_toNat_le]
  by_cases worthless : value = 0
  · rw [largest worthless, worthless, UInt64.toNat_zero, Nat.mul_zero]
    exact iff_of_false (Nat.not_le.mpr small) (Nat.not_lt_zero _)
  · have worth : 0 < value.toNat := toNat_pos_of_ne_zero worthless
    rw [exactly worthless, min_le_iff, or_iff_right (Nat.not_le.mpr small), ← Nat.lt_succ_iff,
      Nat.div_lt_iff_lt_mul worth]

namespace Position

variable {position : Position} {terms : LiquidationTerms} {plan : LiquidationPlan}
  {shares collateral supply : UInt64} {market : Market}

/-- The collateral value of a position is its collateral at the market's price. -/
theorem collateralValue_of (seen : Position.of shares collateral supply market = .ok position) :
    position.collateralValue.toNat =
      position.collateral.toNat * market.price.toNat / unit.toNat := by
  simp only [Position.of, bind_eq_ok, pure_eq_ok, decimalMul_eq_ok] at seen
  obtain ⟨_, _, value, valueEq, _, _, rfl⟩ := seen
  exact valueEq

/-- The debt that a partial liquidation leaves is backed by the collateral that it leaves, but for
what the rounding of the raised ratio loses of the debt removed. -/
theorem debt_left_mul_le (seen : Position.of shares collateral supply market = .ok position)
    (priced : terms.price = market.price) (planned : position.plan terms = .ok plan)
    (partly : plan.full = false) :
    (position.debt.toNat - plan.debtRemoved.toNat) * unit.toNat * unit.toNat ≤
      terms.issuanceRatio.toNat *
          ((position.collateral.toNat - plan.collateralRedeemed.toNat) * terms.price.toNat /
            unit.toNat) * unit.toNat +
        plan.debtRemoved.toNat * terms.lost := by
  obtain ⟨fixed, something, less, requires, _⟩ := plan_partly planned partly
  obtain nothing | ⟨unbacked, below, counted⟩ := amountToFix_eq_ok fixed
  · exact absurd nothing something
  obtain ⟨_, required⟩ := collateralFor_eq_ok requires
  have value := collateralValue_of seen
  rw [← priced] at value
  -- The amount is rounded up, so it is large enough for the divisor that was used.
  have enough : (position.debt.toNat -
      position.collateralValue.toNat * terms.issuanceRatio.toNat / unit.toNat) * unit.toNat ≤
      (unit.toNat - terms.raisedRatio / unit.toNat) * plan.debtRemoved.toNat := by
    rw [counted]
    exact le_smul_ceilDiv (Nat.sub_pos_of_lt below)
  have left := debt_left_add_le (Nat.le_of_lt (UInt64.lt_iff_toNat_lt.mp less))
    (Nat.le_of_lt unbacked) (Nat.le_of_lt below) enough
  -- The collateral redeemed is rounded down twice, so it is worth at most the debt and the penalty.
  have worth : plan.collateralRedeemed.toNat * terms.price.toNat ≤
      plan.debtRemoved.toNat * (unit.toNat + terms.penalty.toNat) / unit.toNat * unit.toNat := by
    rw [required]
    exact Nat.div_mul_le_self ..
  have kept := value_le_left_add position.collateral.toNat unit_pos worth
  rw [← value] at kept
  have rounded : unit.toNat * (terms.raisedRatio / unit.toNat) + terms.lost =
      (unit.toNat + terms.penalty.toNat) * terms.issuanceRatio.toNat :=
    Nat.div_add_mod terms.raisedRatio unit.toNat
  exact debt_left_le_of_charged left (Nat.div_mul_le_self ..) kept (Nat.div_mul_le_self ..) rounded

/-- A plan that is not full was made at a ratio below one. -/
theorem issuanceRatio_lt_of_plan_partly (planned : position.plan terms = .ok plan)
    (partly : plan.full = false) : terms.issuanceRatio.toNat < unit.toNat := by
  obtain ⟨fixed, something, _⟩ := plan_partly planned partly
  obtain nothing | ⟨_, below, _⟩ := amountToFix_eq_ok fixed
  · exact absurd nothing something
  · exact Nat.lt_of_le_of_lt terms.issuanceRatio_le_raised below

/-- What is left after a partial liquidation has a ratio. The account is back at the issuance ratio
exactly if the debt that is left is covered at that ratio. It is back if the raised ratio loses
nothing, and in any case it is above by no more than the part of the debt removed that was lost,
over the value of the collateral that is left. -/
theorem ratio_le_of_plan_partly
    (seen : Position.of shares collateral supply market = .ok position)
    (priced : terms.price = market.price) (planned : position.plan terms = .ok plan)
    (partly : plan.full = false) :
    ∃ value ratio,
      decimalMul (position.collateral - plan.collateralRedeemed) terms.price = .ok value ∧
      debtRatio (position.debt - plan.debtRemoved) value = .ok ratio ∧
      (ratio ≤ terms.issuanceRatio ↔
        (position.debt - plan.debtRemoved).toNat * unit.toNat <
          (terms.issuanceRatio.toNat + 1) * value.toNat) ∧
      (terms.lost = 0 → ratio ≤ terms.issuanceRatio) ∧
      (value ≠ 0 → ratio.toNat ≤ terms.issuanceRatio.toNat +
        plan.debtRemoved.toNat * terms.lost / (unit.toNat * value.toNat)) := by
  obtain ⟨_, _, less, _, within⟩ := plan_partly planned partly
  have debtLeft := UInt64.toNat_sub_of_le _ _ (UInt64.le_of_lt less)
  have collateralLeft := UInt64.toNat_sub_of_le _ _ (UInt64.le_of_lt within)
  obtain ⟨value, valued⟩ : ∃ value,
      decimalMul (position.collateral - plan.collateralRedeemed) terms.price = .ok value := by
    have whole := collateralValue_of seen
    rw [← priced] at whole
    have fits : (position.collateral - plan.collateralRedeemed).toNat * terms.price.toNat /
        unit.toNat < UInt64.size := by
      refine Nat.lt_of_le_of_lt ?_ (whole ▸ position.collateralValue.toNat_lt)
      exact Nat.div_le_div_right (Nat.mul_le_mul_right _ (collateralLeft ▸ Nat.sub_le ..))
    exact ⟨.ofNat _, decimalMul_eq_ok.mpr (UInt64.toNat_ofNat_of_lt fits)⟩
  have left := debt_left_mul_le seen priced planned partly
  rw [← collateralLeft, ← decimalMul_eq_ok.mp valued, ← debtLeft] at left
  have indebted : 0 < (position.debt - plan.debtRemoved).toNat := by
    rw [debtLeft]
    exact Nat.sub_pos_of_lt (UInt64.lt_iff_toNat_lt.mp less)
  obtain ⟨ratio, rated, _, exactly⟩ := debtRatio_of_pos indebted value
  have near (worth : value ≠ 0) : ratio.toNat ≤ terms.issuanceRatio.toNat +
      plan.debtRemoved.toNat * terms.lost / (unit.toNat * value.toNat) := by
    have positive : 0 < value.toNat :=
      Nat.pos_of_ne_zero fun zero => worth (UInt64.toNat_inj.mp zero)
    rw [exactly worth]
    exact Nat.le_trans (Nat.min_le_right ..) (quotient_le_add unit_pos positive left)
  refine ⟨value, ratio, valued, rated,
    debtRatio_le_iff indebted rated (issuanceRatio_lt_of_plan_partly planned partly), ?_, near⟩
  intro kept
  have worth : value ≠ 0 := by
    rintro rfl
    rw [kept, UInt64.toNat_zero, Nat.mul_zero, Nat.zero_mul, Nat.mul_zero, Nat.add_zero,
      Nat.le_zero, Nat.mul_assoc] at left
    exact Nat.ne_of_gt (Nat.mul_pos indebted (Nat.mul_pos unit_pos unit_pos)) left
  have bound := near worth
  rwa [kept, Nat.mul_zero, Nat.zero_div, Nat.add_zero, ← UInt64.le_iff_toNat_le] at bound

/-- Ten thousand dollars of debt against collateral worth eighteen thousand. -/
def halfCovered : Position := ⟨10000000000, 10000000000, 60000000000, 18000000000, 555555⟩

/-- The terms of the standard settings at a price of thirty cents. -/
def standardTerms : LiquidationTerms := ⟨300000, 300000, 200000, 10000000, 20000000⟩

/-- The plan for the first under the second. -/
def halfCoveredPlan : LiquidationPlan :=
  ⟨8648648649, 8648648649, 37477477476, 10000000, 20000000, 37447477476, false⟩

theorem ratio_le_of_plan_partly_halfCovered :
    ∃ value ratio,
      decimalMul (halfCovered.collateral - halfCoveredPlan.collateralRedeemed) standardTerms.price =
        .ok value ∧
      debtRatio (halfCovered.debt - halfCoveredPlan.debtRemoved) value = .ok ratio ∧
      ratio ≤ standardTerms.issuanceRatio := by
  have seen : Position.of 10000000000 60000000000 10000000000 ⟨300000, 10000000000⟩ =
      .ok halfCovered := by decide +kernel
  have planned : halfCovered.plan standardTerms = .ok halfCoveredPlan := by decide +kernel
  obtain ⟨value, ratio, valued, rated, _, restored, _⟩ :=
    ratio_le_of_plan_partly seen rfl planned rfl
  exact ⟨value, ratio, valued, rated, restored (by decide +kernel)⟩

/-- The standard settings with an issuance ratio of fifteen hundredths and penalties of a third, of
which the raised ratio loses almost a whole millionth. -/
def thirdPenalties : Settings :=
  { Settings.standard with
    issuanceRatio := 150000, liquidationPenalty := 333333, selfLiquidationPenalty := 333333 }

/-- A million dollars of debt against collateral that is just about enough to pay it and the penalty
of a third. -/
def barelyCovered : Position :=
  ⟨1000000000000, 1000000000000, 1333400000000, 1333400000000, 749962⟩

/-- The plan for such an account when it liquidates itself under such settings. -/
def barelyCoveredPlan : LiquidationPlan :=
  ⟨999986250018, 999986250018, 1333314666695, 0, 0, 1333314666695, false⟩

/-- The settings are accepted, the account is above the issuance ratio, and the plan removes the
debt in part. But an account with little collateral left feels every dollar that the rounding of the
raised ratio leaves on it: this one is left at more than sixteen hundredths. -/
theorem not_ratio_le_of_plan_partly :
    ¬ ∀ (settings : Settings) (market : Market) (shares collateral supply : UInt64)
        (position : Position) (terms : LiquidationTerms) (plan : LiquidationPlan),
      settings.validate = .ok () → settings.issuanceRatio ≠ 0 → market.price ≠ 0 →
      shares ≤ supply → Position.of shares collateral supply market = .ok position →
      settings.issuanceRatio < position.ratio →
      (settings.termsForOthers market.price = .ok terms ∨
        settings.termsForSelf market.price = .ok terms) →
      position.plan terms = .ok plan → plan.full = false →
      ∃ value ratio,
        decimalMul (position.collateral - plan.collateralRedeemed) market.price = .ok value ∧
        debtRatio (position.debt - plan.debtRemoved) value = .ok ratio ∧
        ratio ≤ settings.issuanceRatio := by
  intro restores
  obtain ⟨value, ratio, valued, rated, within⟩ :=
    restores thirdPenalties ⟨unit, 1000000000000⟩ 1000000000000 1333400000000 1000000000000
      barelyCovered ⟨unit, 333333, 150000, 0, 0⟩ barelyCoveredPlan (by decide +kernel)
      (by decide +kernel) (by decide +kernel) (by decide +kernel) (by decide +kernel)
      (by decide +kernel) (.inr (by decide +kernel)) (by decide +kernel) rfl
  have left : decimalMul (barelyCovered.collateral - barelyCoveredPlan.collateralRedeemed) unit =
      .ok 85333305 := by decide +kernel
  obtain rfl := Except.ok.inj (left.symm.trans valued)
  have above : debtRatio (barelyCovered.debt - barelyCoveredPlan.debtRemoved) 85333305 =
      .ok 161132 := by decide +kernel
  obtain rfl := Except.ok.inj (above.symm.trans rated)
  exact absurd within (by decide)

end Position

end FeeTreasury
