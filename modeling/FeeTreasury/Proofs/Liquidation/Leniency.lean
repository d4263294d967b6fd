import FeeTreasury.Proofs.Liquidation.Bounds
import FeeTreasury.Proofs.Liquidation.Reckoning

/-!
# What a lower penalty spares

An owner who liquidates its own account pays another penalty than one whose account is liquidated by
others, and a lower one is to its advantage. A lower penalty lowers the raised ratio, which is taken
from one, so that less debt is due (`FeeTreasury.Position.due_le`); and less debt at a lower penalty
requires less collateral (`FeeTreasury.LiquidationTerms.Milder.required_le`). Every rounding keeps
this order, and so does the turn from a partial liquidation to a full one: an account that is spent
on milder terms is spent on the harsher ones too (`FeeTreasury.Position.Spent.of_milder`).

So wherever there is a plan on harsher terms there is one on milder terms, and it costs the account
no more (`FeeTreasury.Position.plan_of_lower_penalty`).
-/

namespace FeeTreasury

open Outcome

namespace LiquidationTerms

/-- Terms that differ from others in the penalty only, and ask no more of it. -/
structure Milder (mild harsh : LiquidationTerms) : Prop where
  price_eq : mild.price = harsh.price
  issuanceRatio_eq : mild.issuanceRatio = harsh.issuanceRatio
  flagReward_eq : mild.flagReward = harsh.flagReward
  liquidateReward_eq : mild.liquidateReward = harsh.liquidateReward
  penalty_le : mild.penalty ≤ harsh.penalty

namespace Milder

variable {mild harsh : LiquidationTerms}

theorem raisedRatio_le (milder : mild.Milder harsh) : mild.raisedRatio ≤ harsh.raisedRatio := by
  have penalty := UInt64.le_iff_toNat_le.mp milder.penalty_le
  rw [raisedRatio, raisedRatio, milder.issuanceRatio_eq]
  gcongr

theorem charge_le (milder : mild.Milder harsh) {amount more : Nat} (less : amount ≤ more) :
    mild.charge amount ≤ harsh.charge more := by
  have penalty := UInt64.le_iff_toNat_le.mp milder.penalty_le
  rw [charge, charge]
  gcongr

theorem required_le (milder : mild.Milder harsh) {amount more : Nat} (less : amount ≤ more) :
    mild.required amount ≤ harsh.required more := by
  have charged := milder.charge_le less
  rw [required, required, milder.price_eq]
  gcongr

/-- If the harsher terms can reckon with an amount, the milder ones can reckon with any smaller
one. -/
theorem reckons (milder : mild.Milder harsh) {amount more : Nat} (less : amount ≤ more)
    (harsher : harsh.Reckons more) : mild.Reckons amount where
  amount_lt := Nat.lt_of_le_of_lt less harsher.amount_lt
  charge_lt := Nat.lt_of_le_of_lt (milder.charge_le less) harsher.charge_lt
  required_lt := Nat.lt_of_le_of_lt (milder.required_le less) harsher.required_lt

theorem admitted (milder : mild.Milder harsh) (harsher : harsh.Admitted) : mild.Admitted where
  priced := by
    rw [milder.price_eq]
    exact harsher.priced
  penalty_le := UInt64.le_trans milder.penalty_le harsher.penalty_le
  raised_lt :=
    Nat.lt_of_le_of_lt (Nat.div_le_div_right milder.raisedRatio_le) harsher.raised_lt

/-- Less debt at a lower penalty requires less collateral. -/
theorem collateralFor_le (milder : mild.Milder harsh) {amount more fewer greater : UInt64}
    (less : amount ≤ more)
    (requires : collateralFor amount mild.penalty mild.price = .ok fewer)
    (demands : collateralFor more harsh.penalty harsh.price = .ok greater) : fewer ≤ greater := by
  rw [UInt64.le_iff_toNat_le, (collateralFor_eq_ok requires).2, (collateralFor_eq_ok demands).2]
  exact milder.required_le (UInt64.le_iff_toNat_le.mp less)

end Milder

end LiquidationTerms

/-- A quotient that is rounded up grows with what is divided. -/
theorem mulDivUp_le {a b more denominator part greater : UInt64} (less : b ≤ more)
    (divides : mulDivUp a b denominator = .ok part)
    (dividesMore : mulDivUp a more denominator = .ok greater) : part ≤ greater := by
  obtain ⟨nonzero, partEq⟩ := mulDivUp_eq_ok.mp divides
  obtain ⟨_, greaterEq⟩ := mulDivUp_eq_ok.mp dividesMore
  rw [UInt64.le_iff_toNat_le, partEq, greaterEq]
  refine (gc_smul_ceilDiv (toNat_pos_of_ne_zero nonzero)).monotone_l ?_
  exact Nat.mul_le_mul_left _ (UInt64.le_iff_toNat_le.mp less)

/-- Of less collateral neither flagger nor liquidator gets more. The pool gets at most one unit
more, if the rewards are scaled down. -/
theorem splitRewards_le_of_le {redeemed more flagReward liquidateReward : UInt64}
    {split greater : RewardSplit} (less : redeemed ≤ more)
    (splits : splitRewards redeemed flagReward liquidateReward = .ok split)
    (splitsMore : splitRewards more flagReward liquidateReward = .ok greater) :
    split.flag ≤ greater.flag ∧ split.liquidate ≤ greater.liquidate ∧
      split.rest.toNat ≤ greater.rest.toNat + 1 := by
  rw [UInt64.le_iff_toNat_le] at less
  by_cases covered : flagReward.toNat + liquidateReward.toNat ≤ more.toNat
  · obtain ⟨flag, liquidate⟩ := splitRewards_of_covered splitsMore covered
    obtain ⟨flagLe, liquidateLe⟩ := splitRewards_le splits
    rw [flag, liquidate]
    refine ⟨flagLe, liquidateLe, ?_⟩
    by_cases both : flagReward.toNat + liquidateReward.toNat ≤ redeemed.toNat
    · -- Both pay the rewards in full, and the pool gets the difference.
      obtain ⟨flagLess, liquidateLess⟩ := splitRewards_of_covered splits both
      have whole := splitRewards_sum splits
      have wholeMore := splitRewards_sum splitsMore
      rw [flagLess, liquidateLess] at whole
      rw [flag, liquidate] at wholeMore
      omega
    · exact Nat.le_add_left_of_le (splitRewards_rest_le splits (Nat.not_le.mp both))
  · have short := Nat.not_le.mp covered
    have shorter := Nat.lt_of_le_of_lt less short
    obtain ⟨flag, liquidate⟩ := splitRewards_of_short splits shorter
    obtain ⟨flagMore, liquidateMore⟩ := splitRewards_of_short splitsMore short
    rw [UInt64.le_iff_toNat_le, UInt64.le_iff_toNat_le, flag, liquidate, flagMore, liquidateMore]
    refine ⟨?_, ?_, Nat.le_add_left_of_le (splitRewards_rest_le splits shorter)⟩
    · gcongr
    · gcongr

/-- A plan that costs the account no more than another: nothing that goes away, is burned, redeemed
or paid as a reward is more, and it is not full unless the other one is. The pool, which gets the
rest of what is redeemed, may get one unit more, if the rewards are scaled down. -/
structure LiquidationPlan.CostsAtMost (plan dearer : LiquidationPlan) : Prop where
  debt_le : plan.debtRemoved ≤ dearer.debtRemoved
  shares_le : plan.sharesBurned ≤ dearer.sharesBurned
  collateral_le : plan.collateralRedeemed ≤ dearer.collateralRedeemed
  flagReward_le : plan.flagReward ≤ dearer.flagReward
  liquidateReward_le : plan.liquidateReward ≤ dearer.liquidateReward
  deposit_le : plan.poolDeposit.toNat ≤ dearer.poolDeposit.toNat + 1
  full : plan.full = true → dearer.full = true

namespace Position

variable {position : Position} {terms mild harsh : LiquidationTerms} {plan dearer : LiquidationPlan}

theorem unbacked_eq (milder : mild.Milder harsh) :
    position.unbacked mild = position.unbacked harsh := by
  rw [unbacked, unbacked, milder.issuanceRatio_eq]

/-- Less debt is due at a lower penalty: the same debt is not backed, and it is divided by more. -/
theorem due_le (milder : mild.Milder harsh)
    (below : harsh.raisedRatio / unit.toNat < unit.toNat) :
    position.due mild ≤ position.due harsh := by
  have raised := Nat.div_le_div_right (c := unit.toNat) milder.raisedRatio_le
  have positive := Nat.sub_pos_of_lt below
  have divisor : unit.toNat - harsh.raisedRatio / unit.toNat ≤
      unit.toNat - mild.raisedRatio / unit.toNat := Nat.sub_le_sub_left raised _
  rw [due, due, unbacked_eq milder, ceilDiv_le_iff_le_smul (Nat.lt_of_lt_of_le positive divisor)]
  exact Nat.le_trans (le_smul_ceilDiv positive) (Nat.mul_le_mul_right _ divisor)

/-- An account that is spent on milder terms is spent on the harsher ones. -/
theorem Spent.of_milder (milder : mild.Milder harsh)
    (below : harsh.raisedRatio / unit.toNat < unit.toNat) (spent : position.Spent mild) :
    position.Spent harsh := by
  have less : position.due mild ≤ position.due harsh := due_le milder below
  exact spent.imp (fun owed => Nat.le_trans owed less)
    fun short => Nat.le_trans short (milder.required_le less)

/-- A liquidation that can be reckoned on the harsher terms can be reckoned on the milder ones. -/
theorem Reckons.milder (milder : mild.Milder harsh)
    (below : harsh.raisedRatio / unit.toNat < unit.toNat) (harsher : position.Reckons harsh) :
    position.Reckons mild where
  due := milder.reckons (due_le milder below) harsher.due
  whole spent := milder.reckons (Nat.le_refl _) (harsher.whole (spent.of_milder milder below))
  rewards := by
    rw [milder.flagReward_eq, milder.liquidateReward_eq]
    exact harsher.rewards

/-- Terms on which there is a plan are admitted, and some debt is not backed on them. -/
theorem admitted_of_plan (bounded : terms.penalty ≤ unit)
    (planned : position.plan terms = .ok plan) :
    terms.Admitted ∧ 0 < position.unbacked terms := by
  obtain ⟨amount, taken, split, fixed, something, takes, _⟩ := plan_eq_ok planned
  obtain nothing | ⟨unbacked, below, _⟩ := amountToFix_eq_ok fixed
  · exact absurd nothing something
  obtain ⟨required, requires, _⟩ := takings_eq_ok.mp takes
  exact ⟨⟨(collateralFor_eq_ok requires).1, bounded, below⟩, Nat.sub_pos_of_lt unbacked⟩

/-- Milder terms have a plan if the harsher ones do. -/
theorem exists_plan_of_milder (milder : mild.Milder harsh) (bounded : harsh.penalty ≤ unit)
    (planned : position.plan harsh = .ok dearer) : ∃ plan, position.plan mild = .ok plan := by
  obtain ⟨admitted, owing⟩ := admitted_of_plan bounded planned
  have reckons := (plan_answers admitted owing).2.mp ⟨dearer, planned⟩
  rw [← unbacked_eq milder] at owing
  exact (plan_answers (milder.admitted admitted) owing).2.mpr
    (reckons.milder milder admitted.raised_lt)

/-- Less has to be removed at a lower penalty. -/
theorem amountToFix_le (milder : mild.Milder harsh) {amount more : UInt64}
    (fixed : amountToFix position.debt position.collateralValue mild.penalty mild.issuanceRatio =
      .ok amount) (something : amount ≠ 0)
    (fixedMore : amountToFix position.debt position.collateralValue harsh.penalty
      harsh.issuanceRatio = .ok more) (somethingMore : more ≠ 0) : amount ≤ more := by
  obtain nothing | ⟨_, _, counted⟩ := amountToFix_eq_ok fixed
  · exact absurd nothing something
  obtain nothing | ⟨_, below, countedMore⟩ := amountToFix_eq_ok fixedMore
  · exact absurd nothing somethingMore
  rw [UInt64.le_iff_toNat_le, counted, countedMore]
  exact due_le milder below

/-- What is taken for a smaller amount on milder terms is no more. It may be a part where the larger
amount takes everything, but not the other way round. -/
theorem takings_le (milder : mild.Milder harsh) {amount more : UInt64} {taken greater : Takings}
    (less : amount ≤ more) (takes : position.takings mild amount = .ok taken)
    (takesMore : position.takings harsh more = .ok greater) :
    taken.debtRemoved ≤ greater.debtRemoved ∧ taken.sharesBurned ≤ greater.sharesBurned ∧
      taken.collateralRedeemed ≤ greater.collateralRedeemed ∧
      (taken.full = true → greater.full = true) := by
  have capped {a b : UInt64} (cap : UInt64) (le : a ≤ b) : min a cap ≤ min b cap :=
    Std.le_min_iff.mpr ⟨UInt64.le_trans Std.min_le_left le, Std.min_le_right⟩
  obtain ⟨required, requires, taking⟩ := takings_eq_ok.mp takes
  obtain ⟨demanded, demands, takingMore⟩ := takings_eq_ok.mp takesMore
  have requiredLe : required ≤ demanded := milder.collateralFor_le less requires demands
  rcases takingMore with
    ⟨_, wholeMore, whollyMore, rfl⟩ | ⟨⟨owesMore, hasMore⟩, burnedMore, burnsMore, rfl⟩
  · rcases taking with ⟨_, whole, wholly, rfl⟩ | ⟨⟨owes, has⟩, burned, burns, rfl⟩
    · have wholeLe := milder.collateralFor_le (UInt64.le_refl _) wholly whollyMore
      exact ⟨UInt64.le_refl _, UInt64.le_refl _, capped _ wholeLe, fun _ => rfl⟩
    · -- A part of the debt requires less than all of it, and less than there is.
      have owed := UInt64.le_of_lt owes
      have partLe := milder.collateralFor_le owed requires whollyMore
      exact ⟨owed, Std.min_le_right, Std.le_min_iff.mpr ⟨partLe, UInt64.le_of_lt has⟩,
        fun _ => rfl⟩
  · rcases taking with ⟨spent, _⟩ | ⟨_, burned, burns, rfl⟩
    · -- What takes everything on milder terms would take everything on the harsher ones.
      refine absurd spent (not_or.mpr ⟨UInt64.not_le.mpr ?_, UInt64.not_le.mpr ?_⟩)
      · exact UInt64.lt_of_le_of_lt less owesMore
      · exact UInt64.lt_of_le_of_lt requiredLe hasMore
    · exact ⟨less, capped _ (mulDivUp_le less burns burnsMore), requiredLe, nofun⟩

/-- Of two plans for a position, the one on the milder terms costs no more. -/
theorem costsAtMost_of_milder (milder : mild.Milder harsh)
    (planned : position.plan mild = .ok plan) (dearly : position.plan harsh = .ok dearer) :
    plan.CostsAtMost dearer := by
  obtain ⟨amount, taken, split, fixed, something, takes, splits, rfl⟩ := plan_eq_ok planned
  obtain ⟨more, greater, splitMore, fixedMore, somethingMore, takesMore, splitsMore, rfl⟩ :=
    plan_eq_ok dearly
  have less : amount ≤ more := amountToFix_le milder fixed something fixedMore somethingMore
  obtain ⟨debt, shares, redeemed, full⟩ := takings_le milder less takes takesMore
  rw [milder.flagReward_eq, milder.liquidateReward_eq] at splits
  obtain ⟨flag, liquidate, rest⟩ := splitRewards_le_of_le redeemed splits splitsMore
  exact ⟨debt, shares, redeemed, flag, liquidate, rest, full⟩

/-- **A lower penalty never costs the account more.** If a position has a plan at a penalty of at
most one, it has a plan at every lower penalty, the other terms being the same. That plan removes no
more debt, burns no more shares, redeems no more collateral, and pays flagger and liquidator no
more; and it is not full unless the plan at the higher penalty is. -/
theorem plan_of_lower_penalty {penalty : UInt64} (lower : penalty ≤ terms.penalty)
    (bounded : terms.penalty ≤ unit) (planned : position.plan terms = .ok dearer) :
    ∃ plan, position.plan { terms with penalty } = .ok plan ∧ plan.CostsAtMost dearer := by
  have milder : LiquidationTerms.Milder { terms with penalty } terms :=
    ⟨rfl, rfl, rfl, rfl, lower⟩
  obtain ⟨plan, sparing⟩ := exists_plan_of_milder milder bounded planned
  exact ⟨plan, sparing, costsAtMost_of_milder milder sparing planned⟩

/-- A thousand dollars' millionths of debt against fifteen hundred units of collateral, at a price
of one. -/
def twoThirds : Position := ⟨1000, 1000, 1500, 1500, 666666⟩

/-- Terms with a penalty of nine tenths, and rewards that most of the collateral goes into. -/
def dearTerms : LiquidationTerms := ⟨1000000, 900000, 300000, 700, 600⟩

/-- At that penalty the plan is full, and the collateral covers the rewards. -/
def dearPlan : LiquidationPlan := ⟨1000, 1000, 1500, 700, 600, 200, true⟩

/-- At a penalty of two tenths it is not full, and the rewards are scaled down. -/
def sparingPlan : LiquidationPlan := ⟨860, 860, 1032, 555, 476, 1, false⟩

theorem plan_of_lower_penalty_twoThirds :
    twoThirds.plan dearTerms = .ok dearPlan ∧
      twoThirds.plan { dearTerms with penalty := 200000 } = .ok sparingPlan ∧
      sparingPlan.CostsAtMost dearPlan := by
  have dearly : twoThirds.plan dearTerms = .ok dearPlan := by decide +kernel
  have sparing : twoThirds.plan { dearTerms with penalty := 200000 } = .ok sparingPlan := by
    decide +kernel
  have lower : (200000 : UInt64) ≤ dearTerms.penalty := by decide
  obtain ⟨plan, planned, costs⟩ := plan_of_lower_penalty lower (by decide) dearly
  obtain rfl := Except.ok.inj (sparing.symm.trans planned)
  exact ⟨dearly, sparing, costs⟩

end Position

end FeeTreasury
