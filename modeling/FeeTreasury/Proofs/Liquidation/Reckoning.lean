import FeeTreasury.Proofs.Liquidation.Restoration

/-!
# When a liquidation can be reckoned

An account above the issuance ratio is due for liquidation. Under settings that the treasury accepts
its plan can fail in one way only: a number does not fit its width
(`FeeTreasury.Position.narrow_plan`). Which numbers these are is known. The amount due, the dollars
charged for it and the collateral required for those are words before they are capped by what the
account has; if the liquidation is full, so are the charge and the collateral for the whole debt;
and so is the sum of the two rewards (`FeeTreasury.Position.plan_answers_iff`).

They fit for debts that are moderate against the price. At a price that has collapsed the collateral
required may be more than a word holds, although what the account has is a small part of it, and
then the account that is due the most is the one that cannot be liquidated
(`FeeTreasury.Position.not_plan_answers`).
-/

namespace FeeTreasury

open Outcome

namespace Outcome

variable {α β : Type} {x : Outcome α} {f : α → Outcome β}

/-- A rule that fails only because a number does not fit. -/
def Narrow (x : Outcome α) : Prop :=
  ∀ fault, x = .error fault → fault = .refused .arithmeticOverflow

theorem narrow_ok (a : α) : Narrow (.ok a : Outcome α) := nofun

theorem narrow_of_eq_ok {a : α} (answered : x = .ok a) : Narrow x := answered ▸ narrow_ok a

theorem narrow_overflow : Narrow (refuse .arithmeticOverflow : Outcome α) := by
  intro fault failed
  exact (Except.error.inj failed).symm

theorem Narrow.bind (first : Narrow x) (rest : ∀ a, x = .ok a → Narrow (f a)) :
    Narrow (x >>= f) := by
  cases x with
  | error fault =>
    obtain rfl := first fault rfl
    exact narrow_overflow
  | ok a => exact rest a rfl

theorem narrow_require {condition : Bool} {reason : Refusal} (holds : condition = true) :
    Narrow (require condition reason) := narrow_of_eq_ok (if_pos holds)

/-- A rule that can fail in one way fails in that way, unless it answers. -/
theorem Narrow.eq_refuse (narrow : Narrow x) (silent : ¬ ∃ a, x = .ok a) :
    x = refuse .arithmeticOverflow := by
  cases x with
  | error fault => rw [narrow fault rfl, refuse]
  | ok a => exact absurd ⟨a, rfl⟩ silent

end Outcome

section Words

variable {a b denominator : UInt64}

theorem narrow_fit64 (n : Nat) : Narrow (fit64 n) := by
  by_cases fits : n < UInt64.size
  · exact narrow_of_eq_ok (if_pos fits)
  · rw [fit64, if_neg fits]
    exact narrow_overflow

theorem narrow_mulDiv (divides : denominator ≠ 0) : Narrow (mulDiv a b denominator) := by
  rw [mulDiv, if_neg divides]
  exact narrow_fit64 _

theorem narrow_decimalMul : Narrow (decimalMul a b) := narrow_mulDiv (by decide)

theorem narrow_mulDivUp (divides : denominator ≠ 0) : Narrow (mulDivUp a b denominator) := by
  -- The plain sum never aborts.
  rw [mulDivUp, if_neg divides, plain128, if_pos (product_add_lt a b denominator)]
  exact narrow_fit64 _

theorem mulDivUp_of_le (divides : denominator ≠ 0) (part : b ≤ denominator) :
    ∃ c, mulDivUp a b denominator = .ok c := by
  have positive : 0 < denominator.toNat := toNat_pos_of_ne_zero divides
  have fits : a.toNat * b.toNat ⌈/⌉ denominator.toNat < UInt64.size := by
    refine Nat.lt_of_le_of_lt ?_ a.toNat_lt
    rw [ceilDiv_le_iff_le_smul positive, smul_eq_mul, Nat.mul_comm denominator.toNat]
    exact Nat.mul_le_mul_left _ (UInt64.le_iff_toNat_le.mp part)
  obtain ⟨c, exactly⟩ := lt_size_iff.mp fits
  exact ⟨c, mulDivUp_eq_ok.mpr ⟨divides, exactly⟩⟩

end Words

namespace LiquidationTerms

/-- Terms at a price, with a penalty of at most one, under which the raised ratio leaves something
of one. -/
structure Admitted (terms : LiquidationTerms) : Prop where
  priced : terms.price ≠ 0
  penalty_le : terms.penalty ≤ unit
  raised_lt : terms.raisedRatio / unit.toNat < unit.toNat

/-- Dollars charged for an amount of debt: the amount and the penalty on it. -/
def charge (terms : LiquidationTerms) (amount : Nat) : Nat :=
  amount * (unit.toNat + terms.penalty.toNat) / unit.toNat

/-- Collateral that the charge for an amount of debt requires. -/
def required (terms : LiquidationTerms) (amount : Nat) : Nat :=
  terms.charge amount * unit.toNat / terms.price.toNat

/-- An amount of debt, the charge for it and the collateral required are words. -/
structure Reckons (terms : LiquidationTerms) (amount : Nat) : Prop where
  amount_lt : amount < UInt64.size
  charge_lt : terms.charge amount < UInt64.size
  required_lt : terms.required amount < UInt64.size

variable {terms : LiquidationTerms}

theorem Admitted.plainAdd_penalty (admitted : terms.Admitted) :
    ∃ raised, plainAdd unit terms.penalty = .ok raised ∧
      raised.toNat = unit.toNat + terms.penalty.toNat := by
  have fits : unit.toNat + terms.penalty.toNat < UInt64.size := by
    refine Nat.lt_of_le_of_lt ?_ (show unit.toNat + unit.toNat < UInt64.size by decide)
    exact Nat.add_le_add_left (UInt64.le_iff_toNat_le.mp admitted.penalty_le) _
  obtain ⟨raised, exactly⟩ := lt_size_iff.mp fits
  exact ⟨raised, plainAdd_eq_ok.mpr exactly, exactly⟩

theorem Admitted.narrow_collateralFor (admitted : terms.Admitted) (amount : UInt64) :
    Narrow (collateralFor amount terms.penalty terms.price) := by
  obtain ⟨raised, adds, _⟩ := admitted.plainAdd_penalty
  refine (narrow_of_eq_ok adds).bind fun _ _ => ?_
  exact narrow_decimalMul.bind fun _ _ => narrow_mulDiv admitted.priced

/-- The collateral for an amount is a word exactly if the amount reckons. -/
theorem Admitted.collateralFor_answers (admitted : terms.Admitted) (amount : UInt64) :
    (∃ required, collateralFor amount terms.penalty terms.price = .ok required) ↔
      terms.Reckons amount.toNat := by
  obtain ⟨raised, adds, raisedEq⟩ := admitted.plainAdd_penalty
  simp only [collateralFor, adds, bind_eq_ok, Except.ok.injEq, exists_eq_left', decimalMul_eq_ok,
    mulDiv_eq_ok, raisedEq]
  constructor
  · rintro ⟨required, charge, chargeEq, _, requiredEq⟩
    refine ⟨amount.toNat_lt, lt_size_iff.mpr ⟨charge, chargeEq⟩, lt_size_iff.mpr ⟨required, ?_⟩⟩
    rw [requiredEq, chargeEq, LiquidationTerms.required, LiquidationTerms.charge]
  · rintro ⟨_, chargeFits, requiredFits⟩
    obtain ⟨charge, chargeEq⟩ := lt_size_iff.mp chargeFits
    obtain ⟨required, requiredEq⟩ := lt_size_iff.mp requiredFits
    refine ⟨required, charge, chargeEq, admitted.priced, ?_⟩
    rw [requiredEq, chargeEq, LiquidationTerms.required]

/-- The raised ratio leaves something of one, all the more so the ratio itself. -/
theorem Admitted.issuanceRatio_lt (admitted : terms.Admitted) :
    terms.issuanceRatio.toNat < unit.toNat :=
  Nat.lt_of_le_of_lt terms.issuanceRatio_le_raised admitted.raised_lt

/-- Twice an amount bounds its charge, since no penalty exceeds one. So an amount reckons if twice
the amount is a word, and is one at the price too. -/
theorem Admitted.reckons_of_moderate (admitted : terms.Admitted) {amount : Nat}
    (moderate : 2 * amount < UInt64.size)
    (affordable : 2 * amount * unit.toNat < UInt64.size * terms.price.toNat) :
    terms.Reckons amount := by
  have charged : terms.charge amount ≤ 2 * amount := by
    refine Nat.div_le_of_le_mul ?_
    have penalty := UInt64.le_iff_toNat_le.mp admitted.penalty_le
    calc amount * (unit.toNat + terms.penalty.toNat)
        ≤ amount * (unit.toNat + unit.toNat) := by gcongr
      _ = unit.toNat * (2 * amount) := by ring
  have positive : 0 < terms.price.toNat := toNat_pos_of_ne_zero admitted.priced
  refine ⟨by omega, Nat.lt_of_le_of_lt charged moderate, ?_⟩
  rw [required, Nat.div_lt_iff_lt_mul positive]
  exact Nat.lt_of_le_of_lt (Nat.mul_le_mul_right _ charged) affordable

end LiquidationTerms

namespace Position

variable {position : Position} {terms : LiquidationTerms}

/-- Debt that the collateral does not back at the issuance ratio. -/
def unbacked (position : Position) (terms : LiquidationTerms) : Nat :=
  position.debt.toNat - position.collateralValue.toNat * terms.issuanceRatio.toNat / unit.toNat

/-- The amount of debt that has to go. -/
def due (position : Position) (terms : LiquidationTerms) : Nat :=
  position.unbacked terms * unit.toNat ⌈/⌉ (unit.toNat - terms.raisedRatio / unit.toNat)

/-- A position that can only be liquidated in full. -/
def Spent (position : Position) (terms : LiquidationTerms) : Prop :=
  position.debt.toNat ≤ position.due terms ∨
    position.collateral.toNat ≤ terms.required (position.due terms)

/-- The numbers of a liquidation fit: those of the amount due, those of the whole debt if all of it
has to go, and the two rewards together. -/
structure Reckons (position : Position) (terms : LiquidationTerms) : Prop where
  due : terms.Reckons (position.due terms)
  whole : position.Spent terms → terms.Reckons position.debt.toNat
  rewards : terms.flagReward.toNat + terms.liquidateReward.toNat < UInt64.size

/-- An amount due for some debt is not zero. -/
theorem due_pos (admitted : terms.Admitted) (owing : 0 < position.unbacked terms) :
    0 < position.due terms := by
  refine Nat.pos_of_ne_zero fun nothing => ?_
  have divisor := Nat.sub_pos_of_lt admitted.raised_lt
  have covered : position.unbacked terms * unit.toNat ≤ _ := le_smul_ceilDiv divisor
  rw [← due, nothing, smul_zero, Nat.le_zero] at covered
  exact Nat.ne_of_gt (Nat.mul_pos owing unit_pos) covered

theorem backed_lt_size (position : Position) (admitted : terms.Admitted) :
    position.collateralValue.toNat * terms.issuanceRatio.toNat / unit.toNat < UInt64.size := by
  refine Nat.lt_of_le_of_lt (Nat.div_le_of_le_mul ?_) position.collateralValue.toNat_lt
  rw [Nat.mul_comm unit.toNat]
  exact Nat.mul_le_mul_left _ (Nat.le_of_lt admitted.issuanceRatio_lt)

/-- Of a debt that is not backed the amount to remove is the amount due, if that is a word. -/
theorem amountToFix_answers (admitted : terms.Admitted) (owing : 0 < position.unbacked terms) :
    Narrow (amountToFix position.debt position.collateralValue terms.penalty
        terms.issuanceRatio) ∧
      ∀ amount : UInt64,
        amountToFix position.debt position.collateralValue terms.penalty terms.issuanceRatio =
          .ok amount ↔ amount.toNat = position.due terms := by
  obtain ⟨backed, backedEq⟩ := lt_size_iff.mp (position.backed_lt_size admitted)
  obtain ⟨raised, adds, raisedEq⟩ := admitted.plainAdd_penalty
  obtain ⟨scaled, scaledEq⟩ := lt_size_iff.mp
    (Nat.lt_trans admitted.raised_lt (show unit.toNat < UInt64.size by decide))
  have multiplies : decimalMul raised terms.issuanceRatio = .ok scaled := by
    rw [decimalMul_eq_ok, raisedEq, scaledEq, LiquidationTerms.raisedRatio]
  have below : scaled < unit := UInt64.lt_iff_toNat_lt.mpr (scaledEq ▸ admitted.raised_lt)
  have short : backed < position.debt := by
    rw [UInt64.lt_iff_toNat_lt, backedEq]
    exact Nat.lt_of_sub_pos owing
  have debtLeft := UInt64.toNat_sub_of_le _ _ (UInt64.le_of_lt short)
  have oneLeft := UInt64.toNat_sub_of_le _ _ (UInt64.le_of_lt below)
  -- Nothing but the last quotient of the rule can fail.
  have rule : amountToFix position.debt position.collateralValue terms.penalty
      terms.issuanceRatio = mulDivUp (position.debt - backed) unit (unit - scaled) := by
    simp only [amountToFix, decimalMul_eq_ok.mpr backedEq, adds, multiplies, require, plainSub,
      decimalDivUp, below, UInt64.not_le.mpr short, ↓reduceIte, decide_true, bind, Except.bind,
      UInt64.le_iff_toNat_le.mp (UInt64.le_of_lt short),
      UInt64.le_iff_toNat_le.mp (UInt64.le_of_lt below)]
  have divides : unit - scaled ≠ 0 := by
    intro zero
    rw [zero, UInt64.toNat_zero, scaledEq] at oneLeft
    exact Nat.ne_of_lt (Nat.sub_pos_of_lt admitted.raised_lt) oneLeft
  rw [rule]
  refine ⟨narrow_mulDivUp divides, fun amount => ?_⟩
  rw [mulDivUp_eq_ok, and_iff_right divides, debtLeft, oneLeft, backedEq, scaledEq]
  rfl

/-- What is taken for an amount is a matter of the collateral for it, and of the collateral for the
whole debt if the liquidation is full. -/
theorem takings_answers (admitted : terms.Admitted) (indebted : position.debt ≠ 0)
    {amount : UInt64} (exactly : amount.toNat = position.due terms) :
    Narrow (position.takings terms amount) ∧
      ((∃ taken, position.takings terms amount = .ok taken) ↔
        terms.Reckons (position.due terms) ∧
          (position.Spent terms → terms.Reckons position.debt.toNat)) := by
  have spent {required : UInt64}
      (requires : collateralFor amount terms.penalty terms.price = .ok required) :
      position.debt ≤ amount ∨ position.collateral ≤ required ↔ position.Spent terms := by
    rw [UInt64.le_iff_toNat_le, UInt64.le_iff_toNat_le, (collateralFor_eq_ok requires).2, exactly]
    rfl
  have shares : Narrow (mulDivUp position.shares amount position.debt) := narrow_mulDivUp indebted
  rw [← exactly, ← admitted.collateralFor_answers, ← admitted.collateralFor_answers]
  constructor
  · refine (admitted.narrow_collateralFor amount).bind fun required requires => ?_
    split
    · exact (admitted.narrow_collateralFor position.debt).bind fun _ _ => narrow_ok _
    · exact shares.bind fun _ _ => narrow_ok _
  · constructor
    · rintro ⟨taken, takes⟩
      obtain ⟨required, requires, ⟨_, whole, wholly, _⟩ | ⟨⟨less, within⟩, _⟩⟩ :=
        takings_eq_ok.mp takes
      · exact ⟨⟨required, requires⟩, fun _ => ⟨whole, wholly⟩⟩
      · have partly := not_or.mpr ⟨UInt64.not_le.mpr less, UInt64.not_le.mpr within⟩
        exact ⟨⟨required, requires⟩, fun full => absurd ((spent requires).mpr full) partly⟩
    · rintro ⟨⟨required, requires⟩, wholly⟩
      by_cases full : position.debt ≤ amount ∨ position.collateral ≤ required
      · obtain ⟨whole, charges⟩ := wholly ((spent requires).mp full)
        exact ⟨_, takings_eq_ok.mpr ⟨required, requires, .inl ⟨full, whole, charges, rfl⟩⟩⟩
      · rw [not_or, UInt64.not_le, UInt64.not_le] at full
        obtain ⟨burned, burns⟩ :=
          mulDivUp_of_le (a := position.shares) indebted (UInt64.le_of_lt full.1)
        exact ⟨_, takings_eq_ok.mpr ⟨required, requires, .inr ⟨full, burned, burns, rfl⟩⟩⟩

end Position

/-- Two parts of some collateral, in proportion to the rewards that it does not cover, are covered
by it. -/
theorem parts_le {redeemed flag rest : Nat} (positive : 0 < flag + rest) :
    flag * redeemed / (flag + rest) + rest * redeemed / (flag + rest) ≤ redeemed := by
  calc flag * redeemed / (flag + rest) + rest * redeemed / (flag + rest)
      ≤ (flag * redeemed + rest * redeemed) / (flag + rest) := Nat.div_add_div_le_add_div ..
    _ = redeemed := by rw [← Nat.add_mul, Nat.mul_div_cancel_left _ positive]

/-- Collateral can be divided if the sum of the two rewards is a word. -/
theorem splitRewards_answers (redeemed flagReward liquidateReward : UInt64) :
    Narrow (splitRewards redeemed flagReward liquidateReward) ∧
      ((∃ split, splitRewards redeemed flagReward liquidateReward = .ok split) ↔
        flagReward.toNat + liquidateReward.toNat < UInt64.size) := by
  by_cases fits : flagReward.toNat + liquidateReward.toNat < UInt64.size
  · -- Once there is a sum nothing can fail.
    suffices answers : ∃ split, splitRewards redeemed flagReward liquidateReward = .ok split by
      obtain ⟨split, splits⟩ := answers
      exact ⟨narrow_of_eq_ok splits, iff_of_true ⟨split, splits⟩ fits⟩
    obtain ⟨rewards, rewardsEq⟩ := lt_size_iff.mp fits
    simp only [splitRewards, checkedAdd_eq_ok.mpr rewardsEq, bind_eq_ok, ite_eq_ok, pure_eq_ok,
      Except.ok.injEq, exists_eq_left', plainSub_eq_ok, checkedSub_eq_ok]
    by_cases covered : rewards ≤ redeemed
    · exact ⟨_, .inl ⟨covered, _, ⟨UInt64.le_iff_toNat_le.mp covered, rfl⟩, rfl⟩⟩
    · have short := UInt64.not_le.mp covered
      have divides : rewards ≠ 0 := by
        rintro rfl
        exact UInt64.not_lt_zero short
      have positive : 0 < flagReward.toNat + liquidateReward.toNat :=
        rewardsEq ▸ Nat.lt_of_le_of_lt (Nat.zero_le _) (UInt64.lt_iff_toNat_lt.mp short)
      obtain ⟨flag, flags⟩ := mulDiv_of_le (a := flagReward) divides (UInt64.le_of_lt short)
      obtain ⟨liquidate, liquidates⟩ :=
        mulDiv_of_le (a := liquidateReward) divides (UInt64.le_of_lt short)
      have parts : flag.toNat + liquidate.toNat ≤ redeemed.toNat := by
        rw [(mulDiv_eq_ok.mp flags).2, (mulDiv_eq_ok.mp liquidates).2, rewardsEq]
        exact parts_le positive
      have flagFits : flag.toNat ≤ redeemed.toNat := Nat.le_trans (Nat.le_add_right ..) parts
      have left := UInt64.toNat_sub_of_le _ _ (UInt64.le_iff_toNat_le.mpr flagFits)
      exact ⟨_, .inr ⟨covered, flag, flags, liquidate, liquidates, _, ⟨flagFits, rfl⟩, _,
        ⟨by omega, rfl⟩, rfl⟩⟩
  · have overflows : splitRewards redeemed flagReward liquidateReward =
        refuse .arithmeticOverflow := by
      rw [splitRewards, checkedAdd, fit64, if_neg fits]
      rfl
    rw [overflows]
    refine ⟨narrow_overflow, iff_of_false ?_ fits⟩
    rintro ⟨_, splits⟩
    exact refuse_ne_ok splits

namespace Position

variable {position : Position} {terms : LiquidationTerms}

/-- A plan for debt that is not backed fails only if a number does not fit, and it is known which
numbers do not. -/
theorem plan_answers (admitted : terms.Admitted) (owing : 0 < position.unbacked terms) :
    Narrow (position.plan terms) ∧
      ((∃ plan, position.plan terms = .ok plan) ↔ position.Reckons terms) := by
  obtain ⟨narrow, fixes⟩ := amountToFix_answers admitted owing
  have indebted : position.debt ≠ 0 := by
    intro free
    rw [unbacked, free, UInt64.toNat_zero, Nat.zero_sub] at owing
    exact Nat.lt_irrefl _ owing
  have something {amount : UInt64} (exactly : amount.toNat = position.due terms) :
      amount ≠ 0 := by
    rintro rfl
    exact Nat.ne_of_lt (due_pos admitted owing) exactly
  constructor
  · refine narrow.bind fun amount fixed => ?_
    have exactly := (fixes amount).mp fixed
    refine (narrow_require (decide_eq_true (something exactly))).bind fun _ _ => ?_
    refine (takings_answers admitted indebted exactly).1.bind fun taken _ => ?_
    exact (splitRewards_answers ..).1.bind fun _ _ => narrow_ok _
  · constructor
    · rintro ⟨plan, planned⟩
      obtain ⟨amount, taken, split, fixed, _, takes, splits, _⟩ := plan_eq_ok planned
      have answers := (takings_answers admitted indebted ((fixes amount).mp fixed)).2
      obtain ⟨reckons, whole⟩ := answers.mp ⟨taken, takes⟩
      exact ⟨reckons, whole, (splitRewards_answers ..).2.mp ⟨split, splits⟩⟩
    · rintro ⟨reckons, whole, rewards⟩
      obtain ⟨amount, exactly⟩ := lt_size_iff.mp reckons.amount_lt
      have answers := (takings_answers admitted indebted exactly).2
      obtain ⟨taken, takes⟩ := answers.mpr ⟨reckons, whole⟩
      obtain ⟨split, splits⟩ := (splitRewards_answers taken.collateralRedeemed ..).2.mpr rewards
      simp only [plan, bind_eq_ok, require_eq_ok, decide_eq_true_eq]
      exact ⟨_, amount, (fixes amount).mpr exactly, (), something exactly, taken, takes, split,
        splits, rfl⟩

end Position

namespace Settings

variable {settings : Settings} {terms : LiquidationTerms} {price : UInt64}

theorem raised_lt_of_checkIssuanceRatio {penalty : UInt64}
    (passes : settings.checkIssuanceRatio penalty = .ok ()) :
    (unit.toNat + penalty.toNat) * settings.issuanceRatio.toNat / unit.toNat < unit.toNat := by
  simp only [checkIssuanceRatio, bind_eq_ok, plainAdd_eq_ok, decimalMul_eq_ok, require_eq_ok,
    decide_eq_true_eq] at passes
  obtain ⟨raised, raisedEq, scaled, scaledEq, below⟩ := passes
  rw [← raisedEq, ← scaledEq]
  exact UInt64.lt_iff_toNat_lt.mp below

/-- Settings that are accepted, with the issuance ratio set, bound both penalties and both raised
ratios. -/
theorem bounds_of_validate (accepted : settings.validate = .ok ())
    (set : settings.issuanceRatio ≠ 0) :
    (settings.liquidationPenalty ≤ unit ∧ settings.selfLiquidationPenalty ≤ unit) ∧
      settings.checkIssuanceRatio settings.liquidationPenalty = .ok () ∧
      settings.checkIssuanceRatio settings.selfLiquidationPenalty = .ok () := by
  simp only [validate, bind_eq_ok, require_eq_ok, decide_eq_true_eq, ite_eq_ok, pure_eq_ok,
    set, ne_eq, not_false_eq_true, true_and, not_true_eq_false, false_and, or_false,
    exists_const] at accepted
  obtain ⟨_, _, penalties, _, _, ⟨_, _, _, _, others, owner⟩ | ⟨_, _, others, owner⟩⟩ := accepted
  · exact ⟨penalties, others, owner⟩
  · exact ⟨penalties, others, owner⟩

/-- The terms that accepted settings offer, to others and to the owner, are admitted. -/
theorem admitted_of_validate (accepted : settings.validate = .ok ()) (priced : price ≠ 0)
    (offered : settings.termsForOthers price = .ok terms ∨
      settings.termsForSelf price = .ok terms) :
    terms.Admitted ∧ terms.issuanceRatio = settings.issuanceRatio := by
  simp only [termsForOthers, termsForSelf, requireIssuanceRatio, bind_eq_ok, require_eq_ok,
    pure_eq_ok, decide_eq_true_eq, exists_const] at offered
  obtain ⟨_, ⟨set, rfl⟩, rfl⟩ | ⟨_, ⟨set, rfl⟩, rfl⟩ := offered
  · obtain ⟨⟨bounded, _⟩, passes, _⟩ := bounds_of_validate accepted set
    exact ⟨⟨priced, bounded, raised_lt_of_checkIssuanceRatio passes⟩, rfl⟩
  · obtain ⟨⟨_, bounded⟩, _, passes⟩ := bounds_of_validate accepted set
    exact ⟨⟨priced, bounded, raised_lt_of_checkIssuanceRatio passes⟩, rfl⟩

end Settings

namespace Position

variable {position : Position} {terms : LiquidationTerms} {settings : Settings} {market : Market}
  {shares collateral supply : UInt64}

/-- A position above a ratio that can be set has debt that its collateral does not back. -/
theorem unbacked_pos (seen : Position.of shares collateral supply market = .ok position)
    (set : terms.issuanceRatio.toNat < unit.toNat) (above : terms.issuanceRatio < position.ratio) :
    0 < position.unbacked terms := by
  have rated : debtRatio position.debt position.collateralValue = .ok position.ratio := by
    simp only [Position.of, bind_eq_ok, pure_eq_ok] at seen
    obtain ⟨_, _, _, _, _, rated, rfl⟩ := seen
    exact rated
  have indebted : 0 < position.debt.toNat := by
    refine Nat.pos_of_ne_zero fun free => ?_
    rw [debtRatio, if_pos (UInt64.toNat_inj.mp free)] at rated
    rw [← Except.ok.inj rated] at above
    exact UInt64.not_lt_zero above
  have uncovered := mt (debtRatio_le_iff indebted rated set).mpr (UInt64.not_le.mpr above)
  refine Nat.sub_pos_of_lt ((Nat.div_lt_iff_lt_mul unit_pos).mpr ?_)
  rw [Nat.not_lt] at uncovered
  obtain worthless | worth := Nat.eq_zero_or_pos position.collateralValue.toNat
  · rw [worthless, Nat.zero_mul]
    exact Nat.mul_pos indebted unit_pos
  · refine Nat.lt_of_lt_of_le ?_ uncovered
    rw [Nat.succ_mul, Nat.mul_comm]
    exact Nat.lt_add_of_pos_right worth

/-- A liquidation reckons if the amount due and the whole debt are moderate against the price, and
the rewards are. -/
theorem reckons_of_moderate (admitted : terms.Admitted)
    (moderate : 2 * max (position.due terms) position.debt.toNat < UInt64.size)
    (affordable : 2 * max (position.due terms) position.debt.toNat * unit.toNat <
      UInt64.size * terms.price.toNat)
    (rewards : terms.flagReward.toNat + terms.liquidateReward.toNat < UInt64.size) :
    position.Reckons terms := by
  have reckons {amount : Nat} (within : amount ≤ max (position.due terms) position.debt.toNat) :
      terms.Reckons amount := by
    have twice := Nat.mul_le_mul_left 2 within
    refine admitted.reckons_of_moderate (Nat.lt_of_le_of_lt twice moderate) ?_
    exact Nat.lt_of_le_of_lt (Nat.mul_le_mul_right _ twice) affordable
  exact ⟨reckons (Nat.le_max_left ..), fun _ => reckons (Nat.le_max_right ..), rewards⟩

/-- Under accepted settings and at any positive price, an account above the issuance ratio has a
plan, on the terms for others as on those for its owner, exactly if the numbers of its liquidation
fit; and if they do not, that is the reason given. -/
theorem plan_answers_iff (accepted : settings.validate = .ok ()) (priced : market.price ≠ 0)
    (seen : Position.of shares collateral supply market = .ok position)
    (above : settings.issuanceRatio < position.ratio)
    (offered : settings.termsForOthers market.price = .ok terms ∨
      settings.termsForSelf market.price = .ok terms) :
    ((∃ plan, position.plan terms = .ok plan) ↔ position.Reckons terms) ∧
      (¬ position.Reckons terms → position.plan terms = refuse .arithmeticOverflow) := by
  obtain ⟨admitted, sameRatio⟩ := Settings.admitted_of_validate accepted priced offered
  have owing := unbacked_pos seen admitted.issuanceRatio_lt (sameRatio ▸ above)
  obtain ⟨narrow, answers⟩ := plan_answers admitted owing
  exact ⟨answers, fun unfit => narrow.eq_refuse (mt answers.mp unfit)⟩

theorem plan_answers_iff_halfCovered :
    halfCovered.Reckons standardTerms ∧
      ∃ plan, halfCovered.plan standardTerms = .ok plan := by
  have reckons : halfCovered.Reckons standardTerms :=
    reckons_of_moderate ⟨by decide, by decide, by decide +kernel⟩ (by decide +kernel)
      (by decide +kernel) (by decide +kernel)
  have accepted : Settings.standard.validate = .ok () := by decide +kernel
  have offered : Settings.standard.termsForOthers 300000 = .ok standardTerms := by decide +kernel
  have seen : Position.of 10000000000 60000000000 10000000000 ⟨300000, 10000000000⟩ =
      .ok halfCovered := by decide +kernel
  obtain ⟨answers, _⟩ :=
    plan_answers_iff accepted (by decide) seen (by decide) (.inl offered)
  exact ⟨reckons, answers.mpr reckons⟩

/-- A hundred million dollars of debt against ten million units of collateral, at a price that has
collapsed to a millionth. -/
def collapsed : Position := ⟨1000000, 100000000000000, 10000000000000, 10000000, 10000000000000⟩

/-- Under the standard settings such an account is above the issuance ratio, but has no plan: the
charge for its debt is worth more collateral at this price than a word holds, although all that a
full liquidation takes is the little that there is. -/
theorem not_plan_answers :
    ¬ ∀ (settings : Settings) (market : Market) (shares collateral supply : UInt64)
        (position : Position) (terms : LiquidationTerms),
      settings.validate = .ok () → settings.issuanceRatio ≠ 0 → market.price ≠ 0 →
      shares ≤ supply → Position.of shares collateral supply market = .ok position →
      settings.issuanceRatio < position.ratio →
      (settings.termsForOthers market.price = .ok terms ∨
        settings.termsForSelf market.price = .ok terms) →
      ∃ plan, position.plan terms = .ok plan := by
  intro answers
  obtain ⟨plan, planned⟩ := answers .standard ⟨1, 100000000000000⟩ 1000000 10000000000000 1000000
    collapsed ⟨1, 200000, 200000, 0, 0⟩ (by decide +kernel) (by decide +kernel) (by decide +kernel)
    (by decide +kernel) (by decide +kernel) (by decide +kernel) (.inr (by decide +kernel))
  have refused : collapsed.plan ⟨1, 200000, 200000, 0, 0⟩ = refuse .arithmeticOverflow := by
    decide +kernel
  exact refuse_ne_ok (refused.symm.trans planned)

end Position

end FeeTreasury
