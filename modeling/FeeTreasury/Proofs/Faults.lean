import FeeTreasury.Claim
import FeeTreasury.Liquidation.Rules
import FeeTreasury.Proofs.Answer

/-!
# How rules fail

The faults of a sequence are those of its first rule, and those of the second one on every answer of
the first (`FeeTreasury.Outcome.failsAs_bind`). Checked arithmetic only refuses, and plain
arithmetic is aborted exactly if the exact number does not fit. No rule refuses because of an
address: to look at addresses is left to the program. So whichever faults are admitted besides
(`FeeTreasury.AdmitsReasons`), all that is left to show of a rule is that its plain sums and
differences fit, or that an abort is admitted too. Where the bounds come from the rule itself, or
from settings that the treasury accepts, that is shown here, for all amounts, prices and shares
(`FeeTreasury.Settings.responds_of_validate`).
-/

namespace FeeTreasury

namespace Fault

/-- A reason, and no abort. -/
def Reasoned (fault : Fault) : Prop := fault ≠ .aborted

/-- A fault that has nothing to do with an address. -/
def Placed (fault : Fault) : Prop := fault ≠ .refused .invalidAddress

@[simp] theorem not_reasoned_aborted : ¬ Reasoned .aborted := fun reasoned => reasoned rfl

theorem placed_aborted : Placed .aborted := nofun

end Fault

/-- Every reason is admitted that rules give. -/
class AdmitsReasons (admits : Fault → Prop) : Prop where
  reason : ∀ reason, reason ≠ .invalidAddress → admits (.refused reason)

instance : AdmitsReasons Fault.Reasoned := ⟨fun _ _ => nofun⟩

instance : AdmitsReasons Fault.Placed :=
  ⟨fun _ other same => other (Fault.refused.inj same)⟩

namespace Outcome

section FailsAs

variable {ε α β : Type} {x y : Except ε α} {admits : ε → Prop}

/-- The rule fails as admitted, if it fails. -/
def FailsAs (admits : ε → Prop) (x : Except ε α) : Prop :=
  ∀ fault, x = .error fault → admits fault

@[simp] theorem failsAs_ok (a : α) : FailsAs admits (.ok a : Except ε α) := nofun

@[simp] theorem failsAs_pure (a : α) : FailsAs admits (pure a : Except ε α) := nofun

@[simp] theorem failsAs_error {fault : ε} :
    FailsAs admits (.error fault : Except ε α) ↔ admits fault :=
  ⟨fun fails => fails fault rfl, by rintro admitted _ ⟨⟩; exact admitted⟩

@[simp] theorem failsAs_throw {fault : ε} :
    FailsAs admits (throw fault : Except ε α) ↔ admits fault := failsAs_error

@[simp] theorem failsAs_bind {f : α → Except ε β} :
    FailsAs admits (x >>= f) ↔ FailsAs admits x ∧ ∀ a, x = .ok a → FailsAs admits (f a) := by
  cases x with
  | error fault =>
    refine ⟨fun fails => ⟨fun other failed => ?_, nofun⟩, fun fails other failed => ?_⟩
    · exact fails other (congrArg (· >>= f) failed)
    · exact fails.1 other (congrArg Except.error (Except.error.inj failed))
  | ok a =>
    refine ⟨fun fails => ⟨failsAs_ok a, ?_⟩, fun fails => fails.2 a rfl⟩
    rintro _ ⟨⟩
    exact fails

@[simp] theorem failsAs_map {f : α → β} : FailsAs admits (f <$> x) ↔ FailsAs admits x := by
  rw [map_eq_pure_bind, failsAs_bind]
  exact and_iff_left fun _ _ => failsAs_pure _

@[simp] theorem failsAs_ite {condition : Prop} [Decidable condition] :
    FailsAs admits (if condition then x else y) ↔
      (condition → FailsAs admits x) ∧ (¬ condition → FailsAs admits y) := by
  by_cases holds : condition
  · rw [if_pos holds, imp_iff_right holds, and_iff_left (absurd holds)]
  · rw [if_neg holds, imp_iff_right holds, and_iff_right fun within => absurd within holds]

end FailsAs

variable {α : Type} {x : Outcome α} {admits : Fault → Prop}

/-- The rule gives its result or a reason. -/
def Replies (x : Outcome α) : Prop := x ≠ abort

theorem replies_iff_failsAs : Replies x ↔ FailsAs Fault.Reasoned x := by
  constructor
  · rintro replies fault failed rfl
    exact replies failed
  · exact fun fails aborted => fails .aborted aborted rfl

@[simp] theorem failsAs_refuse [AdmitsReasons admits] {reason : Refusal}
    (other : reason ≠ .invalidAddress) : FailsAs admits (refuse reason : Outcome α) := by
  rintro _ ⟨⟩
  exact AdmitsReasons.reason reason other

@[simp] theorem failsAs_require [AdmitsReasons admits] (condition : Bool) {reason : Refusal}
    (other : reason ≠ .invalidAddress) : FailsAs admits (require condition reason) := by
  cases condition with
  | false => exact failsAs_refuse other
  | true => exact failsAs_ok ()

/-- Plain arithmetic is aborted if the exact number does not fit. -/
theorem failsAs_ite_abort {condition : Prop} [Decidable condition] {a : α} :
    FailsAs admits (if condition then .ok a else abort) ↔ condition ∨ admits .aborted := by
  by_cases holds : condition
  · rw [if_pos holds]
    exact iff_of_true (failsAs_ok a) (.inl holds)
  · rw [if_neg holds, or_iff_right holds]
    exact ⟨fun fails => fails .aborted rfl, by rintro admitted _ ⟨⟩; exact admitted⟩

end Outcome

open Outcome

variable {admits : Fault → Prop} [AdmitsReasons admits]

/-! ## Arithmetic -/

section Words

variable {a b denominator : UInt64}

@[simp] theorem failsAs_fit64 (n : Nat) : FailsAs admits (fit64 n) := by simp [fit64]

@[simp] theorem failsAs_fit128 (n : Nat) : FailsAs admits (fit128 n) := by simp [fit128]

@[simp] theorem failsAs_fitTime (n : Int) : FailsAs admits (fitTime n) := by simp [fitTime]

@[simp] theorem failsAs_checkedAdd (a b : UInt64) : FailsAs admits (checkedAdd a b) :=
  failsAs_fit64 _

@[simp] theorem failsAs_checkedSub (a b : UInt64) : FailsAs admits (checkedSub a b) := by
  simp [checkedSub]

@[simp] theorem failsAs_mulDiv (a b denominator : UInt64) :
    FailsAs admits (mulDiv a b denominator) := by simp [mulDiv]

@[simp] theorem failsAs_decimalMul (a b : UInt64) : FailsAs admits (decimalMul a b) :=
  failsAs_mulDiv a b unit

omit [AdmitsReasons admits] in
theorem failsAs_plainAdd :
    FailsAs admits (plainAdd a b) ↔ a.toNat + b.toNat < UInt64.size ∨ admits .aborted :=
  failsAs_ite_abort

omit [AdmitsReasons admits] in
theorem failsAs_plainSub :
    FailsAs admits (plainSub a b) ↔ b.toNat ≤ a.toNat ∨ admits .aborted :=
  failsAs_ite_abort

omit [AdmitsReasons admits] in
theorem failsAs_plainElapsed {later earlier : Int64} :
    FailsAs admits (plainElapsed later earlier) ↔
      (Int64.minValue.toInt ≤ later.toInt - earlier.toInt ∧
        later.toInt - earlier.toInt ≤ Int64.maxValue.toInt) ∨ admits .aborted :=
  failsAs_ite_abort

/-- The plain sum of a quotient that is rounded up always fits. -/
@[simp] theorem failsAs_mulDivUp (a b denominator : UInt64) :
    FailsAs admits (mulDivUp a b denominator) := by
  have fits : FailsAs admits (plain128 (a.toNat * b.toNat + denominator.toNat)) :=
    failsAs_ite_abort.mpr (.inl (product_add_lt a b denominator))
  simp [mulDivUp, fits]

@[simp] theorem failsAs_decimalDiv (a b : UInt64) : FailsAs admits (decimalDiv a b) :=
  failsAs_mulDiv a unit b

@[simp] theorem failsAs_decimalDivUp (a b : UInt64) : FailsAs admits (decimalDivUp a b) :=
  failsAs_mulDivUp a unit b

@[simp] theorem failsAs_perShare (amount : UInt128) (shares : UInt64) :
    FailsAs admits (perShare amount shares) := by simp [perShare]

@[simp] theorem failsAs_fromPerShare (shares : UInt64) (delta : UInt128) :
    FailsAs admits (fromPerShare shares delta) := by simp [fromPerShare]

omit [AdmitsReasons admits] in
/-- One and a part of one are together a word. -/
theorem failsAs_plainAdd_unit (part : b ≤ unit ∨ admits .aborted) :
    FailsAs admits (plainAdd unit b) := by
  refine failsAs_plainAdd.mpr (part.imp_left fun part => ?_)
  refine Nat.lt_of_le_of_lt ?_ (show unit.toNat + unit.toNat < UInt64.size by decide)
  exact Nat.add_le_add_left (UInt64.le_iff_toNat_le.mp part) _

end Words

/-! ## Logs, pools and periods -/

@[simp] theorem failsAs_shareSeconds (shares : UInt64) (fromIndex toIndex : UInt128) :
    FailsAs admits (shareSeconds shares fromIndex toIndex) := failsAs_fit128 _

namespace OwnershipLog

@[simp] theorem failsAs_fractionOf (shares supply : UInt64) :
    FailsAs admits (fractionOf shares supply) := by simp [fractionOf]

@[simp] theorem failsAs_recordChange (log : OwnershipLog) (now : Int64) (openPeriod : FeePeriod)
    (index : UInt128) (shares supply : UInt64) :
    FailsAs admits (log.recordChange now openPeriod index shares supply) := by
  unfold recordChange
  cases log.latest <;> simp

@[simp] theorem failsAs_shareSecondsIn (log : OwnershipLog) (period : FeePeriod) :
    FailsAs admits (log.shareSecondsIn period) := by
  unfold shareSecondsIn
  cases log.entryFor period.id <;> cases log.entryBefore period.id <;> simp

end OwnershipLog

namespace RewardPool

@[simp] theorem failsAs_deposit (pool : RewardPool) (amount supply : UInt64) :
    FailsAs admits (pool.deposit amount supply) := by simp [deposit]

@[simp] theorem failsAs_credit (pool : RewardPool) (checkpoint : Checkpoint) (shares : UInt64) :
    FailsAs admits (pool.credit checkpoint shares) := by simp [credit, earned]

@[simp] theorem failsAs_takeReward (pool : RewardPool) (checkpoint : Checkpoint)
    (shares : UInt64) : FailsAs admits (pool.takeReward checkpoint shares) := by simp [takeReward]

end RewardPool

@[simp] theorem Section.failsAs_ofNumber (number : UInt8) :
    FailsAs admits (Section.ofNumber number) := by
  unfold Section.ofNumber
  split
  · exact failsAs_ok _
  · exact failsAs_refuse (by decide)

@[simp] theorem Pot.failsAs_add (pot : Pot) (amount : UInt64) :
    FailsAs admits (pot.add amount) := by simp [Pot.add]

namespace FeePeriod

@[simp] theorem failsAs_recordClaim (period : FeePeriod) (fees rewards : UInt64) :
    FailsAs admits (period.recordClaim fees rewards) := by simp [recordClaim]

@[simp] theorem failsAs_inherit (heir dropped : FeePeriod) :
    FailsAs admits (heir.inherit dropped) := by simp [inherit]

@[simp] theorem failsAs_owed (period : FeePeriod) (ratio : UInt64) :
    FailsAs admits (period.owed ratio) := by simp [owed, portion]

end FeePeriod

@[simp] theorem Entitlement.failsAs_sum (entitlements : List Entitlement) :
    FailsAs admits (Entitlement.sum entitlements) := by
  unfold Entitlement.sum
  generalize Entitlement.zero = total
  induction entitlements generalizing total with
  | nil => exact failsAs_pure total
  | cons first rest ih => simp [List.foldlM_cons, Entitlement.add, ih]

namespace PeriodLedger

variable {ledger : PeriodLedger}

@[simp] theorem failsAs_modifyPeriod (ledger : PeriodLedger) (index : Nat)
    {change : FeePeriod → Outcome FeePeriod} (fails : ∀ period, FailsAs admits (change period)) :
    FailsAs admits (ledger.modifyPeriod index change) := by simp [modifyPeriod, period, fails]

@[simp] theorem failsAs_debtRatio (ledger : PeriodLedger) (log : OwnershipLog) (index : Nat) :
    FailsAs admits (ledger.debtRatio log index) := by simp [debtRatio]

@[simp] theorem failsAs_owedByPeriod (ledger : PeriodLedger) (log : OwnershipLog)
    (lastClaimed : UInt64) : FailsAs admits (ledger.owedByPeriod log lastClaimed) := by
  simp [owedByPeriod, owedFor]

/-- An index that was brought forward at the epoch or later can be brought forward to any time. -/
theorem failsAs_accrue (begun : 0 ≤ ledger.lastAccrual ∨ admits .aborted) (now : Int64)
    (supply : UInt64) : FailsAs admits (ledger.accrue now supply) := by
  have elapsed (later : ¬ now ≤ ledger.lastAccrual) :
      FailsAs admits (plainElapsed now ledger.lastAccrual) := by
    refine failsAs_plainElapsed.mpr (begun.imp_left fun begun => ?_)
    rw [Int64.not_le, Int64.lt_iff_toInt_lt] at later
    rw [Int64.le_iff_toInt_le] at begun
    have bound := now.toInt_le
    have zero : (0 : Int64).toInt = 0 := rfl
    have least : Int64.minValue.toInt ≤ 0 := by decide
    omega
  simp only [accrue, failsAs_ite, failsAs_bind, failsAs_pure, failsAs_fit128, failsAs_checkedAdd,
    implies_true, true_and, and_true]
  exact elapsed

theorem failsAs_rotate (begun : 0 ≤ ledger.lastAccrual ∨ admits .aborted) (now duration : Int64)
    (supply : UInt64) : FailsAs admits (ledger.rotate now duration supply) := by
  unfold rotate
  refine failsAs_bind.mpr ⟨failsAs_accrue begun now supply, fun accrued _ => ?_⟩
  simp [apply_ite]

theorem failsAs_closeCurrent (begun : 0 ≤ ledger.lastAccrual ∨ admits .aborted) {now : Int64}
    (elapsed : FailsAs admits (plainElapsed now ledger.current.start)) (duration : Int64)
    (supply : UInt64) : FailsAs admits (ledger.closeCurrent now duration supply) := by
  simp [closeCurrent, elapsed, failsAs_rotate begun]

theorem failsAs_closeFromRelayer (begun : 0 ≤ ledger.lastAccrual ∨ admits .aborted) (now : Int64)
    (id : UInt64) (duration configured : Int64) (supply : UInt64) :
    FailsAs admits (ledger.closeFromRelayer now id duration configured supply) := by
  simp [closeFromRelayer, failsAs_rotate begun]

@[simp] theorem failsAs_recordFee (ledger : PeriodLedger) (amount : UInt64) :
    FailsAs admits (ledger.recordFee amount) := by simp [recordFee]

@[simp] theorem failsAs_recordReward (ledger : PeriodLedger) (amount : UInt64) :
    FailsAs admits (ledger.recordReward amount) := by simp [recordReward]

@[simp] theorem failsAs_importPeriod (ledger : PeriodLedger) (now : Int64) (index : Nat)
    (history : PeriodImport) : FailsAs admits (ledger.importPeriod now index history) := by
  simp [importPeriod]

end PeriodLedger

namespace ShareBooks

variable {books : ShareBooks}

theorem failsAs_setShares (begun : 0 ≤ books.ledger.lastAccrual ∨ admits .aborted)
    (pool : RewardPool) (balance : UInt64) (now : Int64) :
    FailsAs admits (books.setShares pool balance now) := by
  simp [setShares, PeriodLedger.failsAs_accrue begun]

theorem failsAs_liquidate (begun : 0 ≤ books.ledger.lastAccrual ∨ admits .aborted)
    (pool : RewardPool) (plan : LiquidationPlan) (now : Int64) :
    FailsAs admits (books.liquidate pool plan now) := by
  simp [liquidate, failsAs_setShares, begun]

end ShareBooks

/-! ## Positions and liquidations -/

@[simp] theorem failsAs_debtOf (shares supply totalDebt : UInt64) :
    FailsAs admits (debtOf shares supply totalDebt) := by simp [debtOf]

@[simp] theorem failsAs_debtRatio (debt collateralValue : UInt64) :
    FailsAs admits (debtRatio debt collateralValue) := by
  have fails : FailsAs admits _ := failsAs_decimalDiv debt collateralValue
  unfold debtRatio
  split
  · exact failsAs_pure _
  split
  · exact failsAs_pure _
  split
  · exact failsAs_pure _
  · exact fails

@[simp] theorem Position.failsAs_of (shares collateral supply : UInt64) (market : Market) :
    FailsAs admits (Position.of shares collateral supply market) := by simp [Position.of]

@[simp] theorem Staker.failsAs_position (staker : Staker) (supply : UInt64) (market : Market) :
    FailsAs admits (staker.position supply market) :=
  Position.failsAs_of staker.shares staker.collateral supply market

/-- The differences are taken after comparisons, so only the penalty has to be bounded. -/
theorem failsAs_amountToFix {penalty : UInt64} (within : penalty ≤ unit ∨ admits .aborted)
    (debt collateralValue issuanceRatio : UInt64) :
    FailsAs admits (amountToFix debt collateralValue penalty issuanceRatio) := by
  simp only [amountToFix, failsAs_bind, failsAs_decimalMul, failsAs_ite, failsAs_pure,
    failsAs_plainAdd_unit within, failsAs_require, failsAs_plainSub, failsAs_decimalDivUp,
    require_eq_ok, decide_eq_true_eq, ne_eq, reduceCtorEq, not_false_eq_true, implies_true,
    true_and, and_true]
  intro backed _ owing raised _ scaled _ _ below
  refine ⟨.inl ?_, fun _ _ => .inl ?_⟩
  · exact UInt64.le_iff_toNat_le.mp (UInt64.le_of_lt (UInt64.not_le.mp owing))
  · exact UInt64.le_iff_toNat_le.mp (UInt64.le_of_lt below)

theorem failsAs_collateralFor {penalty : UInt64} (within : penalty ≤ unit ∨ admits .aborted)
    (amount price : UInt64) : FailsAs admits (collateralFor amount penalty price) := by
  simp [collateralFor, failsAs_plainAdd_unit within]

@[simp] theorem failsAs_splitRewards (redeemed flagReward liquidateReward : UInt64) :
    FailsAs admits (splitRewards redeemed flagReward liquidateReward) := by
  simp only [splitRewards, failsAs_bind, failsAs_checkedAdd, failsAs_ite, failsAs_plainSub,
    failsAs_pure, failsAs_mulDiv, failsAs_checkedSub, implies_true, and_true, true_and]
  exact fun rewards _ covered => .inl (UInt64.le_iff_toNat_le.mp covered)

theorem Position.failsAs_plan {terms : LiquidationTerms}
    (within : terms.penalty ≤ unit ∨ admits .aborted) (position : Position) :
    FailsAs admits (position.plan terms) := by
  simp [Position.plan, Position.takings, Position.fullTakings, failsAs_amountToFix within,
    failsAs_collateralFor within]

@[simp] theorem LiquidationRecords.failsAs_flag (records : LiquidationRecords)
    (settings : Settings) (flagger : Key) (position : Position) (now : Int64) :
    FailsAs admits (records.flag settings flagger position now) := by
  simp [flag, LiquidationBook.openEntry, Settings.requireLiquidationRatio]

namespace Settings

variable {settings : Settings}

@[simp] theorem failsAs_requireIssuanceRatio (settings : Settings) :
    FailsAs admits settings.requireIssuanceRatio := by simp [requireIssuanceRatio]

@[simp] theorem failsAs_checkSelfLiquidatable (settings : Settings) (position : Position) :
    FailsAs admits (settings.checkSelfLiquidatable position) := by simp [checkSelfLiquidatable]

@[simp] theorem failsAs_termsForOthers (settings : Settings) (price : UInt64) :
    FailsAs admits (settings.termsForOthers price) := by simp [termsForOthers]

@[simp] theorem failsAs_termsForSelf (settings : Settings) (price : UInt64) :
    FailsAs admits (settings.termsForSelf price) := by simp [termsForSelf]

theorem failsAs_checkLiquidationRatio
    (within : settings.liquidationPenalty ≤ unit ∨ admits .aborted) :
    FailsAs admits settings.checkLiquidationRatio := by
  simp [checkLiquidationRatio, failsAs_plainAdd_unit within]

theorem failsAs_checkIssuanceRatio {penalty : UInt64}
    (within : penalty ≤ unit ∨ admits .aborted) :
    FailsAs admits (settings.checkIssuanceRatio penalty) := by
  simp [checkIssuanceRatio, failsAs_plainAdd_unit within]

/-- Any settings are accepted or turned down: the penalties are bounded before they are added. -/
@[simp] theorem failsAs_validate (settings : Settings) : FailsAs admits settings.validate := by
  simp only [validate, failsAs_bind, failsAs_require, require_eq_ok, decide_eq_true_eq, failsAs_ite,
    failsAs_pure, ne_eq, reduceCtorEq, not_false_eq_true, true_and, implies_true, and_true]
  intro _ _ _ _ _ ⟨others, owner⟩ _ _ _ _
  have issuance : FailsAs admits (settings.checkIssuanceRatio settings.liquidationPenalty) ∧
      ∀ u, settings.checkIssuanceRatio settings.liquidationPenalty = .ok u →
        FailsAs admits (settings.checkIssuanceRatio settings.selfLiquidationPenalty) :=
    ⟨failsAs_checkIssuanceRatio (.inl others), fun _ _ => failsAs_checkIssuanceRatio (.inl owner)⟩
  exact ⟨fun _ => ⟨failsAs_checkLiquidationRatio (.inl others), fun _ _ _ => issuance⟩,
    fun _ _ => issuance⟩

/-- Settings that are accepted bound whatever is added to one. -/
theorem parts_of_validate (accepted : settings.validate = .ok ()) :
    settings.targetThreshold ≤ unit ∧ settings.liquidationPenalty ≤ unit ∧
      settings.selfLiquidationPenalty ≤ unit := by
  simp only [validate, bind_eq_ok, require_eq_ok, decide_eq_true_eq, exists_const] at accepted
  obtain ⟨_, ⟨_, threshold⟩, penalties, _⟩ := accepted
  exact ⟨UInt64.le_trans threshold (by decide), penalties⟩

end Settings

@[simp] theorem LiquidationRecords.failsAs_removeIfHealthy (records : LiquidationRecords)
    (settings : Settings) (position : Position) :
    FailsAs admits (records.removeIfHealthy settings position) := by simp [removeIfHealthy]

@[simp] theorem LiquidationEntry.failsAs_checkLiquidatable (entry : LiquidationEntry)
    (settings : Settings) (position : Position) (now : Int64) :
    FailsAs admits (entry.checkLiquidatable settings position now) := by simp [checkLiquidatable]

theorem Position.failsAs_claimable {settings : Settings}
    (within : settings.targetThreshold ≤ unit ∨ admits .aborted) (position : Position) :
    FailsAs admits (position.claimable settings) := by
  simp [Position.claimable, Settings.claimableRatioLimit, failsAs_plainAdd_unit within]

namespace Settings

/-- Whatever is asked about a position under the settings gets a reply: whether fees can be claimed,
what to do about its liquidation, and what to take for that. -/
structure Responds (settings : Settings) : Prop where
  claimable : ∀ position : Position, Replies (position.claimable settings)
  flag : ∀ (records : LiquidationRecords) (flagger : Key) (position : Position) (now : Int64),
    Replies (records.flag settings flagger position now)
  remove : ∀ (records : LiquidationRecords) (position : Position),
    Replies (records.removeIfHealthy settings position)
  liquidatable : ∀ (entry : LiquidationEntry) (position : Position) (now : Int64),
    Replies (entry.checkLiquidatable settings position now)
  selfLiquidatable : ∀ position : Position, Replies (settings.checkSelfLiquidatable position)
  plan : ∀ (price : UInt64) (terms : LiquidationTerms),
    settings.termsForOthers price = .ok terms ∨ settings.termsForSelf price = .ok terms →
      ∀ position : Position, Replies (position.plan terms)
  amounts : ∀ penalty ∈ [settings.liquidationPenalty, settings.selfLiquidationPenalty],
    ∀ debt collateralValue issuanceRatio amount price : UInt64,
      Replies (amountToFix debt collateralValue penalty issuanceRatio) ∧
        Replies (collateralFor amount penalty price)

theorem responds_of_validate {settings : Settings} (accepted : settings.validate = .ok ()) :
    settings.Responds := by
  obtain ⟨threshold, others, owner⟩ := parts_of_validate accepted
  refine ⟨fun position => ?_, fun records flagger position now => ?_, fun records position => ?_,
    fun entry position now => ?_, fun position => ?_, fun price terms offered position => ?_,
    fun penalty listed debt value ratio amount price => ?_⟩
  all_goals simp only [replies_iff_failsAs]
  · exact position.failsAs_claimable (.inl threshold)
  · exact records.failsAs_flag settings flagger position now
  · exact records.failsAs_removeIfHealthy settings position
  · exact entry.failsAs_checkLiquidatable settings position now
  · exact settings.failsAs_checkSelfLiquidatable position
  · simp only [termsForOthers, termsForSelf, requireIssuanceRatio, bind_eq_ok, pure_eq_ok]
      at offered
    obtain ⟨_, _, rfl⟩ | ⟨_, _, rfl⟩ := offered
    · exact Position.failsAs_plan (.inl others) position
    · exact Position.failsAs_plan (.inl owner) position
  · have within : penalty ≤ unit := by
      rw [List.mem_pair] at listed
      rcases listed with rfl | rfl
      · exact others
      · exact owner
    exact ⟨failsAs_amountToFix (.inl within) debt value ratio,
      failsAs_collateralFor (.inl within) amount price⟩

end Settings

/-! ## Claims -/

@[simp] theorem StatusBoard.failsAs_requireActive (board : StatusBoard) (parts : List Section) :
    FailsAs admits (board.requireActive parts) := by
  unfold requireActive
  split
  · exact failsAs_refuse nofun
  · exact failsAs_ok _

@[simp] theorem Oracle.failsAs_market (oracle : Oracle) : FailsAs admits oracle.market := by
  unfold market
  repeat' split
  all_goals simp

theorem ClaimBooks.failsAs_assess {terms : ClaimTerms}
    (within : terms.settings.targetThreshold ≤ unit ∨ admits .aborted) (books : ClaimBooks) :
    FailsAs admits (books.assess terms) := by
  simp [assess, Staker.position, Position.failsAs_claimable within]

namespace Claiming

variable {α β : Type} {claiming : Claiming α}

/-- Whatever the books, the claim fails as admitted, if it fails. -/
def FailsAs (admits : Fault → Prop) (claiming : Claiming α) : Prop :=
  ∀ books fault after, claiming books = .error fault after → admits fault

section Parts

omit [AdmitsReasons admits]

theorem failsAs_liftExcept {x : Outcome α} (fails : Outcome.FailsAs admits x) :
    FailsAs admits (liftExcept x) := by
  intro books fault after failed
  cases x with
  | error other =>
    obtain ⟨rfl, rfl⟩ := EStateM.Result.error.inj failed
    exact fails _ rfl
  | ok a => exact nomatch failed

theorem failsAs_pure (a : α) : FailsAs admits (pure a) :=
  fun _ _ _ failed => nomatch failed

theorem failsAs_get : FailsAs admits get :=
  fun _ _ _ failed => nomatch failed

theorem failsAs_set (books : ClaimBooks) : FailsAs admits (set books) :=
  fun _ _ _ failed => nomatch failed

theorem failsAs_modify (change : ClaimBooks → ClaimBooks) : FailsAs admits (modify change) :=
  fun _ _ _ failed => nomatch failed

theorem FailsAs.bind {rest : α → Claiming β} (first : FailsAs admits claiming)
    (fails : ∀ a, FailsAs admits (rest a)) : FailsAs admits (claiming >>= rest) := by
  intro books fault after failed
  change EStateM.bind claiming rest books = _ at failed
  unfold EStateM.bind at failed
  cases answered : claiming books with
  | error other middle =>
    rw [answered] at failed
    obtain ⟨rfl, rfl⟩ := EStateM.Result.error.inj failed
    exact first _ _ _ answered
  | ok a middle =>
    rw [answered] at failed
    exact fails a _ _ _ failed

end Parts

/-- What would follow a refusal does not matter. -/
theorem failsAs_throw_bind (reason : Refusal) (other : reason ≠ .invalidAddress)
    (rest : PUnit → Claiming β) : FailsAs admits (throw (.refused reason) >>= rest) := by
  intro books fault after failed
  obtain ⟨rfl, rfl⟩ := EStateM.Result.error.inj failed
  exact AdmitsReasons.reason reason other

theorem failsAs_mark (index : Nat) (amount : Entitlement) :
    FailsAs admits (mark index amount) := by
  unfold mark
  cases amount.isZero with
  | true => exact failsAs_pure _
  | false =>
    refine failsAs_get.bind fun books => ?_
    refine FailsAs.bind (failsAs_liftExcept ?_) fun ledger => failsAs_set _
    exact books.ledger.failsAs_modifyPeriod index fun period => period.failsAs_recordClaim _ _

theorem failsAs_claim {terms : ClaimTerms}
    (within : terms.settings.targetThreshold ≤ unit ∨ admits .aborted) :
    FailsAs admits (claim terms) := by
  unfold claim
  refine failsAs_get.bind fun books => ?_
  refine (failsAs_liftExcept (books.failsAs_assess within)).bind fun owed => ?_
  refine (failsAs_liftExcept (Entitlement.failsAs_sum _)).bind fun total => ?_
  cases total.isZero with
  | true => exact failsAs_throw_bind .nothingToClaim nofun _
  | false =>
    refine (failsAs_mark 3 _).bind fun _ => (failsAs_mark 2 _).bind fun _ => ?_
    exact (failsAs_mark 1 _).bind fun _ => (failsAs_modify _).bind fun _ => failsAs_pure _

theorem failsAs_claimOnBehalf (approval : Approval) (delegate : Key) {terms : ClaimTerms}
    (within : terms.settings.targetThreshold ≤ unit ∨ admits .aborted) :
    FailsAs admits (claimOnBehalf approval delegate terms) := by
  unfold claimOnBehalf
  refine failsAs_get.bind fun books => ?_
  cases approval.permits books.staker.owner delegate with
  | false => exact failsAs_throw_bind .notApprovedToClaim nofun _
  | true => exact failsAs_claim within

end Claiming

end FeeTreasury
