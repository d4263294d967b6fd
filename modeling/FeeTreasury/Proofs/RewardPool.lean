import FeeTreasury.RewardPool
import FeeTreasury.Proofs.Answer

/-!
# What the reward pool owes

With eighteen decimals the pool owes a holder what was credited to it, and for each of its shares
what the reward per share has grown by since (`FeeTreasury.RewardPool.owed`). What it has earned is
that, rounded down (`FeeTreasury.RewardPool.earned_eq_ok`). A credit owes no more than before, and
what it owes then no longer depends on the shares (`FeeTreasury.RewardPool.owed_of_credit`).
-/

namespace FeeTreasury

open Outcome

namespace RewardPool

variable {pool after : RewardPool} {checkpoint left : Checkpoint} {shares supply amount : UInt64}

/-- What the pool owes a holder of shares, with eighteen decimals. -/
def owed (pool : RewardPool) (checkpoint : Checkpoint) (shares : UInt64) : Nat :=
  preciseUnit * checkpoint.accrued.toNat +
    shares.toNat * (pool.rewardPerShare.toNat - checkpoint.creditedUpTo.toNat)

/-- What a holder has earned is what the pool owes it, rounded down, if the part that is not
credited yet has room in the wide word. -/
theorem earned_eq_ok :
    pool.earned checkpoint shares = .ok amount ↔
      shares.toNat * (pool.rewardPerShare.toNat - checkpoint.creditedUpTo.toNat) < UInt128.size ∧
        amount.toNat = pool.owed checkpoint shares / preciseUnit := by
  rw [owed, Nat.mul_add_div preciseUnit_pos]
  simp only [earned, bind_eq_ok, fromPerShare_eq_ok, toNat_saturatingSub128, fit64_eq_ok,
    checkedAdd_eq_ok]
  generalize shares.toNat * (pool.rewardPerShare.toNat - checkpoint.creditedUpTo.toNat) = pending
  constructor
  · rintro ⟨scaled, ⟨fits, exactly⟩, rounded, roundedEq, summed⟩
    exact ⟨fits, by rw [summed, roundedEq, exactly]⟩
  · rintro ⟨fits, summed⟩
    have wide : (BitVec.ofNat 128 (pending / preciseUnit)).toNat = pending / preciseUnit :=
      toNat_ofNat128_of_lt (Nat.lt_of_le_of_lt (Nat.div_le_self ..) fits)
    have narrow : (UInt64.ofNat (pending / preciseUnit)).toNat = pending / preciseUnit :=
      UInt64.toNat_ofNat_of_lt'
        (Nat.lt_of_le_of_lt (Nat.le_add_left ..) (summed ▸ amount.toNat_lt))
    exact ⟨_, ⟨fits, wide⟩, _, narrow.trans wide.symm, by rw [narrow, summed]⟩

/-- A holder that is owed no more than a word can count has earned an amount. -/
theorem exists_earned (counted : pool.owed checkpoint shares < preciseUnit * UInt64.size) :
    ∃ amount, pool.earned checkpoint shares = .ok amount := by
  have fits : pool.owed checkpoint shares / preciseUnit < UInt64.size :=
    Nat.div_lt_of_lt_mul counted
  refine ⟨UInt64.ofNat (pool.owed checkpoint shares / preciseUnit), earned_eq_ok.mpr
    ⟨Nat.lt_of_le_of_lt (Nat.le_add_left ..) (Nat.lt_trans counted (by decide)), ?_⟩⟩
  exact UInt64.toNat_ofNat_of_lt' fits

theorem earned_mul_le (answered : pool.earned checkpoint shares = .ok amount) :
    preciseUnit * amount.toNat ≤ pool.owed checkpoint shares := by
  rw [(earned_eq_ok.mp answered).2]
  exact Nat.mul_div_le ..

/-- A holder that was credited with some amount is owed that amount, whatever shares it has. -/
theorem owed_of_creditedUpTo (caught : left.creditedUpTo = pool.rewardPerShare) (shares : UInt64) :
    pool.owed left shares = preciseUnit * left.accrued.toNat := by
  rw [owed, caught, Nat.sub_self, Nat.mul_zero, Nat.add_zero]

theorem credit_eq_ok :
    pool.credit checkpoint shares = .ok left ↔
      pool.earned checkpoint shares = .ok left.accrued ∧
        left.creditedUpTo = pool.rewardPerShare := by
  simp only [credit, bind_eq_ok, pure_eq_ok]
  constructor
  · rintro ⟨accrued, answered, rfl⟩
    exact ⟨answered, rfl⟩
  · rintro ⟨answered, caught⟩
    exact ⟨left.accrued, answered, by rw [← caught]⟩

/-- After a credit the holder is owed no more than before, even with other shares. -/
theorem owed_of_credit (credited : pool.credit checkpoint shares = .ok left) (balance : UInt64) :
    pool.owed left balance ≤ pool.owed checkpoint shares := by
  obtain ⟨answered, caught⟩ := credit_eq_ok.mp credited
  rw [owed_of_creditedUpTo caught]
  exact earned_mul_le answered

/-- Growth of the reward per share raises what is owed for each share by no more. -/
theorem owed_le_add {growth : Nat}
    (grown : after.rewardPerShare.toNat = pool.rewardPerShare.toNat + growth)
    (checkpoint : Checkpoint) (shares : UInt64) :
    after.owed checkpoint shares ≤ pool.owed checkpoint shares + shares.toNat * growth := by
  have later : after.rewardPerShare.toNat - checkpoint.creditedUpTo.toNat ≤
      pool.rewardPerShare.toNat - checkpoint.creditedUpTo.toNat + growth := by omega
  calc after.owed checkpoint shares
      ≤ preciseUnit * checkpoint.accrued.toNat + shares.toNat *
          (pool.rewardPerShare.toNat - checkpoint.creditedUpTo.toNat + growth) :=
        Nat.add_le_add_left (Nat.mul_le_mul_left _ later) _
    _ = pool.owed checkpoint shares + shares.toNat * growth := by
        rw [owed, Nat.mul_add, Nat.add_assoc]

/-- A pool receives an amount: it holds it back, or it raises the reward of every share of a supply
by a share in all that it held back. -/
structure Receives (pool after : RewardPool) (amount supply : UInt64) : Prop where
  balance : after.balance.toNat = pool.balance.toNat + amount.toNat
  totalDeposited : after.totalDeposited.toNat = pool.totalDeposited.toNat + amount.toNat
  totalPaid : after.totalPaid = pool.totalPaid
  spread : (amount = 0 ∨ supply = 0) ∧ after.rewardPerShare = pool.rewardPerShare ∧
      after.undistributed.toNat = pool.undistributed.toNat + amount.toNat ∨
    (amount ≠ 0 ∧ supply ≠ 0) ∧ after.undistributed = 0 ∧
      after.rewardPerShare.toNat = pool.rewardPerShare.toNat +
        (pool.undistributed.toNat + amount.toNat) * preciseUnit / supply.toNat

/-- A pool that stays as it is receives nothing. -/
theorem Receives.refl (pool : RewardPool) (supply : UInt64) : pool.Receives pool 0 supply where
  balance := rfl
  totalDeposited := rfl
  totalPaid := rfl
  spread := .inl ⟨.inl rfl, rfl, rfl⟩

theorem receives_of_deposit (deposited : pool.deposit amount supply = .ok after) :
    pool.Receives after amount supply := by
  simp only [deposit, ite_eq_ok, bind_eq_ok, pure_eq_ok, checkedAdd_eq_ok, fit128_eq_ok,
    perShare_eq_ok] at deposited
  obtain ⟨rfl, rfl⟩ | ⟨some, balance, balanceEq, total, totalEq, distributable, distributableEq,
    ⟨rfl, rfl⟩ | ⟨_, increment, ⟨supplied, _, shared⟩, reward, rewardEq, rfl⟩⟩ := deposited
  · exact ⟨rfl, rfl, rfl, .inl ⟨.inl rfl, rfl, rfl⟩⟩
  · exact ⟨balanceEq, totalEq, rfl, .inl ⟨.inr rfl, rfl, distributableEq⟩⟩
  · refine ⟨balanceEq, totalEq, rfl, .inr ⟨⟨some, supplied⟩, rfl, ?_⟩⟩
    have wide : (BitVec.ofNat 128 distributable.toNat).toNat = distributable.toNat :=
      toNat_ofNat128_of_lt (Nat.lt_trans distributable.toNat_lt (by decide))
    rw [rewardEq, shared, wide, distributableEq]

/-- A pool pays an amount. -/
structure Pays (pool after : RewardPool) (amount : UInt64) : Prop where
  balance : after.balance.toNat + amount.toNat = pool.balance.toNat
  totalPaid : after.totalPaid.toNat = pool.totalPaid.toNat + amount.toNat
  totalDeposited : after.totalDeposited = pool.totalDeposited
  undistributed : after.undistributed = pool.undistributed
  rewardPerShare : after.rewardPerShare = pool.rewardPerShare

/-- A holder takes what it has earned, and nothing of it is left. -/
theorem takeReward_eq_ok (taken : pool.takeReward checkpoint shares = .ok (after, left, amount)) :
    pool.earned checkpoint shares = .ok amount ∧ left = ⟨pool.rewardPerShare, 0⟩ ∧
      pool.Pays after amount := by
  simp only [takeReward, bind_eq_ok, credit_eq_ok, ite_eq_ok, pure_eq_ok, require_eq_ok,
    decide_eq_true_eq, checkedAdd_eq_ok, Prod.mk.injEq, exists_const] at taken
  obtain ⟨⟨creditedUpTo, accrued⟩, ⟨answered, caught⟩, ⟨nothing, rfl, rfl, rfl⟩ |
    ⟨_, enough, total, totalEq, rfl, rfl, rfl⟩⟩ := taken
  · obtain rfl : accrued = 0 := nothing
    obtain rfl : creditedUpTo = pool.rewardPerShare := caught
    exact ⟨answered, rfl, rfl, rfl, rfl, rfl, rfl⟩
  · obtain rfl : creditedUpTo = pool.rewardPerShare := caught
    refine ⟨answered, rfl, ?_, totalEq, rfl, rfl, rfl⟩
    rw [UInt64.toNat_sub_of_le _ _ enough, Nat.sub_add_cancel (UInt64.le_iff_toNat_le.mp enough)]

/-- A pool that has what it owes a holder pays it. -/
theorem exists_takeReward (covered : pool.owed checkpoint shares ≤ preciseUnit * pool.balance.toNat)
    (settled : pool.balance.toNat + pool.totalPaid.toNat = pool.totalDeposited.toNat) :
    ∃ after left amount, pool.takeReward checkpoint shares = .ok (after, left, amount) := by
  obtain ⟨amount, answered⟩ := exists_earned (Nat.lt_of_le_of_lt covered
    (Nat.mul_lt_mul_of_pos_left pool.balance.toNat_lt preciseUnit_pos))
  have credited : pool.credit checkpoint shares = .ok ⟨pool.rewardPerShare, amount⟩ :=
    credit_eq_ok.mpr ⟨answered, rfl⟩
  have enough : amount.toNat ≤ pool.balance.toNat :=
    Nat.le_of_mul_le_mul_left (Nat.le_trans (earned_mul_le answered) covered) preciseUnit_pos
  have fits : pool.totalPaid.toNat + amount.toNat < UInt64.size := by
    refine Nat.lt_of_le_of_lt ?_ pool.totalDeposited.toNat_lt
    omega
  simp only [takeReward, bind_eq_ok, credited, Except.ok.injEq, exists_eq_left', ite_eq_ok,
    pure_eq_ok, require_eq_ok, decide_eq_true_eq, checkedAdd_eq_ok, exists_const]
  by_cases nothing : amount = 0
  · exact ⟨_, _, _, .inl ⟨nothing, rfl⟩⟩
  · exact ⟨_, _, _, .inr ⟨nothing, UInt64.le_iff_toNat_le.mpr enough, .ofNat _,
      UInt64.toNat_ofNat_of_lt' fits, rfl⟩⟩

/-! ## Room for deposits -/

/-- A share was given no more than all that was deposited and is not held back, with eighteen
decimals. -/
def Spreads (pool : RewardPool) : Prop :=
  pool.rewardPerShare.toNat + preciseUnit * pool.undistributed.toNat ≤
    preciseUnit * pool.totalDeposited.toNat

theorem Receives.spreads (receives : pool.Receives after amount supply) (spreads : pool.Spreads) :
    after.Spreads := by
  unfold Spreads at spreads ⊢
  rw [receives.totalDeposited, Nat.mul_add]
  obtain ⟨_, reward, held⟩ | ⟨_, held, grown⟩ := receives.spread
  · rw [reward, held, Nat.mul_add]
    omega
  · have part := Nat.div_le_self
      ((pool.undistributed.toNat + amount.toNat) * preciseUnit) supply.toNat
    rw [Nat.mul_comm _ preciseUnit, Nat.mul_add] at part
    rw [Nat.mul_comm _ preciseUnit, Nat.mul_add] at grown
    rw [grown, held, UInt64.toNat_zero, Nat.mul_zero]
    omega

theorem Pays.spreads (pays : pool.Pays after amount) (spreads : pool.Spreads) :
    after.Spreads := by
  unfold Spreads at spreads ⊢
  rw [pays.rewardPerShare, pays.undistributed, pays.totalDeposited]
  exact spreads

/-- A deposit finds room as long as all deposits together are a word. -/
theorem answers_deposit (spreads : pool.Spreads)
    (held : pool.undistributed.toNat ≤ pool.totalDeposited.toNat)
    (deposited : pool.balance.toNat ≤ pool.totalDeposited.toNat)
    (fits : pool.totalDeposited.toNat + amount.toNat < UInt64.size) (supply : UInt64) :
    Answers (pool.deposit amount supply) := by
  unfold deposit
  split
  · exact answers_pure _
  refine (answers_fit64 (by omega)).bind fun balance _ => ?_
  refine (answers_fit64 fits).bind fun total _ => ?_
  refine (answers_fit64 (by omega)).bind fun distributable counted => ?_
  split
  · exact answers_pure _
  rename_i supplied
  rw [fit64_eq_ok] at counted
  have wide : (BitVec.ofNat 128 distributable.toNat).toNat = distributable.toNat :=
    toNat_ofNat128_of_lt (Nat.lt_trans distributable.toNat_lt (by decide))
  have room : distributable.toNat * preciseUnit < UInt128.size := by
    have short : distributable.toNat < UInt64.size := distributable.toNat_lt
    simp only [preciseUnit, UInt64.size, UInt128.size] at short ⊢
    omega
  have part := Nat.div_le_self (distributable.toNat * preciseUnit) supply.toNat
  refine Answers.bind ⟨BitVec.ofNat 128 (distributable.toNat * preciseUnit / supply.toNat),
    perShare_eq_ok.mpr ⟨supplied, ?_, ?_⟩⟩ fun increment shared => ?_
  · rw [wide]
    exact room
  · rw [toNat_ofNat128_of_lt (Nat.lt_of_le_of_lt part room), wide]
  obtain ⟨_, _, exactly⟩ := perShare_eq_ok.mp shared
  refine (answers_fit128 ?_).bind fun reward _ => answers_pure _
  unfold Spreads at spreads
  rw [exactly, wide]
  simp only [preciseUnit, UInt64.size, UInt128.size] at spreads fits part ⊢
  omega

end RewardPool

end FeeTreasury
