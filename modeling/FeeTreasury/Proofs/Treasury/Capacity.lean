import FeeTreasury.Proofs.Ownership.Ratio
import FeeTreasury.Proofs.Treasury.Tallies

/-!
# Room for every operation

A run is moderate if its times lie before the horizon, its closes can be counted with room to spare,
and all fees, all rewards and all deposits that it records are each together a word. What its books
tally with, and what runs conserve in any case, bounds every number that a rule calculates on the
way to its answer: the growth of the index, what a balance gathered, what pots inherit, what is
owed, and what a share was rewarded with. So after a moderate run no operation that is made with the
registry's supply breaks arithmetic or bookkeeping (`FeeTreasury.Treasury.sound_of_moderate`).
-/

namespace FeeTreasury

open Outcome

/-- Whether the operation only books what is reported. Claims and liquidations value a position, and
an import brings in history. -/
def Operation.isEntry {ι : Type} : Operation ι → Bool
  | .liquidate .. | .claim .. | .claimOnBehalf .. | .importPeriod .. => false
  | _ => true

namespace Treasury

variable {ι : Type}

/-- A history whose times lie before the horizon, with fewer closes than half of all ids, and with
fees, rewards and deposits that are each together a word. -/
structure Moderate (history : List (Step ι)) : Prop where
  inTime : ∀ step ∈ history, step.operation.InTime
  closings : closings history < 2 ^ 63
  recorded : ∀ purse, recorded history purse < UInt64.size
  deposited : deposited history < UInt64.size

variable [DecidableEq ι] {start treasury after : Treasury ι} {receipt : Receipt} {who : ι}
  {history : List (Step ι)} {operation : Operation ι}

/-- The supply of shares that the operation would lead to. -/
def supplyAfter (treasury : Treasury ι) : Operation ι → Nat
  | .setShares who balance _ =>
    treasury.registry.supply.toNat - (treasury.stakers who).shares.toNat + balance.toNat
  | _ => treasury.registry.supply.toNat

/-- An operation that only books what is reported, is made with the registry's supply, and is as
moderate as the history before it. -/
structure Admits (history : List (Step ι)) (treasury : Treasury ι) (operation : Operation ι) :
    Prop where
  entry : operation.isEntry = true
  inStep : operation.InStep treasury.registry.supply
  depositsOver : operation.DepositsOver treasury.registry.supply
  inTime : operation.InTime
  recorded : ∀ purse, operation.recorded purse + recorded history purse < UInt64.size
  deposited : operation.deposited + deposited history < UInt64.size
  supply : treasury.supplyAfter operation < UInt64.size

variable [Fintype ι]

/-- What a balance gathered in the open period so far fits its width, since all covered seconds do.
-/
theorem Run.secondsIn_current_lt (run : start.Run history treasury) (fresh : start.Fresh)
    (free : ImportFree history) (inStep : InStep history) (who : ι) :
    (treasury.stakers who).ownership.secondsIn treasury.ledger.current.id
      treasury.ledger.current.startingIndex.toNat treasury.ledger.ownershipIndex.toNat <
        UInt128.size := by
  obtain ⟨now, bump, opened⟩ := fresh.ledger
  obtain ⟨owner, seed, created, joined⟩ := fresh.stakers who
  have conserves := run.conserves fresh free inStep
  have settled := conserves.settles.opened
  have opening := conserves.openingCarry_lt (treasury.ledger.timeline.spans 0).id
  have covered : treasury.ledger.timeline.covered.toNat < UInt64.size := UInt64.toNat_lt _
  have part := gathered_le_sum history who (treasury.ledger.timeline.spans 0).id
  refine Nat.lt_of_le_of_lt (Nat.le_of_eq (run.follows free opened joined).opened) ?_
  simp only [preciseUnit, UInt64.size, UInt128.size] at settled opening covered part ⊢
  omega

/-- A staker of a funded treasury can be credited. -/
theorem Funded.answers_credit (funded : treasury.Funded) (who : ι) :
    Answers
      (treasury.pool.credit (treasury.stakers who).rewards (treasury.stakers who).shares) := by
  obtain ⟨_, amount, _, earned, _⟩ := funded.takeReward who
  exact Answers.bind ⟨amount, earned⟩ fun _ _ => answers_pure _

omit [Fintype ι] in
/-- A run goes on with an accrual to any time before the horizon. -/
theorem Run.exists_accrue (run : start.Run history treasury) (free : ImportFree history)
    (inStep : InStep history) (paced : treasury.ledger.timeline.Paced) {now : Int64}
    (timely : Timely now) :
    ∃ ledger step, treasury.ledger.accrue now treasury.registry.supply = .ok ledger ∧
      start.Run (step :: history) { treasury with ledger } ∧ ImportFree (step :: history) ∧
        InStep (step :: history) := by
  obtain ⟨ledger, accrued⟩ := PeriodLedger.answers_accrue paced timely treasury.registry.supply
  have performed := (Performs.accrue accrued).perform
  exact ⟨ledger, _, accrued, run.step performed, importFree_cons.mpr ⟨rfl, free⟩,
    inStep_cons.mpr ⟨fun _ named => (Option.some.inj named).symm, inStep⟩⟩

/-- A balance that keeps the supply within its width can be reported. -/
theorem Run.answers_setShares (run : start.Run history treasury) (fresh : start.Fresh)
    (free : ImportFree history) (inStep : InStep history) (funded : treasury.Funded)
    (paced : treasury.ledger.timeline.Paced) {now : Int64} (timely : Timely now) {balance : UInt64}
    (fits : treasury.supplyAfter (.setShares who balance now) < UInt64.size) :
    Answers (treasury.perform (.setShares who balance now)) := by
  -- The change reads the log after the accrual, as a run does that ends with it.
  obtain ⟨ledger, _, accrued, brought, broughtFree, broughtInStep⟩ :=
    run.exists_accrue free inStep paced timely
  obtain ⟨opening, bump, opened⟩ := fresh.ledger
  obtain ⟨owner, seed, created, joined⟩ := fresh.stakers who
  have kept := (brought.follows broughtFree opened joined).kept
  have room := brought.secondsIn_current_lt fresh broughtFree broughtInStep who
  have part : (treasury.stakers who).shares ≤ treasury.registry.supply :=
    RewardPool.Funds.shares_le funded who
  refine Answers.bind ?_ fun _ _ => answers_pure _
  refine Answers.bind ⟨ledger, accrued⟩ fun other same => ?_
  obtain rfl : ledger = other := Except.ok.inj (accrued.symm.trans same)
  refine (funded.answers_credit who).bind fun rewards _ => ?_
  refine (answers_require (decide_eq_true part)).bind fun _ _ => ?_
  have left := UInt64.toNat_sub_of_le _ _ part
  refine (answers_fit64 (left ▸ fits)).bind fun supply counted => ?_
  have whole : balance ≤ supply := by
    rw [UInt64.le_iff_toNat_le, fit64_eq_ok.mp counted]
    exact Nat.le_add_left ..
  have told := OwnershipLog.answers_fractionOf whole
  exact (OwnershipLog.answers_recordChange kept told room now).bind fun _ _ => answers_pure _

/-- What a balance gathered in a closed period has room for six more decimals. -/
theorem Run.answers_debtRatio (run : start.Run history treasury) (fresh : start.Fresh)
    (free : ImportFree history) (inStep : InStep history)
    (paced : treasury.ledger.timeline.Paced) (who : ι) (index : Nat) :
    Answers (treasury.ledger.debtRatio (treasury.stakers who).ownership index) := by
  by_cases outside : index = 0 ∨ periodCount ≤ index
  · unfold PeriodLedger.debtRatio
    rw [if_pos outside]
    exact answers_pure _
  by_cases idle : (treasury.ledger.window index).isEmpty ∨
      (treasury.ledger.window index).coveredSeconds = 0
  · unfold PeriodLedger.debtRatio
    rw [if_neg outside, if_pos idle]
    exact answers_pure _
  rw [not_or, Nat.not_le] at outside
  rw [not_or, Bool.not_eq_true] at idle
  obtain ⟨closed, inside⟩ := outside
  have conserves := run.conserves fresh free inStep
  have settled := conserves.window inside closed
  have opening := conserves.openingCarry_lt (treasury.ledger.window index).id
  have covered : (treasury.ledger.window index).coveredSeconds.toNat ≤ horizon :=
    paced.closed_le index inside closed
  have part := gathered_le_sum history who (treasury.ledger.window index).id
  have unitEq : unit.toNat = 1000000 := rfl
  refine ⟨_, (run.debtRatio_eq_ok fresh free inStep inside closed idle.1 idle.2).mpr
    ⟨?_, toNat_ofNat_partOf _ _⟩⟩
  simp only [horizon, preciseUnit, UInt64.size, UInt128.size, unitEq]
    at settled opening covered part ⊢
  omega

/-- An operation that is admitted after a moderate run answers or, if it closes the open period, is
turned down for what is asked. -/
theorem Run.sound_of_admits (run : start.Run history treasury) (fresh : start.Fresh)
    (free : ImportFree history) (inStep : InStep history) (funded : treasury.Funded)
    (tallies : Tallies history treasury) (moderate : Moderate history)
    (admits : Admits history treasury operation) :
    Sound (treasury.perform operation) ∧
      (operation.closes = false → Answers (treasury.perform operation)) := by
  obtain ⟨entry, _, depositsOver, inTime, records, deposits, supplied⟩ := admits
  have collected : ∀ purse,
      treasury.ledger.collected purse + operation.recorded purse < UInt64.size := fun purse => by
    have before := tallies.collected_le purse
    have room := records purse
    omega
  have rotates : ∀ now ∈ operation.time, ∀ duration supply,
      Answers (treasury.ledger.rotate now duration supply) := fun now timed duration supply => by
    refine PeriodLedger.answers_rotate tallies.paced (inTime now timed) duration supply ?_
      fun purse => Nat.lt_of_le_of_lt (Nat.le_add_right ..) (collected purse)
    have counted := moderate.closings
    rw [tallies.counted]
    simp only [UInt64.size]
    omega
  have answered (answers : Answers (treasury.perform operation)) :
      Sound (treasury.perform operation) ∧
        (operation.closes = false → Answers (treasury.perform operation)) :=
    ⟨answers.sound, fun _ => answers⟩
  cases operation with
  | recordFee amount =>
    exact answered ((PeriodLedger.answers_recordFee (collected .fees)).bind fun _ _ =>
      answers_pure _)
  | recordReward amount =>
    exact answered ((PeriodLedger.answers_recordReward (collected .rewards)).bind fun _ _ =>
      answers_pure _)
  | accrue now supply =>
    exact answered ((PeriodLedger.answers_accrue tallies.paced (inTime now rfl) supply).bind
      fun _ _ => answers_pure _)
  | setShares who balance now =>
    exact answered (run.answers_setShares fresh free inStep funded tallies.paced (inTime now rfl)
      supplied)
  | close now duration supply =>
    refine ⟨Sound.bind ?_ fun _ _ => (answers_pure _).sound, nofun⟩
    exact PeriodLedger.sound_closeCurrent tallies.paced (inTime now rfl) fun duration =>
      rotates now rfl duration supply
  | closeFromRelayer now id duration configured supply =>
    refine ⟨Sound.bind ?_ fun _ _ => (answers_pure _).sound, nofun⟩
    exact PeriodLedger.sound_closeFromRelayer fun duration => rotates now rfl duration supply
  | setCollateral who collateral => exact answered (answers_pure _)
  | deposit amount supply =>
    obtain rfl : supply = treasury.registry.supply := depositsOver supply rfl
    have held : treasury.pool.undistributed.toNat ≤ treasury.pool.balance.toNat :=
      Nat.le_of_mul_le_mul_left (Nat.le_trans (Nat.le_add_right ..) funded.covered)
        preciseUnit_pos
    have settled := funded.settled
    refine answered (Answers.bind ?_ fun _ _ => answers_pure _)
    refine RewardPool.answers_deposit tallies.spreads (by omega) (by omega) ?_ _
    rw [tallies.deposited, Nat.add_comm]
    exact deposits
  | credit who => exact answered ((funded.answers_credit who).bind fun _ _ => answers_pure _)
  | takeReward who =>
    obtain ⟨_, _, performed, _⟩ := funded.takeReward who
    exact answered ⟨_, performed⟩
  | liquidate who plan now | claim who terms | claimOnBehalf who approval delegate terms
  | importPeriod now index history => exact absurd entry Bool.false_ne_true

/-- **Room for every operation.** After a moderate run without imports from a new treasury, made
with the registry's supply, no report, accrual, close, deposit, credit or payment that is moderate
too breaks arithmetic or bookkeeping, or is aborted: closes are carried out or turned down for what
is asked, and all others are carried out. Every staker's ratio of every period, what it is owed,
what it has earned, and what is left in all can be calculated. A claim that was assessed is paid,
unless nothing is owed. -/
theorem sound_of_moderate (fresh : start.Fresh) (unfunded : start.Unfunded)
    (opened : Timely start.ledger.lastAccrual) (run : start.Run history treasury)
    (free : ImportFree history) (inStep : InStep history) (given : DepositsInStep history)
    (moderate : Moderate history) :
    (∀ operation, Admits history treasury operation →
      Sound (treasury.perform operation) ∧
        (operation.closes = false → Answers (treasury.perform operation))) ∧
    (∀ who,
      (∀ index, Answers (treasury.ledger.debtRatio (treasury.stakers who).ownership index)) ∧
      (∀ lastClaimed,
        Answers (treasury.ledger.owedByPeriod (treasury.stakers who).ownership lastClaimed) ∧
        Answers (treasury.ledger.available (treasury.stakers who).ownership lastClaimed)) ∧
      Answers (treasury.earned who)) ∧
    Answers treasury.ledger.totalAvailable ∧
    ∀ who terms owed,
      (⟨treasury.ledger, treasury.stakers who⟩ : ClaimBooks).assess terms = .ok owed →
        ∃ total, Entitlement.sum owed.toList = .ok total ∧
          (total.isZero = false →
            ∃ after, treasury.perform (.claim who terms) = .ok (after, .claimed total)) := by
  have funded := run.funded given unfunded.funded
  have tallies := run.tallies fresh unfunded opened free moderate.inTime
  have fits : ∀ purse, treasury.ledger.collected purse < UInt64.size := fun purse =>
    Nat.lt_of_le_of_lt (tallies.collected_le purse) (moderate.recorded purse)
  have rated := fun who => run.answers_debtRatio fresh free inStep tallies.paced who
  refine ⟨fun operation => run.sound_of_admits fresh free inStep funded tallies moderate,
    fun who => ⟨rated who, fun lastClaimed => ⟨?_, ?_⟩, ?_⟩,
    PeriodLedger.answers_totalAvailable fits, fun who terms owed assessed => ?_⟩
  · exact PeriodLedger.answers_owedByPeriod (rated who) lastClaimed
  · exact PeriodLedger.answers_available (rated who) fits lastClaimed
  · obtain ⟨_, amount, _, earned, _⟩ := funded.takeReward who
    exact ⟨amount, earned⟩
  · obtain ⟨now, bump, ledger⟩ := fresh.ledger
    have solvent := (run.balances free (ledger ▸ PeriodLedger.timeline_new_ordered now bump)
      (ledger ▸ PeriodLedger.solvent_new now bump)).solvent
    obtain ⟨total, summed, claims⟩ := Claiming.answers_claim solvent.within fits assessed
    refine ⟨total, summed, fun something => ?_⟩
    obtain ⟨books, claimed⟩ := claims something
    refine ⟨{ treasury.putStaker who books.staker with ledger := books.ledger }, ?_⟩
    simp only [perform, settleClaim, claimed]

/-- Two stakers whose shares are together as many as a word counts hold them over half of the time
each, with fees and deposits that leave room for a few more. -/
def brimful : List (Operation Pair) :=
  [.setShares .first 18446744073709551000 0, .setShares .second 615 549755813888,
    .setCollateral .first (1000 * unit), .recordFee 18446744073709551000,
    .deposit 18446744073709551000 18446744073709551615,
    .closeFromRelayer 1099511627775 1 10 10 18446744073709551615,
    .claim .first (calmTerms 18446744073709551615), .takeReward .first,
    .deposit 600 18446744073709551615]

theorem sound_of_moderate_brimful :
    ((opened 0).play brimful).1.length = 9 ∧
      Answers (((opened 0).play brimful).2.perform (.recordFee 615)) ∧
      Sound (((opened 0).play brimful).2.perform
        (.closeFromRelayer 1099511627776 2 0 10 18446744073709551615)) ∧
      Answers (((opened 0).play brimful).2.ledger.available
        (((opened 0).play brimful).2.stakers .second).ownership 0) := by
  obtain ⟨operations, stakers, _, _⟩ := sound_of_moderate (fresh_opened 0) (unfunded_opened 0)
    (by decide +kernel) (run_play _ brimful) (by decide +kernel) (by decide +kernel)
    (by decide +kernel)
    { inTime := by decide +kernel
      closings := by decide +kernel
      recorded := fun purse => by cases purse <;> decide +kernel
      deposited := by decide +kernel }
  refine ⟨by decide +kernel, (operations _ ?_).2 rfl, (operations _ ?_).1,
    ((stakers .second).2.1 0).2⟩
  · exact ⟨rfl, by decide +kernel, by decide +kernel, by decide +kernel,
      fun purse => by cases purse <;> decide +kernel, by decide +kernel, by decide +kernel⟩
  · exact ⟨rfl, by decide +kernel, by decide +kernel, by decide +kernel,
      fun purse => by cases purse <;> decide +kernel, by decide +kernel, by decide +kernel⟩

end Treasury

end FeeTreasury
