import FeeTreasury.Proofs.Crediting
import FeeTreasury.Proofs.Ledger.Meter
import FeeTreasury.Proofs.Treasury.Tallies

/-!
# Treasuries that are alike

Two treasuries are alike if their ledgers agree but for the meter, and their stakers hold the same
shares and claimed last for the same periods. Rewards, logs and collateral may differ. An operation
that both carry out keeps them alike, if they owe the same and it brings both meters to the same
reading; if it depends on the time, it leaves them with the same ledger
(`FeeTreasury.Treasury.Alike.step`). If it does not, it leaves the timeline and all shares as they
were (`FeeTreasury.Treasury.stands_of_perform`).
-/

namespace FeeTreasury

open Outcome

namespace PeriodLedger

variable {ledger other after last : PeriodLedger} {log record : OwnershipLog}
  {lastClaimed : UInt64}

/-- The part of the debt depends on the ledger and the log by the window and the share-seconds
only. -/
theorem debtRatio_congr (rest : ledger.unmetered = other.unmetered)
    (seconds : ∀ index < periodCount, index ≠ 0 →
      log.shareSecondsIn (ledger.window index) = record.shareSecondsIn (other.window index))
    (index : Nat) : ledger.debtRatio log index = other.debtRatio record index := by
  unfold debtRatio
  split
  · rfl
  · rename_i retained
    obtain ⟨closed, inside⟩ := not_or.mp retained
    have same := seconds index (Nat.not_le.mp inside) closed
    rw [window_of_unmetered rest] at same
    simp only [window_of_unmetered rest, same]

/-- And so does what is owed. -/
theorem owedByPeriod_congr (rest : ledger.unmetered = other.unmetered)
    (seconds : ∀ index < periodCount, index ≠ 0 →
      log.shareSecondsIn (ledger.window index) = record.shareSecondsIn (other.window index)) :
    ledger.owedByPeriod log lastClaimed = other.owedByPeriod record lastClaimed := by
  simp only [owedByPeriod, owedFor, debtRatio_congr rest seconds, window_of_unmetered rest]

theorem mark_unmetered {index : Nat} {amount : Entitlement}
    (marked : ledger.mark index amount = .ok after) :
    ledger.unmetered.mark index amount = .ok after.unmetered := by
  unfold mark at marked ⊢
  split at marked
  · rename_i nothing
    obtain rfl := pure_eq_ok.mp marked
    rw [if_pos nothing]
    rfl
  · rename_i something
    rw [if_neg something]
    exact recordClaim_unmetered marked

theorem markAll_unmetered {first second third : Entitlement}
    (marked : ledger.markAll first second third = .ok after) :
    ledger.unmetered.markAll first second third = .ok after.unmetered := by
  simp only [markAll, bind_eq_ok] at marked ⊢
  obtain ⟨oldest, thirdMarked, middle, secondMarked, firstMarked⟩ := marked
  exact ⟨_, mark_unmetered thirdMarked, _, mark_unmetered secondMarked, mark_unmetered firstMarked⟩

end PeriodLedger

/-- Claims of the same amounts leave ledgers that are alike but for their meters, and set the same
mark. -/
theorem Claiming.claim_congr {books other after last : ClaimBooks} {terms : ClaimTerms}
    {total sum : Entitlement} (rest : books.ledger.unmetered = other.ledger.unmetered)
    (owed : books.ledger.owedByPeriod books.staker.ownership books.staker.lastClaimed =
      other.ledger.owedByPeriod other.staker.ownership other.staker.lastClaimed)
    (first : Claiming.claim terms books = .ok total after)
    (second : Claiming.claim terms other = .ok sum last) :
    after.ledger.unmetered = last.ledger.unmetered ∧
      after.staker.lastClaimed = last.staker.lastClaimed := by
  obtain ⟨amounts, _, _, _, assessed, listed, _, _, marked, staker⟩ := Claiming.claim_eq_ok first
  obtain ⟨_, _, _, _, reassessed, relisted, _, _, remarked, restaker⟩ := Claiming.claim_eq_ok second
  have found := (ClaimBooks.assess_eq_ok.mp assessed).2
  have again := (ClaimBooks.assess_eq_ok.mp reassessed).2
  obtain rfl := Except.ok.inj (found.symm.trans (owed.trans again))
  rw [listed, List.cons.injEq, List.cons.injEq, List.cons.injEq] at relisted
  obtain ⟨rfl, rfl, rfl, _⟩ := relisted
  have ledgers : after.ledger.unmetered = last.ledger.unmetered :=
    Except.ok.inj ((PeriodLedger.markAll_unmetered marked).symm.trans
      (rest ▸ PeriodLedger.markAll_unmetered remarked))
  refine ⟨ledgers, ?_⟩
  rw [staker, restaker, PeriodLedger.window_of_unmetered ledgers]

namespace ShareBooks

variable {books other after last : ShareBooks} {pool reserve : RewardPool} {balance : UInt64}
  {now : Int64}

/-- The same new balance leaves the same ledger and the same supply. -/
theorem setShares_congr (rest : books.ledger.unmetered = other.ledger.unmetered)
    (supply : books.registry.supply = other.registry.supply)
    (shares : books.staker.shares = other.staker.shares)
    (meters : books.ledger.meter.forward books.registry.supply.toNat now.toInt =
      other.ledger.meter.forward books.registry.supply.toNat now.toInt)
    (first : books.setShares pool balance now = .ok after)
    (second : other.setShares reserve balance now = .ok last) :
    after.ledger = last.ledger ∧ after.registry.supply = last.registry.supply := by
  obtain ⟨accrued, _, _, summed, _⟩ := setShares_eq_ok first
  obtain ⟨again, _, _, resummed, _⟩ := setShares_eq_ok second
  refine ⟨PeriodLedger.accrue_congr rest meters accrued (supply ▸ again), ?_⟩
  rw [← UInt64.toNat_inj, summed, resummed, supply, shares]

end ShareBooks

namespace Treasury

variable {ι : Type}

/-- The ledgers agree but for the meter, and the stakers hold the same shares and claimed last for
the same periods. -/
structure Alike (a b : Treasury ι) : Prop where
  ledger : a.ledger.unmetered = b.ledger.unmetered
  supply : a.registry.supply = b.registry.supply
  shares : ∀ who, (a.stakers who).shares = (b.stakers who).shares
  lastClaimed : ∀ who, (a.stakers who).lastClaimed = (b.stakers who).lastClaimed

namespace Alike

variable {a b c : Treasury ι}

theorem refl (a : Treasury ι) : a.Alike a := ⟨rfl, rfl, fun _ => rfl, fun _ => rfl⟩

theorem symm (alike : a.Alike b) : b.Alike a where
  ledger := alike.ledger.symm
  supply := alike.supply.symm
  shares who := (alike.shares who).symm
  lastClaimed who := (alike.lastClaimed who).symm

theorem trans (first : a.Alike b) (second : b.Alike c) : a.Alike c where
  ledger := first.ledger.trans second.ledger
  supply := first.supply.trans second.supply
  shares who := (first.shares who).trans (second.shares who)
  lastClaimed who := (first.lastClaimed who).trans (second.lastClaimed who)

variable [DecidableEq ι]

theorem putStaker (alike : a.Alike b) (who : ι) {first second : Staker}
    (shares : first.shares = second.shares) (lastClaimed : first.lastClaimed = second.lastClaimed) :
    (a.putStaker who first).Alike (b.putStaker who second) where
  ledger := alike.ledger
  supply := alike.supply
  shares other := by
    rcases eq_or_ne other who with rfl | different
    · simp only [Treasury.putStaker, Function.update_self, shares]
    · simp only [Treasury.putStaker, Function.update_of_ne different, alike.shares]
  lastClaimed other := by
    rcases eq_or_ne other who with rfl | different
    · simp only [Treasury.putStaker, Function.update_self, lastClaimed]
    · simp only [Treasury.putStaker, Function.update_of_ne different, alike.lastClaimed]

/-- The same new balance keeps treasuries alike, and leaves the same ledger. -/
theorem putShareBooks (alike : a.Alike b) {who : ι} {held kept : UInt64}
    {pool reserve : RewardPool} {balance : UInt64} {now : Int64} {after last : ShareBooks}
    (meters : a.ledger.meter.forward a.registry.supply.toNat now.toInt =
      b.ledger.meter.forward a.registry.supply.toNat now.toInt)
    (first : ({ a.shareBooks who with
      staker := { a.stakers who with collateral := held } } : ShareBooks).setShares pool
        balance now = .ok after)
    (second : ({ b.shareBooks who with
      staker := { b.stakers who with collateral := kept } } : ShareBooks).setShares reserve
        balance now = .ok last) :
    (a.putShareBooks who after).Alike (b.putShareBooks who last) ∧ after.ledger = last.ledger := by
  obtain ⟨ledger, supply⟩ := ShareBooks.setShares_congr alike.ledger alike.supply
    (alike.shares who) meters first second
  obtain ⟨_, _, _, staker⟩ := ShareBooks.setShares_staker first
  obtain ⟨_, _, _, restaker⟩ := ShareBooks.setShares_staker second
  have stakers := alike.putStaker who
    (show after.staker.shares = last.staker.shares by rw [staker, restaker])
    (show after.staker.lastClaimed = last.staker.lastClaimed by
      rw [staker, restaker]
      exact alike.lastClaimed who)
  exact ⟨⟨congrArg PeriodLedger.unmetered ledger, supply, stakers.shares, stakers.lastClaimed⟩,
    ledger⟩

omit [DecidableEq ι] in
/-- Ledgers that agree but for the meter keep treasuries alike. -/
theorem putLedger (alike : a.Alike b) {first second : PeriodLedger}
    (same : first.unmetered = second.unmetered) :
    ({ a with ledger := first } : Treasury ι).Alike { b with ledger := second } :=
  ⟨same, alike.supply, alike.shares, alike.lastClaimed⟩

/-- Claims of the same amounts keep treasuries alike. -/
theorem claim (alike : a.Alike b) {who : ι} {terms : ClaimTerms} {total sum : Entitlement}
    {after last : ClaimBooks}
    (owed : a.ledger.owedByPeriod (a.stakers who).ownership (a.stakers who).lastClaimed =
      b.ledger.owedByPeriod (b.stakers who).ownership (b.stakers who).lastClaimed)
    (first : Claiming.claim terms ⟨a.ledger, a.stakers who⟩ = .ok total after)
    (second : Claiming.claim terms ⟨b.ledger, b.stakers who⟩ = .ok sum last) :
    ({ a.putStaker who after.staker with ledger := after.ledger } : Treasury ι).Alike
      { b.putStaker who last.staker with ledger := last.ledger } := by
  obtain ⟨ledger, lastClaimed⟩ := Claiming.claim_congr alike.ledger owed first second
  obtain ⟨_, _, _, _, _, _, _, _, _, staker⟩ := Claiming.claim_eq_ok first
  obtain ⟨_, _, _, _, _, _, _, _, _, restaker⟩ := Claiming.claim_eq_ok second
  refine (alike.putStaker who ?_ lastClaimed).putLedger ledger
  rw [staker, restaker]
  exact alike.shares who

/-- Treasuries stay alike when both carry out the same operation, if they owe the same and their
meters would agree on its time. If it has a time, they are left with the same ledger. -/
theorem step {after last : Treasury ι} {operation : Operation ι} {receipt ticket : Receipt}
    (alike : a.Alike b) (free : operation.isImport = false)
    (inStep : operation.InStep a.registry.supply)
    (meters : ∀ now ∈ operation.time,
      a.ledger.meter.forward a.registry.supply.toNat now.toInt =
        b.ledger.meter.forward a.registry.supply.toNat now.toInt)
    (owed : ∀ who, a.ledger.owedByPeriod (a.stakers who).ownership (a.stakers who).lastClaimed =
      b.ledger.owedByPeriod (b.stakers who).ownership (b.stakers who).lastClaimed)
    (first : a.perform operation = .ok (after, receipt))
    (second : b.perform operation = .ok (last, ticket)) :
    after.Alike last ∧ (operation.time ≠ none → after.ledger = last.ledger) := by
  cases performs_of_perform first with
  | recordFee recorded =>
    cases performs_of_perform second with
    | recordFee again =>
      exact ⟨alike.putLedger (Except.ok.inj ((PeriodLedger.recordFee_unmetered recorded).symm.trans
        (alike.ledger ▸ PeriodLedger.recordFee_unmetered again))), fun timed => absurd rfl timed⟩
  | recordReward recorded =>
    cases performs_of_perform second with
    | recordReward again =>
      exact ⟨alike.putLedger (Except.ok.inj
        ((PeriodLedger.recordReward_unmetered recorded).symm.trans
          (alike.ledger ▸ PeriodLedger.recordReward_unmetered again))),
        fun timed => absurd rfl timed⟩
  | accrue accrued =>
    cases performs_of_perform second with
    | accrue again =>
      have same := PeriodLedger.accrue_congr alike.ledger (inStep _ rfl ▸ meters _ rfl) accrued
        again
      exact ⟨alike.putLedger (congrArg PeriodLedger.unmetered same), fun _ => same⟩
  | @setShares who _ _ _ changed =>
    cases performs_of_perform second with
    | setShares again =>
      obtain ⟨likewise, same⟩ := alike.putShareBooks (meters _ rfl) changed again
      exact ⟨likewise, fun _ => same⟩
  | @liquidate who _ _ _ _ liquidated =>
    cases performs_of_perform second with
    | liquidate again =>
      obtain ⟨_, _, burned, changed, _⟩ := ShareBooks.liquidate_parts liquidated
      obtain ⟨_, _, reburned, rechanged, _⟩ := ShareBooks.liquidate_parts again
      have shares : (a.shareBooks who).staker.shares = (b.shareBooks who).staker.shares :=
        alike.shares who
      obtain rfl := Except.ok.inj (burned.symm.trans (shares ▸ reburned))
      obtain ⟨likewise, same⟩ := alike.putShareBooks (meters _ rfl) changed rechanged
      exact ⟨⟨likewise.ledger, likewise.supply, likewise.shares, likewise.lastClaimed⟩,
        fun _ => same⟩
  | close closed =>
    cases performs_of_perform second with
    | close again =>
      have same := PeriodLedger.closeCurrent_congr alike.ledger (inStep _ rfl ▸ meters _ rfl) closed
        again
      exact ⟨alike.putLedger (congrArg PeriodLedger.unmetered same), fun _ => same⟩
  | closeFromRelayer closed =>
    cases performs_of_perform second with
    | closeFromRelayer again =>
      have same := PeriodLedger.closeFromRelayer_congr alike.ledger (inStep _ rfl ▸ meters _ rfl)
        closed again
      exact ⟨alike.putLedger (congrArg PeriodLedger.unmetered same), fun _ => same⟩
  | claim claimed =>
    cases performs_of_perform second with
    | claim again => exact ⟨alike.claim (owed _) claimed again, fun timed => absurd rfl timed⟩
  | claimOnBehalf claimed =>
    cases performs_of_perform second with
    | claimOnBehalf again =>
      exact ⟨alike.claim (owed _) (Claiming.claimOnBehalf_eq_ok claimed).2
        (Claiming.claimOnBehalf_eq_ok again).2, fun timed => absurd rfl timed⟩
  | importPeriod => simp only [Operation.isImport, reduceCtorEq] at free
  | setCollateral who collateral =>
    cases performs_of_perform second with
    | setCollateral =>
      exact ⟨alike.putStaker who (alike.shares who) (alike.lastClaimed who),
        fun timed => absurd rfl timed⟩
  | deposit =>
    cases performs_of_perform second with
    | deposit =>
      exact ⟨⟨alike.ledger, alike.supply, alike.shares, alike.lastClaimed⟩,
        fun timed => absurd rfl timed⟩
  | @credit who =>
    cases performs_of_perform second with
    | credit =>
      exact ⟨alike.putStaker who (alike.shares who) (alike.lastClaimed who),
        fun timed => absurd rfl timed⟩
  | @takeReward who _ rewards =>
    cases performs_of_perform second with
    | @takeReward _ _ rerewards =>
      have stakers := alike.putStaker who
        (show ({ a.stakers who with rewards } : Staker).shares =
          ({ b.stakers who with rewards := rerewards } : Staker).shares from alike.shares who)
        (alike.lastClaimed who)
      exact ⟨⟨alike.ledger, alike.supply, stakers.shares, stakers.lastClaimed⟩,
        fun timed => absurd rfl timed⟩

end Alike

variable [DecidableEq ι] {treasury after : Treasury ι} {operation : Operation ι}
  {receipt : Receipt}

/-- An operation without a time leaves the timeline and all shares as they were. -/
theorem stands_of_perform (untimed : operation.time = none)
    (performed : treasury.perform operation = .ok (after, receipt)) :
    after.ledger.timeline = treasury.ledger.timeline ∧ treasury.Steady after := by
  -- What only moves money in the ledger leaves the stakers alone.
  have unmoved (ledger : PeriodLedger) : treasury.Steady { treasury with ledger } :=
    ⟨rfl, fun _ => rfl, fun _ => rfl⟩
  have claims {who : ι} {terms : ClaimTerms} {total : Entitlement} {books : ClaimBooks}
      (claimed : Claiming.claim terms ⟨treasury.ledger, treasury.stakers who⟩ = .ok total books) :
      books.ledger.timeline = treasury.ledger.timeline ∧
        treasury.Steady { treasury.putStaker who books.staker with ledger := books.ledger } := by
    obtain ⟨_, _, _, _, _, _, summed, _, marked, staker⟩ := Claiming.claim_eq_ok claimed
    have steady := treasury.steady_putStaker who books.staker (by rw [staker]) (by rw [staker])
    exact ⟨(PeriodLedger.markAll_paysOut marked summed).timeline,
      steady.supply, steady.shares, steady.ownership⟩
  cases performs_of_perform performed with
  | recordFee recorded => exact ⟨PeriodLedger.timeline_recordFee recorded, unmoved _⟩
  | recordReward recorded => exact ⟨PeriodLedger.timeline_recordReward recorded, unmoved _⟩
  | claim claimed => exact claims claimed
  | claimOnBehalf claimed => exact claims (Claiming.claimOnBehalf_eq_ok claimed).2
  | setCollateral who => exact ⟨rfl, treasury.steady_putStaker who _ rfl rfl⟩
  | deposit => exact ⟨rfl, rfl, fun _ => rfl, fun _ => rfl⟩
  | @credit who => exact ⟨rfl, treasury.steady_putStaker who _ rfl rfl⟩
  | @takeReward who _ rewards =>
    have steady := treasury.steady_putStaker who { treasury.stakers who with rewards } rfl rfl
    exact ⟨rfl, steady.supply, steady.shares, steady.ownership⟩
  | accrue | setShares | liquidate | close | closeFromRelayer | importPeriod =>
    simp only [Operation.time, reduceCtorEq] at untimed

end Treasury

end FeeTreasury
