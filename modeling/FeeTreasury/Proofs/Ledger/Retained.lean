import FeeTreasury.Proofs.Ledger.Pace
import FeeTreasury.Proofs.Ledger.Pots

/-!
# The ring as a plain list

A reader of the ledger sees a list of four periods, the open one first. The rules of the ledger are
told here once more on such lists, without a ring: a payment, a claim or an import changes one
entry, and a close drops the last entry, lets its neighbour inherit, stops the first one and puts a
new one in front (`FeeTreasury.Retained.close`). Each rule on the ring gives what the rule on the
list gives, wherever the head lies and whatever the slots hold, and leaves the rest of the account
alone (`FeeTreasury.PeriodLedger.actsAsList`).
-/

namespace FeeTreasury

open Outcome

/-! ## Rules on lists -/

/-- Retained periods, the open one first. -/
abbrev Retained := List FeePeriod

namespace Retained

/-- The period at an index. -/
def period (periods : Retained) (index : Nat) : Outcome FeePeriod :=
  match periods[index]? with
  | none => refuse .invalidPeriodIndex
  | some period => pure period

/-- Replace the period at an index by what a rule makes of it. -/
def change (periods : Retained) (index : Nat) (rule : FeePeriod → Outcome FeePeriod) :
    Outcome Retained := do
  let old ← Retained.period periods index
  return periods.set index (← rule old)

/-- Add to what the open period distributes in fees. -/
def recordFee (periods : Retained) (amount : UInt64) : Outcome Retained :=
  change periods 0 fun period => do
    let total ← checkedAdd period.fees.total amount
    return { period with fees := { period.fees with total := total } }

/-- Add to what the open period distributes in rewards. -/
def recordReward (periods : Retained) (amount : UInt64) : Outcome Retained :=
  change periods 0 fun period => do
    let total ← checkedAdd period.rewards.total amount
    return { period with rewards := { period.rewards with total := total } }

/-- Add to what was claimed of a period, within what it distributes. -/
def recordClaim (periods : Retained) (index : Nat) (fees rewards : UInt64) : Outcome Retained :=
  change periods index fun period => do
    let feesClaimed ← checkedAdd period.fees.claimed fees
    let rewardsClaimed ← checkedAdd period.rewards.claimed rewards
    require (feesClaimed ≤ period.fees.total ∧ rewardsClaimed ≤ period.rewards.total)
      .claimExceedsDistributable
    return { period with
      fees := { period.fees with claimed := feesClaimed }
      rewards := { period.rewards with claimed := rewardsClaimed } }

/-- Overwrite a period with migrated history before the setup expires: its number, its start, and
the two amounts of each pot. -/
def importPeriod (periods : Retained) (expiry now : Int64) (index : Nat) (history : PeriodImport) :
    Outcome Retained := do
  require (now < expiry) .setupWindowClosed
  require (history.fees.claimed ≤ history.fees.total ∧
    history.rewards.claimed ≤ history.rewards.total) .claimExceedsDistributable
  change periods index fun period => pure { period with
    id := history.id
    start := history.start
    fees := ⟨history.fees.total, history.fees.claimed⟩
    rewards := ⟨history.rewards.total, history.rewards.claimed⟩ }

/-- Close the first period at an ownership index, and open the next one. The last period is dropped,
and its neighbour inherits what is left of it, if there is anything. Gives the id of the closed
period. -/
def close (periods : Retained) (now duration : Int64) (index : UInt128) (covered : UInt64) :
    Outcome (Retained × UInt64) :=
  match periods with
  | [current, newest, middle, oldest] => do
    let next ← checkedAdd current.id 1
    let heir ← middle.succeed oldest
    return ([FeePeriod.opened next now index, current.stopped duration index covered, newest, heir],
      current.id)
  | _ => refuse .invalidPeriodIndex

end Retained

/-! ## The list that a ledger shows -/

namespace PeriodLedger

variable {ledger after : PeriodLedger} {now duration : Int64} {supply id : UInt64}

/-- The ledger but for its periods. -/
def besides (ledger : PeriodLedger) : PeriodLedger :=
  { ledger with periods := Vector.replicate periodCount FeePeriod.vacant }

/-- What a ledger shows: its periods as a list, and the rest of the account. -/
def shown (ledger : PeriodLedger) : Retained × PeriodLedger := (ledger.recent, ledger.besides)

theorem length_recent (ledger : PeriodLedger) : ledger.recent.length = periodCount := by
  simp only [recent, List.length_map, List.length_range]

theorem getElem?_recent (ledger : PeriodLedger) {index : Nat} (inside : index < periodCount) :
    ledger.recent[index]? = some (ledger.window index) := by
  simp only [recent, List.getElem?_map, List.getElem?_range inside, Option.map_some]

theorem recent_congr (same : ∀ index, after.window index = ledger.window index) :
    after.recent = ledger.recent :=
  List.map_congr_left fun index _ => same index

/-- To put a period into the ring is to set an entry of the list. -/
theorem recent_put {index : Nat} (inside : index < periodCount) (period : FeePeriod) :
    (ledger.put index period).recent = ledger.recent.set index period := by
  refine List.ext_getElem? fun other => ?_
  by_cases within : other < periodCount
  · rw [getElem?_recent _ within, window_put, List.getElem?_set, getElem?_recent _ within,
      Nat.mod_eq_of_lt inside, Nat.mod_eq_of_lt within, length_recent]
    split <;> rfl
  · have beyond := Nat.not_lt.mp within
    rw [List.getElem?_eq_none (by rwa [length_recent]),
      List.getElem?_eq_none (by rwa [List.length_set, length_recent])]

theorem period_eq (ledger : PeriodLedger) (index : Nat) :
    ledger.period index = Retained.period ledger.recent index := by
  by_cases inside : index < periodCount
  · rw [period_of_lt inside, Retained.period, getElem?_recent ledger inside]
    rfl
  · have beyond : ledger.recent.length ≤ index := by
      rw [length_recent]
      exact Nat.not_lt.mp inside
    simp only [period, Retained.period, List.getElem?_eq_none beyond, require, inside, decide_false,
      Bool.false_eq_true, ↓reduceIte]
    rfl

/-- A change of one period of the ring is the same change of one entry of the list. -/
theorem shown_modifyPeriod (ledger : PeriodLedger) (index : Nat)
    (rule : FeePeriod → Outcome FeePeriod) :
    shown <$> ledger.modifyPeriod index rule =
      (·, ledger.besides) <$> Retained.change ledger.recent index rule := by
  unfold modifyPeriod Retained.change
  rw [← period_eq]
  cases found : ledger.period index with
  | error fault => rfl
  | ok old =>
    have inside : index < periodCount := by
      simp only [period, bind_eq_ok, require_eq_ok, decide_eq_true_eq] at found
      obtain ⟨_, inside, _⟩ := found
      exact inside
    simp only [map_bind, map_pure, shown, recent_put inside]
    rfl

theorem recordFee_eq (ledger : PeriodLedger) (amount : UInt64) :
    ledger.recordFee amount = ledger.modifyPeriod 0 fun period => do
      let total ← checkedAdd period.fees.total amount
      return { period with fees := { period.fees with total := total } } := by
  have found : ledger.period 0 = .ok ledger.current := rfl
  simp only [recordFee, modifyPeriod, found, Pot.add, bind_assoc, pure_bind]
  rfl

theorem recordReward_eq (ledger : PeriodLedger) (amount : UInt64) :
    ledger.recordReward amount = ledger.modifyPeriod 0 fun period => do
      let total ← checkedAdd period.rewards.total amount
      return { period with rewards := { period.rewards with total := total } } := by
  have found : ledger.period 0 = .ok ledger.current := rfl
  simp only [recordReward, modifyPeriod, found, Pot.add, bind_assoc, pure_bind]
  rfl

/-! ## Closes -/

theorem recent_eq (ledger : PeriodLedger) :
    ledger.recent = [ledger.window 0, ledger.window 1, ledger.window 2, ledger.window 3] := rfl

theorem recent_turned (ledger : PeriodLedger) (now duration : Int64) (next : UInt64)
    (heir : FeePeriod) :
    (ledger.turned now duration next heir).recent =
      [FeePeriod.opened next now ledger.ownershipIndex,
        ledger.current.stopped duration ledger.ownershipIndex ledger.openCoveredSeconds,
        ledger.window 1, heir] := by
  have passed : ledger.window (2 + 3) = ledger.window 1 := ledger.window_congr rfl
  rw [recent_eq]
  simp only [window_turned, window_put, passed]
  rfl

/-- A close shows the list that the close of the list gives, at the index up to date. -/
theorem listed_rotate (ledger : PeriodLedger) (now duration : Int64) (supply : UInt64) :
    (fun closed => (closed.1.recent, closed.2)) <$> ledger.rotate now duration supply =
      ledger.accrue now supply >>= fun accrued =>
        Retained.close ledger.recent now duration accrued.ownershipIndex
          accrued.openCoveredSeconds := by
  rw [rotate_eq]
  cases brought : ledger.accrue now supply with
  | error fault => rfl
  | ok accrued =>
    rw [← recent_congr (window_accrue brought)]
    simp only [map_bind, map_pure, recent_turned]
    rfl

/-- A close whose list is that of the list's own close, at the index up to date. -/
def ClosesAsList (before after : PeriodLedger) (now duration : Int64) (supply id : UInt64) : Prop :=
  ∃ accrued, before.accrue now supply = .ok accrued ∧
    after.ownershipIndex = accrued.ownershipIndex ∧
    Retained.close before.recent now duration accrued.ownershipIndex accrued.openCoveredSeconds =
      .ok (after.recent, id)

theorem closesAsList_of_rotate (rotated : ledger.rotate now duration supply = .ok (after, id)) :
    ledger.ClosesAsList after now duration supply id := by
  obtain ⟨accrued, brought, _, rotates⟩ := rotate_eq_ok rotated
  have listed := listed_rotate ledger now duration supply
  rw [rotated, brought] at listed
  exact ⟨accrued, brought, rotates.ownershipIndex, listed.symm⟩

/-- Anyone's close counts the seconds since the start. -/
theorem closesAsList_of_closeCurrent
    (closed : ledger.closeCurrent now duration supply = .ok (after, id)) :
    ∃ elapsed, elapsed.toInt = now.toInt - ledger.current.start.toInt ∧
      ledger.ClosesAsList after now elapsed supply id := by
  simp only [closeCurrent, bind_eq_ok, plainElapsed_eq_ok] at closed
  obtain ⟨_, _, _, _, elapsed, exactly, rotated⟩ := closed
  exact ⟨elapsed, exactly, closesAsList_of_rotate rotated⟩

/-- The relayer's close counts the duration that it names, or the configured one. -/
theorem closesAsList_of_closeFromRelayer {configured : Int64} {given : UInt64}
    (closed : ledger.closeFromRelayer now given duration configured supply = .ok (after, id)) :
    ledger.ClosesAsList after now (if 0 < duration then duration else configured) supply id := by
  simp only [closeFromRelayer, bind_eq_ok] at closed
  obtain ⟨_, _, _, _, rotated⟩ := closed
  exact closesAsList_of_rotate rotated

/-- A ledger whose rules are those of the plain list that it shows: every payment, claim and import
gives what it gives on the list and leaves the rest of the account alone, an accrual leaves the list
alone, and a close gives the list's own close. -/
structure ActsAsList (ledger : PeriodLedger) : Prop where
  period : ∀ index, ledger.period index = Retained.period ledger.recent index
  accrue : ∀ {now supply after}, ledger.accrue now supply = .ok after →
    after.recent = ledger.recent
  recordFee : ∀ amount, shown <$> ledger.recordFee amount =
    (·, ledger.besides) <$> Retained.recordFee ledger.recent amount
  recordReward : ∀ amount, shown <$> ledger.recordReward amount =
    (·, ledger.besides) <$> Retained.recordReward ledger.recent amount
  recordClaim : ∀ index fees rewards, shown <$> ledger.recordClaim index fees rewards =
    (·, ledger.besides) <$> Retained.recordClaim ledger.recent index fees rewards
  importPeriod : ∀ now index history, shown <$> ledger.importPeriod now index history =
    (·, ledger.besides) <$>
      Retained.importPeriod ledger.recent ledger.setupExpiry now index history
  closeCurrent : ∀ {now duration supply after id},
    ledger.closeCurrent now duration supply = .ok (after, id) →
      ∃ elapsed, elapsed.toInt = now.toInt - ledger.current.start.toInt ∧
        ledger.ClosesAsList after now elapsed supply id
  closeFromRelayer : ∀ {now given duration configured supply after id},
    ledger.closeFromRelayer now given duration configured supply = .ok (after, id) →
      ledger.ClosesAsList after now (if 0 < duration then duration else configured) supply id

/-- **The ring acts as a plain list**, wherever its head lies and whatever its slots hold. -/
theorem actsAsList (ledger : PeriodLedger) : ledger.ActsAsList where
  period := period_eq ledger
  accrue brought := recent_congr (window_accrue brought)
  recordFee amount := by
    rw [recordFee_eq, shown_modifyPeriod, Retained.recordFee]
  recordReward amount := by
    rw [recordReward_eq, shown_modifyPeriod, Retained.recordReward]
  recordClaim index fees rewards := shown_modifyPeriod ledger index _
  importPeriod now index history := by
    simp only [PeriodLedger.importPeriod, Retained.importPeriod, map_bind, shown_modifyPeriod]
  closeCurrent := closesAsList_of_closeCurrent
  closeFromRelayer := closesAsList_of_closeFromRelayer

end PeriodLedger

end FeeTreasury
