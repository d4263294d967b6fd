import FeeTreasury.OwnershipLog
import FeeTreasury.PeriodLedger

/-!
# Entitlements

What a staker is owed of each closed period: the part of the period's fees and rewards that its
share-seconds are of the covered time. Nothing is owed of the open period, of periods that nobody's
shares covered, or of periods up to the one of the last claim; and never more than is left.
-/

namespace FeeTreasury

/-- Fees and rewards that are owed or available. -/
structure Entitlement where
  fees : UInt64
  rewards : UInt64
  deriving DecidableEq, Repr, Inhabited

namespace Entitlement

/-- Nothing. -/
def zero : Entitlement := ⟨0, 0⟩

/-- Whether it is nothing. -/
def isZero (e : Entitlement) : Bool := e.fees = 0 ∧ e.rewards = 0

/-- Two entitlements together. -/
def add (a b : Entitlement) : Outcome Entitlement := do
  let fees ← checkedAdd a.fees b.fees
  let rewards ← checkedAdd a.rewards b.rewards
  return ⟨fees, rewards⟩

/-- Some entitlements together, added up from the first one on. -/
def sum (es : List Entitlement) : Outcome Entitlement := es.foldlM add zero

end Entitlement

namespace FeePeriod

/-- The lesser of a part of a pot, given with six decimals, and what is left of the pot. -/
def portion (pot : Pot) (ratio : UInt64) : Outcome UInt64 := do
  let part ← decimalMul pot.total ratio
  return min part pot.unclaimed

/-- What is left of a period. -/
def unclaimed (period : FeePeriod) : Entitlement :=
  ⟨period.fees.unclaimed, period.rewards.unclaimed⟩

/-- What a part of the covered time, given with six decimals, is owed of a period. -/
def owed (period : FeePeriod) (ratio : UInt64) : Outcome Entitlement := do
  let fees ← portion period.fees ratio
  let rewards ← portion period.rewards ratio
  return ⟨fees, rewards⟩

end FeePeriod

namespace PeriodLedger

/-- The part of a closed period's covered time that a staker's shares stand for, with six decimals
and never above one. It is zero for the open period and outside the window. -/
def debtRatio (ledger : PeriodLedger) (log : OwnershipLog) (index : Nat) : Outcome UInt64 := do
  if index = 0 ∨ periodCount ≤ index then
    return 0
  let period := ledger.window index
  if period.isEmpty ∨ period.coveredSeconds = 0 then
    return 0
  let seconds ← log.shareSecondsIn period
  let covered ← fit128 (period.coveredSeconds.toNat * preciseUnit)
  let scaled ← fit128 (seconds.toNat * unit.toNat)
  fit64 (min (scaled.toNat / covered.toNat) unit.toNat)

/-- What is owed of the period at an index. -/
def owedFor (ledger : PeriodLedger) (log : OwnershipLog) (lastClaimed : UInt64) (index : Nat) :
    Outcome Entitlement := do
  let period := ledger.window index
  if period.isEmpty ∨ period.id ≤ lastClaimed then
    return Entitlement.zero
  let ratio ← ledger.debtRatio log index
  if ratio = 0 then
    return Entitlement.zero
  period.owed ratio

/-- What is owed of each closed period, the youngest first. -/
def owedByPeriod (ledger : PeriodLedger) (log : OwnershipLog) (lastClaimed : UInt64) :
    Outcome (Vector Entitlement 3) := do
  let first ← ledger.owedFor log lastClaimed 1
  let second ← ledger.owedFor log lastClaimed 2
  let third ← ledger.owedFor log lastClaimed 3
  return #v[first, second, third]

/-- All that is owed to a staker now. -/
def available (ledger : PeriodLedger) (log : OwnershipLog) (lastClaimed : UInt64) :
    Outcome Entitlement := do
  let owed ← ledger.owedByPeriod log lastClaimed
  Entitlement.sum owed.toList

/-- All that is left of the closed periods. -/
def totalAvailable (ledger : PeriodLedger) : Outcome Entitlement :=
  Entitlement.sum ([1, 2, 3].map fun index => (ledger.window index).unclaimed)

end PeriodLedger

end FeeTreasury
