import FeeTreasury.FeePeriod
import FeeTreasury.Header
import FeeTreasury.Settings

/-!
# The ledger of fee periods

The ledger retains four periods: the open one and the three that closed last. They lie in a ring.
Logical period 0 is the open one, 1 the one that closed last, 3 the oldest; closing moves the head
of the ring back by one slot, so that no period is copied. What is left of the period that falls out
is inherited by the period that becomes the oldest.

The ledger also measures time. Its *ownership index* is the number of seconds that each debt share
has existed, with eighteen decimals: each second is split over all shares of that second. The
remainder of a split is carried into the next one, so that no time is lost.
-/

namespace FeeTreasury

/-- Number of retained periods. -/
abbrev periodCount : Nat := 4

/-- Seconds after the start of the treasury during which history can be imported. -/
def setupWindow : Int64 := 4 * 7 * daySeconds

/-- The ledger account. There is one. -/
structure PeriodLedger where
  header : Header
  /-- Slots of the ring. -/
  periods : Vector FeePeriod periodCount
  /-- Slot of the open period. -/
  head : UInt8
  /-- Seconds per debt share so far. -/
  ownershipIndex : UInt128
  /-- Scaled seconds that did not divide evenly over the shares. -/
  ownershipCarry : UInt128
  /-- Seconds of the open period during which debt shares existed. -/
  openCoveredSeconds : UInt64
  /-- Time up to which the index is brought forward. -/
  lastAccrual : Int64
  /-- Time from which history can no longer be imported. -/
  setupExpiry : Int64
  /-- Number of closes. -/
  closedCount : UInt64
  deriving DecidableEq, Repr, Inhabited

/-- Migrated history of one period. -/
structure PeriodImport where
  id : UInt64
  start : Int64
  fees : Pot
  rewards : Pot
  deriving DecidableEq, Repr, Inhabited

namespace PeriodLedger

/-- A ledger whose first open period has id 1. -/
def new (now : Int64) (bump : UInt8) : PeriodLedger where
  header := Header.fresh .periodLedger bump
  periods := (Vector.replicate periodCount FeePeriod.vacant).set 0 (FeePeriod.opened 1 now 0)
  head := 0
  ownershipIndex := 0
  ownershipCarry := 0
  openCoveredSeconds := 0
  lastAccrual := now
  setupExpiry := saturateTime (now.toInt + setupWindow.toInt)
  closedCount := 0

/-- Slot of a logical period. -/
def slot (ledger : PeriodLedger) (index : Nat) : Fin periodCount :=
  ⟨(ledger.head.toNat + index) % periodCount, Nat.mod_lt _ (by decide)⟩

/-- The logical period at an index, which is taken around the ring. -/
def window (ledger : PeriodLedger) (index : Nat) : FeePeriod := ledger.periods[ledger.slot index]

/-- The open period. -/
def current (ledger : PeriodLedger) : FeePeriod := ledger.window 0

/-- The retained periods, the open one first. -/
def recent (ledger : PeriodLedger) : List FeePeriod :=
  (List.range periodCount).map ledger.window

/-- The logical period at an index below four. -/
def period (ledger : PeriodLedger) (index : Nat) : Outcome FeePeriod := do
  require (index < periodCount) .invalidPeriodIndex
  return ledger.window index

/-- Replace the logical period at an index. -/
def put (ledger : PeriodLedger) (index : Nat) (period : FeePeriod) : PeriodLedger :=
  { ledger with periods := ledger.periods.set (ledger.slot index) period }

/-- Change the logical period at an index below four. -/
def modifyPeriod (ledger : PeriodLedger) (index : Nat) (change : FeePeriod → Outcome FeePeriod) :
    Outcome PeriodLedger := do
  let old ← ledger.period index
  return ledger.put index (← change old)

/-- Add fees to the open period. -/
def recordFee (ledger : PeriodLedger) (amount : UInt64) : Outcome PeriodLedger := do
  let fees ← ledger.current.fees.add amount
  return ledger.put 0 { ledger.current with fees := fees }

/-- Add rewards to the open period. -/
def recordReward (ledger : PeriodLedger) (amount : UInt64) : Outcome PeriodLedger := do
  let rewards ← ledger.current.rewards.add amount
  return ledger.put 0 { ledger.current with rewards := rewards }

/-- Mark fees and rewards of a retained period as claimed. -/
def recordClaim (ledger : PeriodLedger) (index : Nat) (fees rewards : UInt64) :
    Outcome PeriodLedger :=
  ledger.modifyPeriod index fun period => period.recordClaim fees rewards

/-- Bring the ownership index forward to `now` with the supply of shares that was in force since the
last accrual. Time without shares passes, but counts for nobody. -/
def accrue (ledger : PeriodLedger) (now : Int64) (supply : UInt64) : Outcome PeriodLedger := do
  if now ≤ ledger.lastAccrual then
    return ledger
  let elapsed ← plainElapsed now ledger.lastAccrual
  if supply = 0 then
    return { ledger with lastAccrual := now }
  let seconds := elapsed.toUInt64
  let pending ← fit128 (seconds.toNat * preciseUnit + ledger.ownershipCarry.toNat)
  let index ← fit128 (ledger.ownershipIndex.toNat + pending.toNat / supply.toNat)
  let covered ← checkedAdd ledger.openCoveredSeconds seconds
  return { ledger with
    ownershipIndex := index
    ownershipCarry := BitVec.ofNat 128 (pending.toNat % supply.toNat)
    openCoveredSeconds := covered
    lastAccrual := now }

/-- Close the open period with a duration, pass on what is left of the oldest period, and open the
next period in the slot that the oldest one leaves. Gives the id of the closed period. -/
def rotate (ledger : PeriodLedger) (now duration : Int64) (supply : UInt64) :
    Outcome (PeriodLedger × UInt64) := do
  let accrued ← ledger.accrue now supply
  let closed : FeePeriod := { accrued.current with
    duration := duration
    closingIndex := accrued.ownershipIndex
    coveredSeconds := accrued.openCoveredSeconds }
  let nextId ← checkedAdd closed.id 1
  let stopped := accrued.put 0 closed
  let dropped := stopped.window 3
  let settled ←
    if dropped.isEmpty then pure stopped
    else stopped.modifyPeriod 2 fun heir => heir.inherit dropped
  let opened := settled.put 3 (FeePeriod.opened nextId now settled.ownershipIndex)
  return ({ opened with
    head := UInt8.ofNat (settled.slot 3)
    openCoveredSeconds := 0
    closedCount := saturatingSucc opened.closedCount }, closed.id)

/-- Anyone closes the open period once the configured duration has passed. -/
def closeCurrent (ledger : PeriodLedger) (now duration : Int64) (supply : UInt64) :
    Outcome (PeriodLedger × UInt64) := do
  require (0 < duration) .periodDurationNotSet
  let start := ledger.current.start
  require (saturateTime (start.toInt + duration.toInt) ≤ now) .periodNotElapsed
  ledger.rotate now (← plainElapsed now start) supply

/-- The relayer closes the period with a given id at any time: the clock is another ledger's. A
duration that is not positive stands for the configured one, which has to be set. -/
def closeFromRelayer (ledger : PeriodLedger) (now : Int64) (id : UInt64)
    (duration configured : Int64) (supply : UInt64) : Outcome (PeriodLedger × UInt64) := do
  require (0 < configured) .periodDurationNotSet
  require (id = ledger.current.id) .periodIdMismatch
  ledger.rotate now (if 0 < duration then duration else configured) supply

/-- Overwrite one slot with migrated history while the setup lasts. The slot keeps its duration, its
indices and its covered seconds. -/
def importPeriod (ledger : PeriodLedger) (now : Int64) (index : Nat) (history : PeriodImport) :
    Outcome PeriodLedger := do
  require (now < ledger.setupExpiry) .setupWindowClosed
  require (history.fees.claimed ≤ history.fees.total ∧
    history.rewards.claimed ≤ history.rewards.total) .claimExceedsDistributable
  ledger.modifyPeriod index fun period =>
    pure { period with
      id := history.id
      start := history.start
      fees := history.fees
      rewards := history.rewards }

end PeriodLedger

end FeeTreasury
