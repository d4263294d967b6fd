import FeeTreasury.FeePeriod

/-!
# Ownership logs

What a staker's share of the debt was over time. The log has at most one entry per fee period: the
balance of debt shares after the last change in it, and the *share-seconds* that the staker had
gathered in that period before the change. Share-seconds are shares times the growth of the
ownership index, with eighteen decimals. Only the last six entries are kept, which is more than the
ledger retains periods.
-/

namespace FeeTreasury

/-- Number of entries that a log keeps. -/
abbrev ownershipDepth : Nat := 6

/-- The position of a staker after its last change in one fee period. -/
structure OwnershipEntry where
  /-- Time of the change. -/
  time : Int64
  /-- Period that was open at the change. -/
  periodId : UInt64
  /-- Debt shares after the change. -/
  shares : UInt64
  /-- Part of all debt shares after the change, with six decimals. -/
  fraction : UInt64
  /-- Ownership index at the change. -/
  index : UInt128
  /-- Share-seconds gathered in the period before the change. -/
  carried : UInt128
  deriving DecidableEq, Repr

namespace OwnershipEntry

instance : Inhabited OwnershipEntry := ⟨⟨0, 0, 0, 0, 0, 0⟩⟩

end OwnershipEntry

/-- Share-seconds of a constant balance while the index grew from one value to another. An index
that did not grow gives none. -/
def shareSeconds (shares : UInt64) (fromIndex toIndex : UInt128) : Outcome UInt128 :=
  fit128 (shares.toNat * (saturatingSub128 toIndex fromIndex).toNat)

/-- The log of one staker, oldest entry first. -/
structure OwnershipLog where
  entries : List OwnershipEntry
  deriving DecidableEq, Repr, Inhabited

namespace OwnershipLog

/-- A log without entries. -/
def empty : OwnershipLog := ⟨[]⟩

/-- The last entry. -/
def latest (log : OwnershipLog) : Option OwnershipEntry := log.entries.getLast?

/-- The part of all debt shares after the last change, however long ago. -/
def lastFraction (log : OwnershipLog) : UInt64 :=
  match log.latest with
  | some entry => entry.fraction
  | none => 0

/-- The balance after the last change. -/
def lastShares (log : OwnershipLog) : UInt64 :=
  match log.latest with
  | some entry => entry.shares
  | none => 0

/-- The part of a supply that a balance is, with six decimals. -/
def fractionOf (shares supply : UInt64) : Outcome UInt64 :=
  if supply = 0 then pure 0 else mulDiv shares unit supply

/-- The entries with the last one replaced. -/
def replaceLast (log : OwnershipLog) (entry : OwnershipEntry) : OwnershipLog :=
  ⟨log.entries.dropLast ++ [entry]⟩

/-- The entries with one more. The oldest entry leaves a log that has grown beyond its depth. -/
def push (log : OwnershipLog) (entry : OwnershipEntry) : OwnershipLog :=
  let grown := log.entries ++ [entry]
  ⟨if grown.length > ownershipDepth then grown.drop 1 else grown⟩

/-- Record the balance that holds from `now` on. `index` is the ownership index at `now`. A second
change in one period folds into the period's entry; the first one starts an entry that carries what
the balance so far gathered since the period opened. -/
def recordChange (log : OwnershipLog) (now : Int64) (openPeriod : FeePeriod) (index : UInt128)
    (shares supply : UInt64) : Outcome OwnershipLog := do
  let fraction ← fractionOf shares supply
  match log.latest with
  | some last =>
    if last.periodId = openPeriod.id then
      let gathered ← shareSeconds last.shares last.index index
      let carried ← fit128 (last.carried.toNat + gathered.toNat)
      return log.replaceLast
        { last with time := now, shares, fraction, index, carried }
    else
      let carried ← shareSeconds last.shares openPeriod.startingIndex index
      return log.push { time := now, periodId := openPeriod.id, shares, fraction, index, carried }
  | none =>
    let carried ← shareSeconds 0 openPeriod.startingIndex index
    return log.push { time := now, periodId := openPeriod.id, shares, fraction, index, carried }

/-- The last entry for a period. -/
def entryFor (log : OwnershipLog) (id : UInt64) : Option OwnershipEntry :=
  log.entries.reverse.find? fun entry => entry.periodId = id

/-- The last entry for a period before a given one. -/
def entryBefore (log : OwnershipLog) (id : UInt64) : Option OwnershipEntry :=
  log.entries.reverse.find? fun entry => entry.periodId < id

/-- Share-seconds that the staker gathered in a closed period. Without a change in the period, the
balance of the last change before it held throughout. -/
def shareSecondsIn (log : OwnershipLog) (period : FeePeriod) : Outcome UInt128 :=
  if period.isEmpty then pure 0
  else
    match log.entryFor period.id with
    | some entry => do
      let tail ← shareSeconds entry.shares entry.index period.closingIndex
      fit128 (entry.carried.toNat + tail.toNat)
    | none =>
      match log.entryBefore period.id with
      | some entry => shareSeconds entry.shares period.startingIndex period.closingIndex
      | none => pure 0

end OwnershipLog

end FeeTreasury
