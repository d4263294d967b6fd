import FeeTreasury.Header
import FeeTreasury.Word

/-!
# The book of liquidations

An account that is flagged for liquidation has an open entry until it is removed or liquidated. The
entries lie in accounts of their own, one per staker; the book counts them.
-/

namespace FeeTreasury

/-- Liquidation status of one staker. An entry that is not active is closed. -/
structure LiquidationEntry where
  header : Header
  /-- Owner of the staker account concerned. -/
  account : Key
  /-- Whether the entry is open. -/
  active : Bool
  /-- Time from which the account can be liquidated. -/
  deadline : Int64
  /-- Who flagged the account, and is paid for it. -/
  flagger : Key
  /-- Whether the account flagged itself. -/
  bySelf : Bool
  /-- Time of the flag. -/
  flaggedAt : Int64
  deriving DecidableEq, Repr, Inhabited

namespace LiquidationEntry

/-- A closed entry. -/
def new (account : Key) (bump : UInt8) : LiquidationEntry where
  header := Header.fresh .liquidationEntry bump
  account := account
  active := false
  deadline := 0
  flagger := Key.zero
  bySelf := false
  flaggedAt := 0

/-- Whether the account can be liquidated as far as time is concerned. -/
def deadlinePassed (entry : LiquidationEntry) (now : Int64) : Bool := entry.deadline ≤ now

/-- Forget the flag. -/
def cleared (entry : LiquidationEntry) : LiquidationEntry :=
  { entry with
    active := false
    deadline := 0
    flagger := Key.zero
    bySelf := false
    flaggedAt := 0 }

end LiquidationEntry

/-- The account that counts entries. There is one. -/
structure LiquidationBook where
  header : Header
  /-- Entries that are open. -/
  activeEntries : UInt64
  totalFlagged : UInt64
  totalRemoved : UInt64
  totalLiquidated : UInt64
  deriving DecidableEq, Repr, Inhabited

namespace LiquidationBook

/-- A book without entries. -/
def new (bump : UInt8) : LiquidationBook where
  header := Header.fresh .liquidationBook bump
  activeEntries := 0
  totalFlagged := 0
  totalRemoved := 0
  totalLiquidated := 0

/-- Open the entry of an account. An account has one entry at most. -/
def openEntry (book : LiquidationBook) (entry : LiquidationEntry) (flagger : Key)
    (deadline now : Int64) : Outcome (LiquidationBook × LiquidationEntry) := do
  require (!entry.active) .alreadyFlagged
  return (
    { book with
      activeEntries := saturatingSucc book.activeEntries
      totalFlagged := saturatingSucc book.totalFlagged },
    { entry with
      active := true
      deadline := deadline
      flagger := flagger
      bySelf := entry.account = flagger
      flaggedAt := now })

/-- Close an entry, because the account was liquidated or because it is healthy again. Closing an
entry that is not open changes nothing; the last component says whether it was open. -/
def closeEntry (book : LiquidationBook) (entry : LiquidationEntry) (liquidated : Bool) :
    LiquidationBook × LiquidationEntry × Bool :=
  if entry.active then
    let counted := { book with activeEntries := saturatingPred book.activeEntries }
    let settled :=
      if liquidated then
        { counted with totalLiquidated := saturatingSucc book.totalLiquidated }
      else
        { counted with totalRemoved := saturatingSucc book.totalRemoved }
    (settled, entry.cleared, true)
  else (book, entry, false)

end LiquidationBook

end FeeTreasury
