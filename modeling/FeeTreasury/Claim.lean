import FeeTreasury.Approval
import FeeTreasury.Entitlement
import FeeTreasury.Position
import FeeTreasury.StatusBoard

/-!
# Claims

A claim pays a staker everything it is owed of the closed periods, marks the periods it is paid
from, and remembers the youngest of them, so that no period is paid twice. A claim writes to the
ledger and the staker as it goes; what it has written when it fails is part of its result.
-/

namespace FeeTreasury

/-- Sections that a claim needs. -/
def claimSections : List Section := [.system, .issuance, .exchange]

/-- What a claim writes. -/
structure ClaimBooks where
  ledger : PeriodLedger
  staker : Staker
  deriving DecidableEq, Repr, Inhabited

/-- What a claim reads. -/
structure ClaimTerms where
  board : StatusBoard
  oracle : Oracle
  settings : Settings
  /-- Supply of debt shares. -/
  supply : UInt64

/-- A claim under way: its books, whether it has come to its end or has failed. -/
abbrev Claiming := EStateM Fault ClaimBooks

/-- Fees can be claimed up to the claimable ratio. -/
def Position.claimable (position : Position) (settings : Settings) : Outcome Bool := do
  let limit ← settings.claimableRatioLimit
  return position.ratio ≤ limit

namespace ClaimBooks

/-- What a staker is owed of each closed period, if the sections are active, the rates fresh and the
position good enough. -/
def assess (books : ClaimBooks) (terms : ClaimTerms) : Outcome (Vector Entitlement 3) := do
  terms.board.requireActive claimSections
  let market ← terms.oracle.market
  let position ← books.staker.position terms.supply market
  require (← position.claimable terms.settings) .ratioAboveClaimLimit
  books.ledger.owedByPeriod books.staker.ownership books.staker.lastClaimed

end ClaimBooks

namespace Claiming

/-- Mark an amount as claimed from the period at an index, unless it is nothing. -/
def mark (index : Nat) (amount : Entitlement) : Claiming Unit := do
  if !amount.isZero then
    let books ← get
    let ledger ← liftExcept (books.ledger.recordClaim index amount.fees amount.rewards)
    set { books with ledger }

/-- Claim everything that is owed. The periods are marked from the oldest to the youngest. -/
def claim (terms : ClaimTerms) : Claiming Entitlement := do
  let owed ← liftExcept ((← get).assess terms)
  let total ← liftExcept (Entitlement.sum owed.toList)
  if total.isZero then
    throw (.refused .nothingToClaim)
  mark 3 owed[2]
  mark 2 owed[1]
  mark 1 owed[0]
  modify fun books =>
    { books with staker := { books.staker with lastClaimed := (books.ledger.window 1).id } }
  return total

/-- Claim for the owner of the staker account. What is claimed still belongs to the owner. -/
def claimOnBehalf (approval : Approval) (delegate : Key) (terms : ClaimTerms) :
    Claiming Entitlement := do
  let books ← get
  if !approval.permits books.staker.owner delegate then
    throw (.refused .notApprovedToClaim)
  claim terms

end Claiming

end FeeTreasury
