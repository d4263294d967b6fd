import FeeTreasury.Header

/-!
# The registry of debt shares

The supply of debt shares is kept by the issuer; the registry follows it.
-/

namespace FeeTreasury

/-- The registry account. There is one. -/
structure ShareRegistry where
  header : Header
  /-- Sum of the balances of all stakers. -/
  supply : UInt64
  /-- Number of staker accounts. -/
  stakerCount : UInt64
  /-- Time of the last change of the supply. -/
  lastUpdate : Int64
  deriving DecidableEq, Repr, Inhabited

namespace ShareRegistry

/-- A registry without shares or stakers. -/
def new (bump : UInt8) : ShareRegistry where
  header := Header.fresh .shareRegistry bump
  supply := 0
  stakerCount := 0
  lastUpdate := 0

end ShareRegistry

end FeeTreasury
