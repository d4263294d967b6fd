import FeeTreasury.Header
import FeeTreasury.Settings

/-!
# Rates

The oracle authority submits a rate for each asset key to that key's feed. A rate is fresh for a
time that depends on the asset. Readings are taken from two feeds at a fixed time; a feed in the
wrong position, or of an unknown key, gives no reading.
-/

namespace FeeTreasury

/-- The feed of one asset key. -/
structure RateFeed where
  header : Header
  /-- Asset that the feed is about. -/
  asset : AssetKey
  /-- Latest rate, with six decimals. -/
  rate : UInt64
  /-- Time of the latest rate. -/
  updatedAt : Int64
  /-- Number of rates submitted. -/
  round : UInt64
  deriving DecidableEq, Repr, Inhabited

namespace RateFeed

/-- A feed without a rate. -/
def new (asset : AssetKey) (bump : UInt8) : RateFeed where
  header := Header.fresh .rateFeed bump
  asset := asset
  rate := 0
  updatedAt := 0
  round := 0

/-- Take a new rate. -/
def submit (feed : RateFeed) (rate : UInt64) (now : Int64) : Outcome RateFeed := do
  let round ← checkedAdd feed.round 1
  return { feed with rate, updatedAt := now, round }

/-- A feed is stale if it is older than a period allows, or never had a rate. -/
def isStale (feed : RateFeed) (now period : Int64) : Bool :=
  feed.round = 0 ∨ period < saturateTime (now.toInt - feed.updatedAt.toInt)

end RateFeed

/-- A rate and whether it is stale. -/
structure RateReading where
  rate : UInt64
  stale : Bool
  deriving DecidableEq, Repr, Inhabited

/-- The feeds of the two rates that the treasury uses, read at one time. -/
structure Oracle where
  collateral : RateFeed
  totalDebt : RateFeed
  now : Int64
  rateStalePeriod : Int64
  debtStalePeriod : Int64

namespace Oracle

/-- The oracle with the freshness that the settings ask for. -/
def new (collateral totalDebt : RateFeed) (settings : Settings) (now : Int64) : Oracle where
  collateral := collateral
  totalDebt := totalDebt
  now := now
  rateStalePeriod := settings.rateStalePeriod
  debtStalePeriod := settings.debtStalePeriod

/-- What a feed says about an asset, if it is that asset's feed. -/
def reading? (feed : RateFeed) (asset : AssetKey) (now period : Int64) : Option RateReading :=
  if feed.asset = asset then some ⟨feed.rate, feed.isStale now period⟩ else none

/-- The reading for an asset, if it is one of the two. -/
def rateFor (oracle : Oracle) (asset : AssetKey) : Option RateReading :=
  if asset = AssetKey.collateral then
    reading? oracle.collateral asset oracle.now oracle.rateStalePeriod
  else if asset = AssetKey.totalDebt then
    reading? oracle.totalDebt asset oracle.now oracle.debtStalePeriod
  else none

end Oracle

/-- Collateral price and total debt at one time. -/
structure Market where
  price : UInt64
  totalDebt : UInt64
  deriving DecidableEq, Repr, Inhabited

namespace Oracle

/-- The market, if both rates are fresh and the price is not zero. -/
def market (oracle : Oracle) : Outcome Market :=
  match oracle.rateFor AssetKey.collateral with
  | some ⟨price, false⟩ =>
    if price = 0 then refuse .collateralRateStale
    else
      match oracle.rateFor AssetKey.totalDebt with
      | some ⟨debt, false⟩ => .ok ⟨price, debt⟩
      | _ => refuse .debtSnapshotStale
  | _ => refuse .collateralRateStale

end Oracle

end FeeTreasury
