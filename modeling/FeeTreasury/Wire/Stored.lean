import FeeTreasury.Wire.Record

/-!
# Types of accounts

A type whose values are the data of accounts: its tag, the room that an account of the type takes,
its header and its written form. The room exceeds the written form by some bytes that are left for
later use, so values are read from the front of the data.
-/

namespace FeeTreasury

/-- A type whose values are the data of accounts. -/
class Stored (α : Type) where
  tag : Tag
  /-- Length of the data of an account. -/
  size : Nat
  header : α → Header
  codec : Codec α

namespace Stored

/-- A value is taken for its type only if its header says so. -/
def validate {α : Type} [Stored α] (value : α) : Outcome Unit :=
  (header value).validate (tag α)

end Stored

instance : Stored Config where
  tag := .config
  size := 10 + 32 * 8 + 1 + 88 + 8 + 128
  header := Config.header
  codec := Config.codec

instance : Stored StatusBoard where
  tag := .statusBoard
  size := 10 + 3 * 4 + 8 + 32
  header := StatusBoard.header
  codec := StatusBoard.codec

instance : Stored PeriodLedger where
  tag := .periodLedger
  size := 10 + 96 * periodCount + 1 + 16 + 16 + 8 + 8 + 8 + 8 + 64
  header := PeriodLedger.header
  codec := PeriodLedger.codec

instance : Stored ShareRegistry where
  tag := .shareRegistry
  size := 10 + 8 + 8 + 8 + 32
  header := ShareRegistry.header
  codec := ShareRegistry.codec

instance : Stored RewardPool where
  tag := .rewardPool
  size := 10 + 16 + 8 + 8 + 8 + 8 + 64
  header := RewardPool.header
  codec := RewardPool.codec

instance : Stored LiquidationBook where
  tag := .liquidationBook
  size := 10 + 8 + 8 + 8 + 8 + 64
  header := LiquidationBook.header
  codec := LiquidationBook.codec

instance : Stored LiquidationEntry where
  tag := .liquidationEntry
  size := 10 + 32 + 1 + 8 + 32 + 1 + 8 + 32
  header := LiquidationEntry.header
  codec := LiquidationEntry.codec

instance : Stored Staker where
  tag := .staker
  size := 10 + 32 + 8 + 8 + 8 + 24 + (4 + ownershipDepth * 64) + 8 + 64
  header := Staker.header
  codec := Staker.codec

instance : Stored RateFeed where
  tag := .rateFeed
  size := 10 + 8 + 8 + 8 + 8 + 32
  header := RateFeed.header
  codec := RateFeed.codec

instance : Stored Approval where
  tag := .approval
  size := 10 + 32 + 32 + 1 + 16
  header := Approval.header
  codec := Approval.codec

end FeeTreasury
