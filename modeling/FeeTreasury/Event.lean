import FeeTreasury.Text.Base58
import FeeTreasury.Wire.Record

/-!
# Events

What the program tells those who watch its log. An event takes three lines: a marker, the type of
the event, and its fields in their written form as base 58.
-/

namespace FeeTreasury

/-- Something that happened. -/
inductive Event where
  | periodClosed (id : UInt64) (closedAt : Int64)
  | periodImported (index : UInt8) (id : UInt64)
  | feesClaimed (account : Key) (fees rewards : UInt64)
  | accountFlagged (account : Key) (deadline : Int64)
  | accountRemoved (account : Key) (time : Int64)
  | accountLiquidated (account : Key) (collateralRedeemed debtRemoved : UInt64) (liquidator : Key)
      (bySelf : Bool)
  | rewardsDeposited (amount : UInt64)
  | rewardPaid (account : Key) (amount : UInt64)
  deriving DecidableEq, Repr

namespace Event

/-- The type of an event, as the log gives it. -/
def typeName : Event → String
  | periodClosed .. => "FeePeriodClosed"
  | periodImported .. => "FeePeriodImported"
  | feesClaimed .. => "FeesClaimed"
  | accountFlagged .. => "AccountFlaggedForLiquidation"
  | accountRemoved .. => "AccountRemovedFromLiquidation"
  | accountLiquidated .. => "AccountLiquidated"
  | rewardsDeposited .. => "RewardsDeposited"
  | rewardPaid .. => "RewardPaid"

/-- The written form of the type of an event: its position among the types. -/
def typeByte : Event → UInt8
  | periodClosed .. => 0
  | periodImported .. => 1
  | feesClaimed .. => 2
  | accountFlagged .. => 3
  | accountRemoved .. => 4
  | accountLiquidated .. => 5
  | rewardsDeposited .. => 6
  | rewardPaid .. => 7

/-- The written form of the fields of an event. -/
def payload : Event → Bytes
  | periodClosed id closedAt => Codec.u64.encode id ++ Codec.i64.encode closedAt
  | periodImported index id => Codec.u8.encode index ++ Codec.u64.encode id
  | feesClaimed account fees rewards =>
    Key.codec.encode account ++ Codec.u64.encode fees ++ Codec.u64.encode rewards
  | accountFlagged account deadline => Key.codec.encode account ++ Codec.i64.encode deadline
  | accountRemoved account time => Key.codec.encode account ++ Codec.i64.encode time
  | accountLiquidated account collateralRedeemed debtRemoved liquidator bySelf =>
    Key.codec.encode account ++ Codec.u64.encode collateralRedeemed ++
      Codec.u64.encode debtRemoved ++ Key.codec.encode liquidator ++ Codec.bool.encode bySelf
  | rewardsDeposited amount => Codec.u64.encode amount
  | rewardPaid account amount => Key.codec.encode account ++ Codec.u64.encode amount

/-- The lines of an event in the log. -/
def lines (event : Event) : List String :=
  ["FEE_POOL_EVENT", "TYPE:" ++ event.typeName, "DATA:" ++ Base58.encode event.payload]

end Event

end FeeTreasury
