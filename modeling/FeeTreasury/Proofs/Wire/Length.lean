import FeeTreasury.Wire.Stored
import FeeTreasury.Proofs.Answer

/-!
# Lengths of written forms

Words, keys and truth values take a fixed number of bytes, and so does every record that is made of
a fixed number of them. The record of a staker takes 64 bytes more for each entry of its log
(`FeeTreasury.Staker.length_encode`).
-/

namespace FeeTreasury

namespace Codec

variable {α β : Type}

@[simp] theorem length_encode_raw {width : Nat} (bytes : Vector UInt8 width) :
    ((raw width).encode bytes).length = width := by
  simp [raw]

@[simp] theorem length_encode_bool (value : Bool) : (bool.encode value).length = 1 := rfl

@[simp] theorem length_encode_u8 (value : UInt8) : (u8.encode value).length = 1 :=
  length_littleEndian ..

@[simp] theorem length_encode_u16 (value : UInt16) : (u16.encode value).length = 2 :=
  length_littleEndian ..

@[simp] theorem length_encode_u32 (value : UInt32) : (u32.encode value).length = 4 :=
  length_littleEndian ..

@[simp] theorem length_encode_u64 (value : UInt64) : (u64.encode value).length = 8 :=
  length_littleEndian ..

@[simp] theorem length_encode_u128 (value : BitVec 128) : (u128.encode value).length = 16 :=
  length_littleEndian ..

@[simp] theorem length_encode_pair {first : Codec α} {second : Codec β} (value : α × β) :
    ((first.pair second).encode value).length =
      (first.encode value.1).length + (second.encode value.2).length :=
  List.length_append

@[simp] theorem length_encode_map {codec : Codec α} {make : α → β} {parts : β → α}
    {parts_make : ∀ a, parts (make a) = a} {make_parts : ∀ b, make (parts b) = b} (value : β) :
    ((codec.map make parts parts_make make_parts).encode value).length =
      (codec.encode (parts value)).length := rfl

@[simp] theorem length_encode_i64 (value : Int64) : (i64.encode value).length = 8 :=
  length_littleEndian ..

@[simp] theorem length_encode_option {codec : Codec α} (value : Option α) :
    (codec.option.encode value).length =
      1 + value.elim 0 fun value => (codec.encode value).length := by
  cases value with
  | none => rfl
  | some value => exact Nat.add_comm ..

theorem length_encode_quad {codec : Codec α} {width : Nat}
    (fixed : ∀ value, (codec.encode value).length = width) (values : Vector α 4) :
    (codec.quad.encode values).length = 4 * width := by
  have written : codec.quad.encode values = (codec.pair (codec.pair (codec.pair codec))).encode
      (values[0], values[1], values[2], values[3]) := rfl
  simp only [written, length_encode_pair, fixed]
  omega

theorem length_encode_list {codec : Codec α} {width : Nat}
    (fixed : ∀ value, (codec.encode value).length = width) (values : List α) :
    (codec.list.encode values).length = 4 + width * values.length := by
  simp [list, List.length_flatMap, fixed, Nat.mul_comm]

end Codec

@[simp] theorem Key.length_encode (key : Key) : (Key.codec.encode key).length = 32 := by
  simp [Key.codec]

@[simp] theorem AssetKey.length_encode (key : AssetKey) :
    (AssetKey.codec.encode key).length = 8 := by
  simp [AssetKey.codec]

@[simp] theorem Header.length_encode (header : Header) :
    (Header.codec.encode header).length = 10 := by
  simp [Header.codec, Tag.codec]

@[simp] theorem Settings.length_encode (settings : Settings) :
    (Settings.codec.encode settings).length = 88 := by
  simp [Settings.codec]

@[simp] theorem Pot.length_encode (pot : Pot) : (Pot.codec.encode pot).length = 16 := by
  simp [Pot.codec]

@[simp] theorem Checkpoint.length_encode (checkpoint : Checkpoint) :
    (Checkpoint.codec.encode checkpoint).length = 24 := by
  simp [Checkpoint.codec]

theorem Suspension.length_encode (suspension : Suspension) :
    (Suspension.codec.encode suspension).length = 3 := by
  simp [Suspension.codec]

theorem FeePeriod.length_encode (period : FeePeriod) :
    (FeePeriod.codec.encode period).length = 96 := by
  simp [FeePeriod.codec]

theorem OwnershipEntry.length_encode (entry : OwnershipEntry) :
    (OwnershipEntry.codec.encode entry).length = 64 := by
  simp [OwnershipEntry.codec]

@[simp] theorem OwnershipLog.length_encode (log : OwnershipLog) :
    (OwnershipLog.codec.encode log).length = 4 + 64 * log.entries.length := by
  simp [OwnershipLog.codec, Codec.length_encode_list OwnershipEntry.length_encode]

theorem Config.length_encode (config : Config) : (Config.codec.encode config).length = 363 := by
  simp [Config.codec]

theorem StatusBoard.length_encode (board : StatusBoard) :
    (StatusBoard.codec.encode board).length = 30 := by
  simp [StatusBoard.codec, Codec.length_encode_quad Suspension.length_encode]

theorem PeriodLedger.length_encode (ledger : PeriodLedger) :
    (PeriodLedger.codec.encode ledger).length = 459 := by
  simp [PeriodLedger.codec, Codec.length_encode_quad FeePeriod.length_encode]

theorem ShareRegistry.length_encode (registry : ShareRegistry) :
    (ShareRegistry.codec.encode registry).length = 34 := by
  simp [ShareRegistry.codec]

theorem RewardPool.length_encode (pool : RewardPool) :
    (RewardPool.codec.encode pool).length = 58 := by
  simp [RewardPool.codec]

theorem LiquidationBook.length_encode (book : LiquidationBook) :
    (LiquidationBook.codec.encode book).length = 42 := by
  simp [LiquidationBook.codec]

theorem LiquidationEntry.length_encode (entry : LiquidationEntry) :
    (LiquidationEntry.codec.encode entry).length = 92 := by
  simp [LiquidationEntry.codec]

theorem Staker.length_encode (staker : Staker) :
    (Staker.codec.encode staker).length = 102 + 64 * staker.ownership.entries.length := by
  simp only [codec, Codec.length_encode_map, Codec.length_encode_pair, Header.length_encode,
    Key.length_encode, Codec.length_encode_u64, Checkpoint.length_encode,
    OwnershipLog.length_encode, Codec.length_encode_i64]
  omega

theorem RateFeed.length_encode (feed : RateFeed) :
    (RateFeed.codec.encode feed).length = 42 := by
  simp [RateFeed.codec]

theorem Approval.length_encode (approval : Approval) :
    (Approval.codec.encode approval).length = 75 := by
  simp [Approval.codec]

end FeeTreasury
