import FeeTreasury.Wire.Stored
import FeeTreasury.Proofs.Answer

/-!
# Values that have a written form

Words, keys and truth values always have a written form, and so has every record that is made of a
fixed number of them. The record of a staker has one if four bytes can count the entries of its log
(`FeeTreasury.Staker.canonical_iff`).
-/

namespace FeeTreasury

namespace Codec

variable {α β : Type}

@[simp] theorem canonical_raw {width : Nat} (bytes : Vector UInt8 width) :
    (raw width).Canonical bytes := trivial

@[simp] theorem canonical_bool (value : Bool) : bool.Canonical value := trivial

@[simp] theorem canonical_u8 (value : UInt8) : u8.Canonical value := trivial

@[simp] theorem canonical_u16 (value : UInt16) : u16.Canonical value := trivial

@[simp] theorem canonical_u64 (value : UInt64) : u64.Canonical value := trivial

@[simp] theorem canonical_u128 (value : BitVec 128) : u128.Canonical value := trivial

@[simp] theorem canonical_i64 (value : Int64) : i64.Canonical value := trivial

@[simp] theorem canonical_pair {first : Codec α} {second : Codec β} {value : α × β} :
    (first.pair second).Canonical value ↔
      first.Canonical value.1 ∧ second.Canonical value.2 := Iff.rfl

@[simp] theorem canonical_map {codec : Codec α} {make : α → β} {parts : β → α}
    {parts_make : ∀ a, parts (make a) = a} {make_parts : ∀ b, make (parts b) = b} {value : β} :
    (codec.map make parts parts_make make_parts).Canonical value ↔
      codec.Canonical (parts value) := Iff.rfl

theorem canonical_quad {codec : Codec α} (total : ∀ value, codec.Canonical value)
    (values : Vector α 4) : codec.quad.Canonical values :=
  ⟨total _, total _, total _, total _⟩

theorem canonical_list {codec : Codec α} (total : ∀ value, codec.Canonical value)
    {values : List α} : codec.list.Canonical values ↔ values.length < UInt32.size :=
  and_iff_left fun value _ => total value

end Codec

@[simp] theorem Key.canonical (key : Key) : Key.codec.Canonical key := trivial

@[simp] theorem AssetKey.canonical (key : AssetKey) : AssetKey.codec.Canonical key := trivial

@[simp] theorem Tag.canonical (tag : Tag) : Tag.codec.Canonical tag := trivial

@[simp] theorem Header.canonical (header : Header) : Header.codec.Canonical header := by
  simp [Header.codec]

@[simp] theorem Settings.canonical (settings : Settings) :
    Settings.codec.Canonical settings := by
  simp [Settings.codec]

theorem Config.canonical (config : Config) : (Stored.codec : Codec Config).Canonical config := by
  simp [Stored.codec, Config.codec]

theorem Suspension.canonical (suspension : Suspension) :
    Suspension.codec.Canonical suspension := by
  simp [Suspension.codec]

theorem StatusBoard.canonical (board : StatusBoard) :
    (Stored.codec : Codec StatusBoard).Canonical board := by
  simp [Stored.codec, StatusBoard.codec, Codec.canonical_quad Suspension.canonical]

@[simp] theorem Pot.canonical (pot : Pot) : Pot.codec.Canonical pot := by
  simp [Pot.codec]

theorem FeePeriod.canonical (period : FeePeriod) : FeePeriod.codec.Canonical period := by
  simp [FeePeriod.codec]

theorem PeriodLedger.canonical (ledger : PeriodLedger) :
    (Stored.codec : Codec PeriodLedger).Canonical ledger := by
  simp [Stored.codec, PeriodLedger.codec, Codec.canonical_quad FeePeriod.canonical]

theorem ShareRegistry.canonical (registry : ShareRegistry) :
    (Stored.codec : Codec ShareRegistry).Canonical registry := by
  simp [Stored.codec, ShareRegistry.codec]

@[simp] theorem Checkpoint.canonical (checkpoint : Checkpoint) :
    Checkpoint.codec.Canonical checkpoint := by
  simp [Checkpoint.codec]

theorem RewardPool.canonical (pool : RewardPool) :
    (Stored.codec : Codec RewardPool).Canonical pool := by
  simp [Stored.codec, RewardPool.codec]

theorem OwnershipEntry.canonical (entry : OwnershipEntry) :
    OwnershipEntry.codec.Canonical entry := by
  simp [OwnershipEntry.codec]

theorem Staker.canonical_iff {staker : Staker} :
    (Stored.codec : Codec Staker).Canonical staker ↔
      staker.ownership.entries.length < UInt32.size := by
  simp [Stored.codec, Staker.codec, OwnershipLog.codec,
    Codec.canonical_list OwnershipEntry.canonical]

theorem LiquidationEntry.canonical (entry : LiquidationEntry) :
    (Stored.codec : Codec LiquidationEntry).Canonical entry := by
  simp [Stored.codec, LiquidationEntry.codec]

theorem LiquidationBook.canonical (book : LiquidationBook) :
    (Stored.codec : Codec LiquidationBook).Canonical book := by
  simp [Stored.codec, LiquidationBook.codec]

theorem RateFeed.canonical (feed : RateFeed) :
    (Stored.codec : Codec RateFeed).Canonical feed := by
  simp [Stored.codec, RateFeed.codec]

theorem Approval.canonical (approval : Approval) :
    (Stored.codec : Codec Approval).Canonical approval := by
  simp [Stored.codec, Approval.codec]

end FeeTreasury
