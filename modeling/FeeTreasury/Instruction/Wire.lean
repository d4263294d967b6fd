import FeeTreasury.Chain.Failure
import FeeTreasury.Instruction.Basic
import FeeTreasury.Wire.Record

/-!
# Instructions as bytes

An instruction is one byte that numbers it, and then its parameters. Parameters have to take all of
the bytes; an instruction without parameters does not look at what follows its number.
-/

namespace FeeTreasury.Instruction

open Codec

/-- The number of an instruction. -/
def number : Instruction → UInt8
  | setUp .. => 0
  | updateSettings .. => 1
  | updateRoles .. => 2
  | setSuspension .. => 3
  | createFeed .. => 4
  | submitRate .. => 5
  | createStaker => 6
  | recordShares .. => 7
  | recordFee .. => 8
  | recordReward .. => 9
  | closePeriod => 10
  | closeSecondary .. => 11
  | importPeriod .. => 12
  | setApproval .. => 13
  | claimFees => 14
  | claimOnBehalf => 15
  | depositCollateral .. => 16
  | withdrawCollateral .. => 17
  | flagAccount => 18
  | removeFlag => 19
  | liquidateAccount => 20
  | liquidateSelf => 21
  | takeReward => 22

/-- Number, mark, reason. -/
def suspensionCodec : Codec (UInt8 × Bool × UInt16) := u8.pair (bool.pair u16)

/-- Id, duration. -/
def closeCodec : Codec (UInt64 × Int64) := u64.pair i64

/-- Id, start, and the two pots. -/
def historyCodec : Codec PeriodImport :=
  (u64.pair (i64.pair (Pot.codec.pair Pot.codec))).map
    (fun (id, start, fees, rewards) => ⟨id, start, fees, rewards⟩)
    (fun h => (h.id, h.start, h.fees, h.rewards)) (fun _ => rfl) (fun _ => rfl)

/-- Index, history. -/
def importCodec : Codec (UInt8 × PeriodImport) := u8.pair historyCodec

/-- Delegate, mark. -/
def approvalCodec : Codec (Key × Bool) := Key.codec.pair bool

/-- The written form of the parameters of an instruction. -/
def parameters : Instruction → Bytes
  | setUp settings => Settings.codec.encode settings
  | updateSettings update => SettingsUpdate.codec.encode update
  | updateRoles update => RolesUpdate.codec.encode update
  | setSuspension part suspended reason => suspensionCodec.encode (part, suspended, reason)
  | createFeed asset => AssetKey.codec.encode asset
  | submitRate rate => u64.encode rate
  | recordShares shares => u64.encode shares
  | recordFee amount => u64.encode amount
  | recordReward amount => u64.encode amount
  | closeSecondary id duration => closeCodec.encode (id, duration)
  | importPeriod index history => importCodec.encode (index, history)
  | setApproval delegate canClaim => approvalCodec.encode (delegate, canClaim)
  | depositCollateral amount => u64.encode amount
  | withdrawCollateral amount => u64.encode amount
  | createStaker | closePeriod | claimFees | claimOnBehalf | flagAccount | removeFlag
  | liquidateAccount | liquidateSelf | takeReward => []

/-- The written form of an instruction. -/
def pack (instruction : Instruction) : Bytes := instruction.number :: instruction.parameters

/-- An instruction whose parameters are all of the bytes. -/
def withParameters {α : Type} (codec : Codec α) (make : α → Instruction) (bytes : Bytes) :
    Except Failure Instruction :=
  match codec.decodeAll bytes with
  | .ok value => .ok (make value)
  | .error cause => .error (.malformed cause)

/-- Read an instruction. -/
def unpack : Bytes → Except Failure Instruction
  | [] => .error .invalidInstructionData
  | number :: rest =>
    match number.toNat with
    | 0 => withParameters Settings.codec setUp rest
    | 1 => withParameters SettingsUpdate.codec updateSettings rest
    | 2 => withParameters RolesUpdate.codec updateRoles rest
    | 3 => withParameters suspensionCodec (fun (part, suspended, reason) =>
        setSuspension part suspended reason) rest
    | 4 => withParameters AssetKey.codec createFeed rest
    | 5 => withParameters u64 submitRate rest
    | 6 => .ok createStaker
    | 7 => withParameters u64 recordShares rest
    | 8 => withParameters u64 recordFee rest
    | 9 => withParameters u64 recordReward rest
    | 10 => .ok closePeriod
    | 11 => withParameters closeCodec (fun (id, duration) => closeSecondary id duration) rest
    | 12 => withParameters importCodec (fun (index, history) => importPeriod index history) rest
    | 13 => withParameters approvalCodec (fun (delegate, canClaim) => setApproval delegate canClaim)
        rest
    | 14 => .ok claimFees
    | 15 => .ok claimOnBehalf
    | 16 => withParameters u64 depositCollateral rest
    | 17 => withParameters u64 withdrawCollateral rest
    | 18 => .ok flagAccount
    | 19 => .ok removeFlag
    | 20 => .ok liquidateAccount
    | 21 => .ok liquidateSelf
    | 22 => .ok takeReward
    | _ => .error .invalidInstructionData

end FeeTreasury.Instruction
