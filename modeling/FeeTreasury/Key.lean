/-!
# Keys

The fixed-length byte strings of the chain: account keys, asset keys, and the tags that open the
data of every account of the treasury.
-/

namespace FeeTreasury

/-- A string of bytes of any length. -/
abbrev Bytes := List UInt8

/-- The key of an account, a program or a signer. -/
structure Key where
  bytes : Vector UInt8 32
  deriving DecidableEq, Repr

namespace Key

/-- The key of 32 zero bytes. It is also the key of the chain's system program. -/
def zero : Key := ⟨Vector.replicate 32 0⟩

instance : Inhabited Key := ⟨zero⟩

/-- The bytes of a key, in order. -/
def toList (key : Key) : Bytes := key.bytes.toList

end Key

/-- The program that owns every account which no other program has taken. -/
def systemProgram : Key := Key.zero

/-- The token program. -/
def tokenProgram : Key :=
  ⟨#v[6, 221, 246, 225, 215, 101, 161, 147, 217, 203, 225, 70, 206, 235, 121, 172,
    28, 180, 133, 237, 95, 91, 55, 145, 58, 140, 245, 133, 126, 255, 0, 169]⟩

/-- The eight bytes that name an asset with a rate feed. -/
structure AssetKey where
  bytes : Vector UInt8 8
  deriving DecidableEq, Repr

namespace AssetKey

/-- The collateral token, "COLLATRL". Its rate is the price in dollars. -/
def collateral : AssetKey := ⟨#v[67, 79, 76, 76, 65, 84, 82, 76]⟩

/-- The total debt of the system, "TOTLDEBT". Its rate is the debt in dollars. -/
def totalDebt : AssetKey := ⟨#v[84, 79, 84, 76, 68, 69, 66, 84]⟩

instance : Inhabited AssetKey := ⟨collateral⟩

/-- The bytes of an asset key, in order. -/
def toList (key : AssetKey) : Bytes := key.bytes.toList

end AssetKey

/-- The eight bytes that say of which type the data of an account is. -/
structure Tag where
  bytes : Vector UInt8 8
  deriving DecidableEq, Repr

namespace Tag

instance : Inhabited Tag := ⟨⟨Vector.replicate 8 0⟩⟩

/-- "FEE_CONF" -/
def config : Tag := ⟨#v[70, 69, 69, 95, 67, 79, 78, 70]⟩

/-- "SYS_STAT" -/
def statusBoard : Tag := ⟨#v[83, 89, 83, 95, 83, 84, 65, 84]⟩

/-- "FEE_LEDG" -/
def periodLedger : Tag := ⟨#v[70, 69, 69, 95, 76, 69, 68, 71]⟩

/-- "DEBT_REG" -/
def shareRegistry : Tag := ⟨#v[68, 69, 66, 84, 95, 82, 69, 71]⟩

/-- "RWD_POOL" -/
def rewardPool : Tag := ⟨#v[82, 87, 68, 95, 80, 79, 79, 76]⟩

/-- "LIQ_BOOK" -/
def liquidationBook : Tag := ⟨#v[76, 73, 81, 95, 66, 79, 79, 75]⟩

/-- "LIQ_ENTR" -/
def liquidationEntry : Tag := ⟨#v[76, 73, 81, 95, 69, 78, 84, 82]⟩

/-- "STAKER__" -/
def staker : Tag := ⟨#v[83, 84, 65, 75, 69, 82, 95, 95]⟩

/-- "RATE_FDD" -/
def rateFeed : Tag := ⟨#v[82, 65, 84, 69, 95, 70, 68, 68]⟩

/-- "DELEGATE" -/
def approval : Tag := ⟨#v[68, 69, 76, 69, 71, 65, 84, 69]⟩

end Tag

end FeeTreasury
