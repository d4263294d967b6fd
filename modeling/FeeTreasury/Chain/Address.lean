import FeeTreasury.Crypto.Edwards
import FeeTreasury.Crypto.Sha256
import FeeTreasury.Key

/-!
# Program-derived addresses

Every account of the treasury lies at an address of its own, made from a few seeds and the program's
key. The last seed is a bump, chosen so that the address is no point of the curve: then nobody has a
private key for it, and only the program can sign for it.
-/

namespace FeeTreasury

/-- What lies at a derived address. -/
inductive Place where
  | config
  | statusBoard
  | periodLedger
  | shareRegistry
  | rewardPool
  | liquidationBook
  /-- Owner of the vaults. -/
  | vaultAuthority
  /-- Liquidation entry of a staker. -/
  | entry (account : Key)
  /-- Account of a staker. -/
  | staker (owner : Key)
  /-- Feed of an asset. -/
  | feed (asset : AssetKey)
  /-- Approval of a delegate. -/
  | approval (authoriser delegate : Key)
  deriving DecidableEq, Repr

namespace Place

/-- The bytes of a word that serves as a seed. -/
def word (text : String) : Bytes := text.toUTF8.toList

/-- The seeds of a place, without the bump. -/
def seeds : Place → List Bytes
  | config => [word "fee_pool_config"]
  | statusBoard => [word "system_status"]
  | periodLedger => [word "fee_ledger"]
  | shareRegistry => [word "debt_registry"]
  | rewardPool => [word "reward_pool"]
  | liquidationBook => [word "liquidation_book"]
  | vaultAuthority => [word "vault_authority"]
  | entry account => [word "liquidation", account.toList]
  | staker owner => [word "staker", owner.toList]
  | feed asset => [word "rate_feed", asset.toList]
  | approval authoriser delegate => [word "delegate", authoriser.toList, delegate.toList]

end Place

/-- A derived address and the bump that makes it one. -/
structure Address where
  key : Key
  bump : UInt8
  deriving DecidableEq, Repr, Inhabited

namespace Address

/-- The address of some seeds, the bump included, if it is no point of the curve. -/
def derive? (seeds : List Bytes) (program : Key) : Option Key :=
  let hash := Sha256.hash
    (seeds.flatten ++ program.toList ++ Place.word "ProgramDerivedAddress")
  if Edwards.isPoint hash then none else some ⟨hash⟩

/-- The address of some seeds with the greatest bump up to a given one that makes one. -/
def findUpTo? (seeds : List Bytes) (program : Key) : Nat → Option Address
  | 0 => none
  | bump + 1 =>
    match derive? (seeds ++ [[UInt8.ofNat (bump + 1)]]) program with
    | some key => some ⟨key, UInt8.ofNat (bump + 1)⟩
    | none => findUpTo? seeds program bump

/-- The address of some seeds, with the greatest bump that makes one. -/
def find? (seeds : List Bytes) (program : Key) : Option Address := findUpTo? seeds program 255

end Address

namespace Place

/-- The address of a place. -/
def address? (place : Place) (program : Key) : Option Address := Address.find? place.seeds program

/-- The key of the address of a place. -/
def key? (place : Place) (program : Key) : Option Key := (place.address? program).map Address.key

end Place

/-- The addresses of the accounts of which there is one, and of the two feeds. -/
structure Addresses where
  config : Key
  statusBoard : Key
  periodLedger : Key
  shareRegistry : Key
  rewardPool : Key
  liquidationBook : Key
  vaultAuthority : Key
  collateralFeed : Key
  debtFeed : Key
  deriving DecidableEq, Repr, Inhabited

namespace Addresses

/-- The addresses under a program's key. -/
def derive? (program : Key) : Option Addresses := do
  let config ← Place.config.key? program
  let statusBoard ← Place.statusBoard.key? program
  let periodLedger ← Place.periodLedger.key? program
  let shareRegistry ← Place.shareRegistry.key? program
  let rewardPool ← Place.rewardPool.key? program
  let liquidationBook ← Place.liquidationBook.key? program
  let vaultAuthority ← Place.vaultAuthority.key? program
  let collateralFeed ← (Place.feed .collateral).key? program
  let debtFeed ← (Place.feed .totalDebt).key? program
  return ⟨config, statusBoard, periodLedger, shareRegistry, rewardPool, liquidationBook,
    vaultAuthority, collateralFeed, debtFeed⟩

end Addresses

end FeeTreasury
