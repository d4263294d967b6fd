import FeeTreasury.Header
import FeeTreasury.Settings

/-!
# Configuration

Who may do what, which token accounts are the vaults, and the settings in force.
-/

namespace FeeTreasury

/-- The configuration account. There is one. -/
structure Config where
  header : Header
  /-- Changes settings and roles, suspends sections, creates feeds, imports history. -/
  authority : Key
  /-- Closes periods with an id and a duration of its own. -/
  relayer : Key
  /-- Reports balances of debt shares. -/
  issuer : Key
  /-- Records fees and rewards. -/
  feeRecorder : Key
  /-- Submits rates. -/
  oracleAuthority : Key
  /-- Holds the fees. -/
  feeVault : Key
  /-- Holds the rewards. -/
  rewardVault : Key
  /-- Holds the collateral, redeemed collateral included. -/
  collateralVault : Key
  /-- Bump of the address that owns the vaults. -/
  vaultAuthorityBump : UInt8
  settings : Settings
  /-- Time of the last change. -/
  lastUpdate : Int64
  deriving DecidableEq, Repr, Inhabited

/-- The three token accounts that the treasury pays from. -/
structure Vaults where
  fee : Key
  reward : Key
  collateral : Key
  deriving DecidableEq, Repr, Inhabited

namespace Config

/-- A configuration in which the authority holds every role. -/
def new (authority : Key) (bump : UInt8) (vaults : Vaults) (vaultAuthorityBump : UInt8)
    (settings : Settings) (now : Int64) : Config where
  header := Header.fresh .config bump
  authority := authority
  relayer := authority
  issuer := authority
  feeRecorder := authority
  oracleAuthority := authority
  feeVault := vaults.fee
  rewardVault := vaults.reward
  collateralVault := vaults.collateral
  vaultAuthorityBump := vaultAuthorityBump
  settings := settings
  lastUpdate := now

/-- Only the authority goes on. -/
def requireAuthority (config : Config) (signer : Key) : Outcome Unit :=
  require (config.authority = signer) .invalidAuthority

end Config

/-- New holders for some of the roles. -/
structure RolesUpdate where
  authority : Option Key
  relayer : Option Key
  issuer : Option Key
  feeRecorder : Option Key
  oracleAuthority : Option Key
  deriving DecidableEq, Repr, Inhabited

namespace RolesUpdate

/-- The configuration after a change of roles: a role that is not mentioned stays. -/
def apply (u : RolesUpdate) (config : Config) : Config :=
  { config with
    authority := u.authority.getD config.authority
    relayer := u.relayer.getD config.relayer
    issuer := u.issuer.getD config.issuer
    feeRecorder := u.feeRecorder.getD config.feeRecorder
    oracleAuthority := u.oracleAuthority.getD config.oracleAuthority }

end RolesUpdate

end FeeTreasury
