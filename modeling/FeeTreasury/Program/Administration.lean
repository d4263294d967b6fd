import FeeTreasury.Instruction.Roster
import FeeTreasury.Program.Run
import FeeTreasury.Text.Utf8

/-!
# Administration

The set-up, and what the authority and the oracle authority do: settings, roles, suspensions, feeds,
rates. New stakers are here too; anyone may pay for one.
-/

namespace FeeTreasury.Program

open Exec

/-- Create an account of which there is one, and write its first value. -/
def createSingle {α : Type} [Stored α] (env : Env) (payer target : Key) (place : Place)
    (first : UInt8 → α) : Exec Unit := do
  let bump ← checkPlace env place target
  create env payer target (Stored.size α)
  store target (first bump)

/-- Create the accounts of which there is one. -/
def setUp (env : Env) (r : SetUpRoster) (settings : Settings) : Exec Unit := do
  requireSigner env r.authority
  rule settings.validate
  let vaultBump ← checkPlace env .vaultAuthority r.vaultAuthority
  requireTokenOwner r.feeVault r.vaultAuthority
  requireTokenOwner r.rewardVault r.vaultAuthority
  requireTokenOwner r.collateralVault r.vaultAuthority
  let vaults : Vaults := ⟨r.feeVault, r.rewardVault, r.collateralVault⟩
  createSingle env r.authority r.config .config fun bump =>
    Config.new r.authority bump vaults vaultBump settings env.now
  createSingle env r.authority r.statusBoard .statusBoard StatusBoard.new
  createSingle env r.authority r.periodLedger .periodLedger (PeriodLedger.new env.now)
  createSingle env r.authority r.shareRegistry .shareRegistry ShareRegistry.new
  createSingle env r.authority r.rewardPool .rewardPool RewardPool.new
  createSingle env r.authority r.liquidationBook .liquidationBook LiquidationBook.new
  say s!"Fee pool initialized, fee period 1 open at {env.now.toInt}"

/-- Read the configuration for its authority, who has to have signed. -/
def loadForAuthority (env : Env) (authority config : Key) : Exec Config := do
  requireSigner env authority
  let config : Config ← load env config
  rule (config.requireAuthority authority)
  return config

/-- Change settings. -/
def updateSettings (env : Env) (r : ConfigRoster) (update : SettingsUpdate) : Exec Unit := do
  let config ← loadForAuthority env r.authority r.config
  let settings := update.apply config.settings
  rule settings.validate
  store r.config { config with settings, lastUpdate := env.now }
  say "Settings updated"

/-- Change roles. -/
def updateRoles (env : Env) (r : ConfigRoster) (update : RolesUpdate) : Exec Unit := do
  let config ← loadForAuthority env r.authority r.config
  match update.authority with
  | some key => say ("Authority transferred to " ++ key.text)
  | none => pure ()
  store r.config { update.apply config with lastUpdate := env.now }

/-- Suspend or resume a section. -/
def setSuspension (env : Env) (r : SuspensionRoster) (number : UInt8) (suspended : Bool)
    (reason : UInt16) : Exec Unit := do
  let _ ← loadForAuthority env r.authority r.config
  let part ← rule (Section.ofNumber number)
  let board : StatusBoard ← load env r.statusBoard
  store r.statusBoard (board.setSuspension part suspended reason env.now)
  say s!"Section {part.name} suspended={suspended} reason={reason.toNat}"

/-- Create the feed of an asset. -/
def createFeed (env : Env) (r : NewFeedRoster) (asset : AssetKey) : Exec Unit := do
  let _ ← loadForAuthority env r.authority r.config
  let bump ← checkPlace env (.feed asset) r.feed
  create env r.authority r.feed (Stored.size RateFeed)
  store r.feed (RateFeed.new asset bump)
  say s!"Rate feed {asset.name} created"

/-- Submit a rate. -/
def submitRate (env : Env) (r : RateRoster) (rate : UInt64) : Exec Unit := do
  requireSigner env r.oracleAuthority
  let config : Config ← load env r.config
  check (config.oracleAuthority = r.oracleAuthority) (.refused .notOracleAuthority)
  let feed : RateFeed ← load env r.feed
  let feed ← rule (feed.submit rate env.now)
  store r.feed feed
  say s!"Rate round {feed.round.toNat}: {rate.toNat}"

/-- Create a staker. -/
def createStaker (env : Env) (r : NewStakerRoster) : Exec Unit := do
  requireSigner env r.payer
  let bump ← checkPlace env (.staker r.owner) r.staker
  create env r.payer r.staker (Stored.size Staker)
  store r.staker (Staker.new r.owner bump env.now)
  let registry : ShareRegistry ← load env r.shareRegistry
  store r.shareRegistry { registry with stakerCount := saturatingSucc registry.stakerCount }
  say ("Staker account created for " ++ r.owner.text)

end FeeTreasury.Program
