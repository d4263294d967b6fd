import FeeTreasury.Approval
import FeeTreasury.Config
import FeeTreasury.Liquidation.Book
import FeeTreasury.PeriodLedger
import FeeTreasury.RateFeed
import FeeTreasury.ShareRegistry
import FeeTreasury.Staker
import FeeTreasury.StatusBoard
import FeeTreasury.Wire.Codec

/-!
# Written forms of the treasury's records

Each record is written field by field, in a fixed order.
-/

namespace FeeTreasury

open Codec

/-- Tag, mark, bump. -/
def Header.codec : Codec Header :=
  (Tag.codec.pair (bool.pair u8)).map
    (fun (tag, initialized, bump) => ⟨tag, initialized, bump⟩)
    (fun h => (h.tag, h.initialized, h.bump))
    (fun _ => rfl) (fun _ => rfl)

/-- The settings in the order of the structure. -/
def Settings.codec : Codec Settings :=
  (i64.pair (u64.pair (u64.pair (u64.pair (i64.pair (u64.pair (u64.pair (u64.pair (u64.pair
    (i64.pair i64)))))))))).map
    (fun (a, b, c, d, e, f, g, h, i, j, k) => ⟨a, b, c, d, e, f, g, h, i, j, k⟩)
    (fun s => (s.periodDuration, s.issuanceRatio, s.targetThreshold, s.liquidationRatio,
      s.liquidationDelay, s.liquidationPenalty, s.selfLiquidationPenalty, s.flagReward,
      s.liquidateReward, s.rateStalePeriod, s.debtStalePeriod))
    (fun _ => rfl) (fun _ => rfl)

/-- An update in the order of the settings. -/
def SettingsUpdate.codec : Codec SettingsUpdate :=
  (i64.option.pair (u64.option.pair (u64.option.pair (u64.option.pair (i64.option.pair
    (u64.option.pair (u64.option.pair (u64.option.pair (u64.option.pair
    (i64.option.pair i64.option)))))))))).map
    (fun (a, b, c, d, e, f, g, h, i, j, k) => ⟨a, b, c, d, e, f, g, h, i, j, k⟩)
    (fun s => (s.periodDuration, s.issuanceRatio, s.targetThreshold, s.liquidationRatio,
      s.liquidationDelay, s.liquidationPenalty, s.selfLiquidationPenalty, s.flagReward,
      s.liquidateReward, s.rateStalePeriod, s.debtStalePeriod))
    (fun _ => rfl) (fun _ => rfl)

/-- Authority first, then the other roles. -/
def RolesUpdate.codec : Codec RolesUpdate :=
  (Key.codec.option.pair (Key.codec.option.pair (Key.codec.option.pair (Key.codec.option.pair
    Key.codec.option)))).map
    (fun (a, b, c, d, e) => ⟨a, b, c, d, e⟩)
    (fun r => (r.authority, r.relayer, r.issuer, r.feeRecorder, r.oracleAuthority))
    (fun _ => rfl) (fun _ => rfl)

/-- Header, roles, vaults, the vaults' bump, settings, time. -/
def Config.codec : Codec Config :=
  (Header.codec.pair (Key.codec.pair (Key.codec.pair (Key.codec.pair (Key.codec.pair
    (Key.codec.pair (Key.codec.pair (Key.codec.pair (Key.codec.pair (u8.pair
    (Settings.codec.pair i64))))))))))).map
    (fun (a, b, c, d, e, f, g, h, i, j, k, l) => ⟨a, b, c, d, e, f, g, h, i, j, k, l⟩)
    (fun c => (c.header, c.authority, c.relayer, c.issuer, c.feeRecorder, c.oracleAuthority,
      c.feeVault, c.rewardVault, c.collateralVault, c.vaultAuthorityBump, c.settings, c.lastUpdate))
    (fun _ => rfl) (fun _ => rfl)

/-- Mark, reason. -/
def Suspension.codec : Codec Suspension :=
  (bool.pair u16).map (fun (suspended, reason) => ⟨suspended, reason⟩)
    (fun s => (s.suspended, s.reason)) (fun _ => rfl) (fun _ => rfl)

/-- Header, sections, time. -/
def StatusBoard.codec : Codec StatusBoard :=
  (Header.codec.pair (Suspension.codec.quad.pair i64)).map
    (fun (header, sections, lastUpdate) => ⟨header, sections, lastUpdate⟩)
    (fun b => (b.header, b.sections, b.lastUpdate)) (fun _ => rfl) (fun _ => rfl)

/-- Total, claimed. -/
def Pot.codec : Codec Pot :=
  (u64.pair u64).map (fun (total, claimed) => ⟨total, claimed⟩) (fun p => (p.total, p.claimed))
    (fun _ => rfl) (fun _ => rfl)

/-- A period in the order of the structure. -/
def FeePeriod.codec : Codec FeePeriod :=
  (u64.pair (i64.pair (i64.pair (Pot.codec.pair (Pot.codec.pair (u128.pair (u128.pair
    u64))))))).map
    (fun (a, b, c, d, e, f, g, h) => ⟨a, b, c, d, e, f, g, h⟩)
    (fun p => (p.id, p.start, p.duration, p.fees, p.rewards, p.startingIndex, p.closingIndex,
      p.coveredSeconds))
    (fun _ => rfl) (fun _ => rfl)

/-- Header, slots, head, and the measures of time. -/
def PeriodLedger.codec : Codec PeriodLedger :=
  (Header.codec.pair (FeePeriod.codec.quad.pair (u8.pair (u128.pair (u128.pair (u64.pair (i64.pair
    (i64.pair u64)))))))).map
    (fun (a, b, c, d, e, f, g, h, i) => ⟨a, b, c, d, e, f, g, h, i⟩)
    (fun l => (l.header, l.periods, l.head, l.ownershipIndex, l.ownershipCarry,
      l.openCoveredSeconds, l.lastAccrual, l.setupExpiry, l.closedCount))
    (fun _ => rfl) (fun _ => rfl)

/-- Header, supply, count, time. -/
def ShareRegistry.codec : Codec ShareRegistry :=
  (Header.codec.pair (u64.pair (u64.pair i64))).map
    (fun (a, b, c, d) => ⟨a, b, c, d⟩)
    (fun r => (r.header, r.supply, r.stakerCount, r.lastUpdate)) (fun _ => rfl) (fun _ => rfl)

/-- Reward per share, accrued. -/
def Checkpoint.codec : Codec Checkpoint :=
  (u128.pair u64).map (fun (a, b) => ⟨a, b⟩) (fun c => (c.creditedUpTo, c.accrued))
    (fun _ => rfl) (fun _ => rfl)

/-- Header, reward per share, and the four amounts. -/
def RewardPool.codec : Codec RewardPool :=
  (Header.codec.pair (u128.pair (u64.pair (u64.pair (u64.pair u64))))).map
    (fun (a, b, c, d, e, f) => ⟨a, b, c, d, e, f⟩)
    (fun p => (p.header, p.rewardPerShare, p.undistributed, p.balance, p.totalDeposited,
      p.totalPaid))
    (fun _ => rfl) (fun _ => rfl)

/-- An entry in the order of the structure. -/
def OwnershipEntry.codec : Codec OwnershipEntry :=
  (i64.pair (u64.pair (u64.pair (u64.pair (u128.pair u128))))).map
    (fun (a, b, c, d, e, f) => ⟨a, b, c, d, e, f⟩)
    (fun e => (e.time, e.periodId, e.shares, e.fraction, e.index, e.carried))
    (fun _ => rfl) (fun _ => rfl)

/-- The entries, after their number. -/
def OwnershipLog.codec : Codec OwnershipLog :=
  OwnershipEntry.codec.list.map OwnershipLog.mk OwnershipLog.entries (fun _ => rfl) (fun _ => rfl)

/-- A staker in the order of the structure. -/
def Staker.codec : Codec Staker :=
  (Header.codec.pair (Key.codec.pair (u64.pair (u64.pair (u64.pair (Checkpoint.codec.pair
    (OwnershipLog.codec.pair i64))))))).map
    (fun (a, b, c, d, e, f, g, h) => ⟨a, b, c, d, e, f, g, h⟩)
    (fun s => (s.header, s.owner, s.shares, s.collateral, s.lastClaimed, s.rewards, s.ownership,
      s.createdAt))
    (fun _ => rfl) (fun _ => rfl)

/-- Header, asset, rate, time, round. -/
def RateFeed.codec : Codec RateFeed :=
  (Header.codec.pair (AssetKey.codec.pair (u64.pair (i64.pair u64)))).map
    (fun (a, b, c, d, e) => ⟨a, b, c, d, e⟩)
    (fun f => (f.header, f.asset, f.rate, f.updatedAt, f.round)) (fun _ => rfl) (fun _ => rfl)

/-- Header, authoriser, delegate, mark. -/
def Approval.codec : Codec Approval :=
  (Header.codec.pair (Key.codec.pair (Key.codec.pair bool))).map
    (fun (a, b, c, d) => ⟨a, b, c, d⟩)
    (fun p => (p.header, p.authoriser, p.delegate, p.canClaim)) (fun _ => rfl) (fun _ => rfl)

/-- An entry in the order of the structure. -/
def LiquidationEntry.codec : Codec LiquidationEntry :=
  (Header.codec.pair (Key.codec.pair (bool.pair (i64.pair (Key.codec.pair (bool.pair
    i64)))))).map
    (fun (a, b, c, d, e, f, g) => ⟨a, b, c, d, e, f, g⟩)
    (fun e => (e.header, e.account, e.active, e.deadline, e.flagger, e.bySelf, e.flaggedAt))
    (fun _ => rfl) (fun _ => rfl)

/-- Header and the four counts. -/
def LiquidationBook.codec : Codec LiquidationBook :=
  (Header.codec.pair (u64.pair (u64.pair (u64.pair u64)))).map
    (fun (a, b, c, d, e) => ⟨a, b, c, d, e⟩)
    (fun b => (b.header, b.activeEntries, b.totalFlagged, b.totalRemoved, b.totalLiquidated))
    (fun _ => rfl) (fun _ => rfl)

end FeeTreasury
