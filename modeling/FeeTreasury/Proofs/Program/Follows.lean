import FeeTreasury.Proofs.Claiming
import FeeTreasury.Proofs.Ownership.Lookup
import FeeTreasury.Proofs.Program.Writes
import FeeTreasury.Proofs.Treasury.Course

/-!
# What the rules leave alone

No rule changes the header of a record, or what its place depends on; so what a rule gives can be
stored over what it was given (`FeeTreasury.Follows`). The log of a staker grows to six entries at
most, and four bytes can count them. The first values of the accounts are here as well.
-/

namespace FeeTreasury

open Outcome

namespace PeriodLedger

variable {ledger after : PeriodLedger}

theorem follows_of_header (header : after.header = ledger.header) : Follows ledger after :=
  ⟨header, rfl, fun _ => after.canonical⟩

theorem header_accrue {now : Int64} {supply : UInt64}
    (accrued : ledger.accrue now supply = .ok after) : after.header = ledger.header := by
  simp only [accrue, ite_eq_ok, bind_eq_ok, pure_eq_ok] at accrued
  obtain ⟨_, rfl⟩ | ⟨_, _, _, ⟨_, rfl⟩ | ⟨_, _, _, _, _, _, _, rfl⟩⟩ := accrued <;> rfl

theorem header_modifyPeriod {index : Nat} {change : FeePeriod → Outcome FeePeriod}
    (modified : ledger.modifyPeriod index change = .ok after) : after.header = ledger.header := by
  obtain ⟨_, _, _, rfl⟩ := modifyPeriod_eq_ok.mp modified
  rfl

theorem follows_recordFee {amount : UInt64} (recorded : ledger.recordFee amount = .ok after) :
    Follows ledger after := by
  obtain ⟨_, _, rfl⟩ := recordFee_eq_ok recorded
  exact follows_of_header rfl

theorem follows_recordReward {amount : UInt64} (recorded : ledger.recordReward amount = .ok after) :
    Follows ledger after := by
  obtain ⟨_, _, rfl⟩ := recordReward_eq_ok recorded
  exact follows_of_header rfl

theorem header_rotate {now duration : Int64} {supply id : UInt64}
    (rotated : ledger.rotate now duration supply = .ok (after, id)) :
    after.header = ledger.header := by
  rw [rotate_eq] at rotated
  simp only [bind_eq_ok, pure_eq_ok, Prod.mk.injEq] at rotated
  obtain ⟨accrued, brought, _, _, _, _, rfl, _⟩ := rotated
  have same : accrued.header = ledger.header := header_accrue brought
  exact same

theorem follows_closeCurrent {now duration : Int64} {supply id : UInt64}
    (closed : ledger.closeCurrent now duration supply = .ok (after, id)) :
    Follows ledger after := by
  obtain ⟨_, rotated⟩ := rotate_of_closeCurrent closed
  exact follows_of_header (header_rotate rotated)

theorem follows_closeFromRelayer {now duration configured : Int64} {given supply id : UInt64}
    (closed : ledger.closeFromRelayer now given duration configured supply = .ok (after, id)) :
    Follows ledger after := by
  obtain ⟨_, rotated⟩ := rotate_of_closeFromRelayer closed
  exact follows_of_header (header_rotate rotated)

theorem follows_importPeriod {now : Int64} {index : Nat} {history : PeriodImport}
    (imported : ledger.importPeriod now index history = .ok after) : Follows ledger after := by
  simp only [importPeriod, bind_eq_ok] at imported
  obtain ⟨_, _, _, _, modified⟩ := imported
  exact follows_of_header (header_modifyPeriod modified)

theorem header_mark {index : Nat} {amount : Entitlement}
    (marked : ledger.mark index amount = .ok after) : after.header = ledger.header := by
  simp only [mark, ite_eq_ok, pure_eq_ok] at marked
  rcases marked with ⟨_, rfl⟩ | ⟨_, recorded⟩
  · rfl
  · exact header_modifyPeriod recorded

theorem follows_markAll {first second third : Entitlement}
    (marked : ledger.markAll first second third = .ok after) : Follows ledger after := by
  simp only [markAll, bind_eq_ok] at marked
  obtain ⟨_, oldest, _, middle, youngest⟩ := marked
  exact follows_of_header
    ((header_mark youngest).trans ((header_mark middle).trans (header_mark oldest)))

end PeriodLedger

namespace OwnershipLog

theorem length_push_le {log : OwnershipLog} {entry : OwnershipEntry} :
    (log.push entry).entries.length ≤ max log.entries.length ownershipDepth := by
  simp only [push]
  split
  · simp only [List.length_drop, List.length_append, List.length_singleton]
    exact Nat.le_max_left ..
  · exact Nat.le_trans (Nat.not_lt.mp ‹_›) (Nat.le_max_right ..)

theorem length_recordChange_le {log after : OwnershipLog} {now : Int64} {period : FeePeriod}
    {index : UInt128} {shares supply : UInt64}
    (recorded : log.recordChange now period index shares supply = .ok after) :
    after.entries.length ≤ max log.entries.length ownershipDepth := by
  simp only [recordChange, bind_eq_ok] at recorded
  obtain ⟨_, _, recorded⟩ := recorded
  rcases log.eq_empty_or_snoc with rfl | ⟨older, last, rfl⟩
  · simp only [latest, empty, List.getLast?_nil, bind_eq_ok, pure_eq_ok] at recorded
    obtain ⟨_, _, rfl⟩ := recorded
    exact length_push_le
  · simp only [latest_snoc, ite_eq_ok, bind_eq_ok, pure_eq_ok, replaceLast_snoc] at recorded
    obtain ⟨_, _, _, _, _, rfl⟩ | ⟨_, _, _, rfl⟩ := recorded
    · simp only [snoc, List.length_append, List.length_singleton]
      exact Nat.le_max_left ..
    · exact length_push_le

end OwnershipLog

namespace Staker

theorem follows_of_ownership {staker after : Staker} (header : after.header = staker.header)
    (owner : after.owner = staker.owner)
    (length : after.ownership.entries.length ≤
      max staker.ownership.entries.length ownershipDepth) : Follows staker after where
  header := header
  place := congrArg Place.staker owner
  canonical counted := by
    rw [canonical_iff] at counted ⊢
    exact Nat.lt_of_le_of_lt length (Nat.max_lt.mpr ⟨counted, by decide⟩)

end Staker

namespace ShareBooks

variable {books after : ShareBooks} {pool left : RewardPool} {now : Int64}

/-- A change of shares and a liquidation keep what the places of the books depend on. -/
structure Follow (books after : ShareBooks) : Prop where
  ledger : Follows books.ledger after.ledger
  registry : Follows books.registry after.registry
  staker : Follows books.staker after.staker

theorem follow_setShares {balance : UInt64}
    (changed : books.setShares pool balance now = .ok after) : books.Follow after := by
  simp only [setShares, bind_eq_ok, pure_eq_ok] at changed
  obtain ⟨ledger, accrued, _, _, _, _, _, _, ownership, logged, rfl⟩ := changed
  exact ⟨PeriodLedger.follows_of_header (PeriodLedger.header_accrue accrued),
    ⟨rfl, rfl, fun _ => ShareRegistry.canonical _⟩,
    Staker.follows_of_ownership rfl rfl (OwnershipLog.length_recordChange_le logged)⟩

end ShareBooks

namespace Claiming

variable {terms : ClaimTerms} {books after : ClaimBooks} {claimed : Entitlement}

/-- What a claim leaves can be stored over what it was given. The staker's collateral and shares are
what they were. -/
structure Settles (books after : ClaimBooks) : Prop where
  ledger : Follows books.ledger after.ledger
  staker : ∃ lastClaimed, after.staker = { books.staker with lastClaimed }

theorem Settles.follows_staker (settles : Settles books after) :
    Follows books.staker after.staker := by
  obtain ⟨_, same⟩ := settles.staker
  rw [same]
  exact Staker.follows_of_ownership rfl rfl (Nat.le_max_left ..)

theorem settles_of_claim (answered : claim terms books = .ok claimed after) :
    Settles books after := by
  obtain ⟨_, _, _, _, _, _, _, _, marked, staker⟩ := claim_eq_ok answered
  exact ⟨PeriodLedger.follows_markAll marked, _, staker⟩

theorem settles_of_claimOnBehalf {approval : Approval} {delegate : Key}
    (answered : claimOnBehalf approval delegate terms books = .ok claimed after) :
    Settles books after :=
  settles_of_claim (claimOnBehalf_eq_ok answered).2

end Claiming

namespace RewardPool

variable {pool after : RewardPool}

theorem follows_of_header (header : after.header = pool.header) : Follows pool after :=
  ⟨header, rfl, fun _ => after.canonical⟩

theorem follows_deposit {amount supply : UInt64}
    (deposited : pool.deposit amount supply = .ok after) : Follows pool after := by
  simp only [deposit, ite_eq_ok, bind_eq_ok, pure_eq_ok] at deposited
  obtain ⟨_, rfl⟩ | ⟨_, _, _, _, _, _, _, ⟨_, rfl⟩ | ⟨_, _, _, _, _, rfl⟩⟩ := deposited <;>
    exact follows_of_header rfl

theorem follows_takeReward {checkpoint left : Checkpoint} {shares amount : UInt64}
    (taken : pool.takeReward checkpoint shares = .ok (after, left, amount)) :
    Follows pool after := by
  simp only [takeReward, bind_eq_ok, ite_eq_ok, pure_eq_ok, Prod.mk.injEq] at taken
  obtain ⟨_, _, ⟨_, rfl, _⟩ | ⟨_, _, _, _, _, rfl, _⟩⟩ := taken <;> exact follows_of_header rfl

end RewardPool

namespace ShareBooks

theorem follow_liquidate {books after : ShareBooks} {pool left : RewardPool}
    {plan : LiquidationPlan} {now : Int64}
    (liquidated : books.liquidate pool plan now = .ok (after, left)) :
    books.Follow after ∧ Follows pool left := by
  obtain ⟨_, balance, _, changed, deposited⟩ := liquidate_parts liquidated
  obtain ⟨ledger, registry, staker⟩ := follow_setShares changed
  -- The staker whose collateral was taken has the header, the owner and the log of the staker.
  exact ⟨⟨ledger, registry, staker.header, staker.place, staker.canonical⟩,
    RewardPool.follows_deposit deposited⟩

end ShareBooks

namespace LiquidationRecords

variable {records after : LiquidationRecords}

/-- What is done with an entry and the book keeps what their places depend on. -/
structure Follow (records after : LiquidationRecords) : Prop where
  book : Follows records.book after.book
  entry : Follows records.entry after.entry

theorem follow_of {records after : LiquidationRecords}
    (book : after.book.header = records.book.header)
    (header : after.entry.header = records.entry.header)
    (account : after.entry.account = records.entry.account) : records.Follow after where
  book := ⟨book, rfl, fun _ => after.book.canonical⟩
  entry := ⟨header, congrArg Place.entry account, fun _ => after.entry.canonical⟩

theorem follow_close (records : LiquidationRecords) (liquidated : Bool) :
    records.Follow (records.close liquidated).1 := by
  unfold close LiquidationBook.closeEntry
  cases records.entry.active <;> cases liquidated <;> exact follow_of rfl rfl rfl

theorem follow_flag {settings : Settings} {flagger : Key} {position : Position}
    {now deadline : Int64}
    (flagged : records.flag settings flagger position now = .ok (after, deadline)) :
    records.Follow after := by
  simp only [flag, LiquidationBook.openEntry, bind_eq_ok, pure_eq_ok, Prod.mk.injEq] at flagged
  obtain ⟨_, _, _, _, _, _, _, _, _, ⟨_, _, rfl⟩, rfl, _⟩ := flagged
  exact follow_of rfl rfl rfl

theorem follow_removeIfHealthy {settings : Settings} {position : Position} {removed : Bool}
    (answered : records.removeIfHealthy settings position = .ok (after, removed)) :
    records.Follow after := by
  simp only [removeIfHealthy, bind_eq_ok, ite_eq_ok, pure_eq_ok] at answered
  obtain ⟨_, _, _, _, ⟨_, same⟩ | ⟨_, same⟩⟩ := answered
  · obtain ⟨rfl, _⟩ := Prod.mk.inj same
    exact follow_of rfl rfl rfl
  · rw [← show (records.close false).1 = after from congrArg Prod.fst same]
    exact records.follow_close false

theorem active_of_removeIfHealthy {settings : Settings} {position : Position} {removed : Bool}
    (answered : records.removeIfHealthy settings position = .ok (after, removed)) :
    records.entry.active = true := by
  simp only [removeIfHealthy, bind_eq_ok, require_eq_ok] at answered
  obtain ⟨_, _, _, active, _⟩ := answered
  exact active

/-- A mark that an entry was open tells the truth. -/
theorem close_snd (records : LiquidationRecords) (liquidated : Bool) :
    (records.close liquidated).2 = records.entry.active := by
  unfold close LiquidationBook.closeEntry
  cases active : records.entry.active <;> rfl

end LiquidationRecords

theorem LiquidationEntry.active_of_checkLiquidatable {entry : LiquidationEntry}
    {settings : Settings} {position : Position} {now : Int64} {u : Unit}
    (due : entry.checkLiquidatable settings position now = .ok u) : entry.active = true := by
  simp only [LiquidationEntry.checkLiquidatable, bind_eq_ok, require_eq_ok] at due
  obtain ⟨_, _, _, active, _⟩ := due
  exact active

theorem RateFeed.follows_submit {feed after : RateFeed} {rate : UInt64} {now : Int64}
    (submitted : feed.submit rate now = .ok after) : Follows feed after := by
  simp only [RateFeed.submit, bind_eq_ok, pure_eq_ok] at submitted
  obtain ⟨_, _, rfl⟩ := submitted
  exact ⟨rfl, rfl, fun _ => RateFeed.canonical _⟩

/-! ## First values -/

theorem Place.key?_of_address? {place : Place} {program key : Key} {bump : UInt8}
    (lies : place.address? program = some ⟨key, bump⟩) : place.key? program = some key := by
  rw [Place.key?, lies]
  rfl

section First

variable {α : Type} [Stored α] [Recorded α] {program key : Key} {bump : UInt8} {value : α}

/-- A value with a fresh header begins an account at the address of its place. -/
theorem begins_of_fresh {place : Place} (lies : place.address? program = some ⟨key, bump⟩)
    (placed : (record value).place = place)
    (fresh : Stored.header value = Header.fresh (Stored.tag α) bump)
    (canonical : Stored.codec.Canonical value) : Begins program key value where
  valid := by
    rw [Stored.validate_eq_ok, fresh]
    exact ⟨rfl, rfl⟩
  place := placed ▸ Place.key?_of_address? lies
  canonical := canonical

end First

end FeeTreasury
