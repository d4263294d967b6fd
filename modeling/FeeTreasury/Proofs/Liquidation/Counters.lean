import FeeTreasury.Liquidation.Rules
import FeeTreasury.Proofs.Answer

/-!
# What the book of liquidations counts

A flag opens an entry and counts it among the open ones and among all flags; what closes an entry
takes it out of the open ones and counts it among the removals or the liquidations. So the flags are
the open entries, the removals and the liquidations together, as long as no counter is full
(`FeeTreasury.LiquidationBook.Counts`). An entry that is closed, whatever was done with it before,
is as good as new (`FeeTreasury.LiquidationEntry.Tidy`).
-/

namespace FeeTreasury

open Outcome

theorem toNat_saturatingSucc_of_lt {a : UInt64} (fits : a.toNat + 1 < UInt64.size) :
    (saturatingSucc a).toNat = a.toNat + 1 := by
  rw [saturatingSucc, if_pos fits, UInt64.toNat_add]
  exact Nat.mod_eq_of_lt fits

theorem toNat_saturatingPred (a : UInt64) : (saturatingPred a).toNat = a.toNat - 1 :=
  toNat_saturatingSub a 1

namespace LiquidationBook

/-- The book counts some open entries, and flags that are these, the removals and the liquidations
together, and no more than there were. -/
structure Counts (book : LiquidationBook) (entries flags : Nat) : Prop where
  active : book.activeEntries.toNat = entries
  flagged : book.totalFlagged.toNat =
    book.activeEntries.toNat + book.totalRemoved.toNat + book.totalLiquidated.toNat
  flagged_le : book.totalFlagged.toNat ≤ flags

variable {book : LiquidationBook} {entries flags : Nat}

theorem counts_new (bump : UInt8) (flags : Nat) : (new bump).Counts 0 flags where
  active := rfl
  flagged := rfl
  flagged_le := Nat.zero_le flags

theorem Counts.mono (counts : book.Counts entries flags) {more : Nat} (le : flags ≤ more) :
    book.Counts entries more :=
  { counts with flagged_le := Nat.le_trans counts.flagged_le le }

/-- A book that counts one more flag and one more open entry. -/
theorem Counts.flag (counts : book.Counts entries flags) (few : flags + 1 < UInt64.size) :
    Counts { book with
      activeEntries := saturatingSucc book.activeEntries
      totalFlagged := saturatingSucc book.totalFlagged } (entries + 1) (flags + 1) := by
  have total := counts.flagged
  have within := counts.flagged_le
  have active := toNat_saturatingSucc_of_lt (a := book.activeEntries) (by omega)
  have flagged := toNat_saturatingSucc_of_lt (a := book.totalFlagged) (by omega)
  refine ⟨?_, ?_, ?_⟩
  · rw [active, counts.active]
  · dsimp only
    omega
  · dsimp only
    omega

/-- A book that counts one open entry less, as removed or as liquidated. -/
theorem Counts.close (counts : book.Counts (entries + 1) flags) {entry : LiquidationEntry}
    (active : entry.active = true) (liquidated : Bool) :
    (book.closeEntry entry liquidated).1.Counts entries flags := by
  have one := counts.active
  have total := counts.flagged
  have left := toNat_saturatingPred book.activeEntries
  have small : book.totalFlagged.toNat < UInt64.size := book.totalFlagged.toNat_lt
  unfold closeEntry
  rw [if_pos active]
  -- The open entry makes room for one more removal or liquidation.
  cases liquidated with
  | false =>
    have removed := toNat_saturatingSucc_of_lt (a := book.totalRemoved) (by omega)
    refine ⟨?_, ?_, counts.flagged_le⟩
    · show (saturatingPred book.activeEntries).toNat = entries
      omega
    · show book.totalFlagged.toNat = (saturatingPred book.activeEntries).toNat +
        (saturatingSucc book.totalRemoved).toNat + book.totalLiquidated.toNat
      omega
  | true =>
    have settled := toNat_saturatingSucc_of_lt (a := book.totalLiquidated) (by omega)
    refine ⟨?_, ?_, counts.flagged_le⟩
    · show (saturatingPred book.activeEntries).toNat = entries
      omega
    · show book.totalFlagged.toNat = (saturatingPred book.activeEntries).toNat +
        book.totalRemoved.toNat + (saturatingSucc book.totalLiquidated).toNat
      omega

end LiquidationBook

namespace LiquidationEntry

/-- An entry whose flag, if it has one, was raised before its deadline and says truly whether the
account has flagged itself; without a flag it is as good as new. -/
structure Tidy (entry : LiquidationEntry) : Prop where
  due : entry.active = true → entry.flaggedAt ≤ entry.deadline
  own : entry.active = true → (entry.bySelf = true ↔ entry.flagger = entry.account)
  closed : entry.active = false → entry.cleared = entry

theorem tidy_cleared (entry : LiquidationEntry) : entry.cleared.Tidy :=
  ⟨nofun, nofun, fun _ => rfl⟩

end LiquidationEntry

namespace LiquidationRecords

variable {records after : LiquidationRecords} {settings : Settings} {position : Position}

/-- What a flag changes: an entry that was closed is opened, and both are counted. -/
theorem flag_parts {flagger : Key} {now deadline : Int64} (ahead : 0 ≤ settings.liquidationDelay)
    (flagged : records.flag settings flagger position now = .ok (after, deadline)) :
    records.entry.active = false ∧ after.entry.active = true ∧ after.entry.Tidy ∧
      after.entry.account = records.entry.account ∧
      after.entry.cleared = records.entry.cleared ∧
      after.book = { records.book with
        activeEntries := saturatingSucc records.book.activeEntries
        totalFlagged := saturatingSucc records.book.totalFlagged } := by
  simp only [flag, LiquidationBook.openEntry, bind_eq_ok, pure_eq_ok, require_eq_ok,
    Bool.not_eq_true', Prod.mk.injEq] at flagged
  obtain ⟨_, _, _, closed, _, _, _, timed, _, ⟨_, _, rfl⟩, rfl, rfl⟩ := flagged
  refine ⟨closed, rfl, ⟨fun _ => ?_, fun _ => ?_, nofun⟩, rfl, rfl, rfl⟩
  · have due := toInt_of_fitTime timed
    rw [Int64.le_iff_toInt_le] at ahead ⊢
    show now.toInt ≤ _
    rw [due]
    exact Int.le_add_of_nonneg_right ahead
  · exact decide_eq_true_iff.trans eq_comm

theorem close_of_active (active : records.entry.active = true) (liquidated : Bool) :
    (records.close liquidated).1.entry = records.entry.cleared ∧
      (records.close liquidated).1.book =
        (records.book.closeEntry records.entry liquidated).1 := by
  unfold close LiquidationBook.closeEntry
  rw [if_pos active]
  exact ⟨rfl, rfl⟩

/-- A removal that is carried out closes an open entry. -/
theorem removed_eq (answered : records.removeIfHealthy settings position = .ok (after, true)) :
    records.entry.active = true ∧ after = (records.close false).1 := by
  simp only [removeIfHealthy, bind_eq_ok, ite_eq_ok, pure_eq_ok, require_eq_ok, Prod.mk.injEq,
    Bool.false_eq_true, and_false, false_or] at answered
  obtain ⟨_, _, _, active, _, closed⟩ := answered
  exact ⟨active, (congrArg Prod.fst closed).symm⟩

end LiquidationRecords

end FeeTreasury
