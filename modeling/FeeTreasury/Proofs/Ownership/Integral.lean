import FeeTreasury.Proofs.Ownership.Lookup
import FeeTreasury.Proofs.Treasury.Course

/-!
# What balances gather over a run

A step of a run gathers, for the period that is open, the balance in force times the growth of the
ownership index. The log of a staker follows these numbers: what it gives for the open period up to
now, and for each closed period that is retained, is what the steps gathered in it
(`FeeTreasury.Treasury.Run.follows`, `FeeTreasury.Treasury.Run.shareSecondsIn_eq_fit128`). An
accrual adds to the open period only, a change of the balance carries what was gathered, and a close
makes the open period a closed one.
-/

namespace FeeTreasury

open Outcome

namespace Timeline.Ordered

variable {line : Timeline} {index : Nat}

theorem id_lt (ordered : line.Ordered) (inside : index < periodCount) (closed : index ≠ 0) :
    (line.spans index).id < (line.spans 0).id := by
  have number := ordered.ids index inside
  have opened := ordered.open_pos
  rw [UInt64.lt_iff_toNat_lt]
  omega

/-- A retained period is at most three before the open one. -/
theorem lt_id_add (ordered : line.Ordered) (inside : index < periodCount) :
    (line.spans 0).id.toNat < (line.spans index).id.toNat + periodCount := by
  have number := ordered.ids index inside
  omega

end Timeline.Ordered

namespace OwnershipLog

/-- The log gives for each retained period of a timeline what was gathered in it, with a balance in
force now. -/
structure Follows (log : OwnershipLog) (line : Timeline) (shares : UInt64)
    (gathered : UInt64 → Nat) : Prop where
  kept : log.Kept (line.spans 0).id
  known : ∀ entry ∈ log.entries, entry.index.toNat ≤ line.index.toNat
  lastShares : log.lastShares = shares
  /-- Nothing was gathered in periods to come. -/
  ahead : ∀ id, (line.spans 0).id < id → gathered id = 0
  opened : log.secondsIn (line.spans 0).id (line.spans 0).startingIndex.toNat line.index.toNat =
    gathered (line.spans 0).id
  closed : ∀ index < periodCount, index ≠ 0 →
    log.secondsIn (line.spans index).id (line.spans index).startingIndex.toNat
      (line.spans index).closingIndex.toNat = gathered (line.spans index).id

namespace Follows

variable {log : OwnershipLog} {before after : Timeline} {shares : UInt64}
  {gathered gathers : UInt64 → Nat}

theorem empty (line : Timeline) (nothing : ∀ id, gathered id = 0) :
    OwnershipLog.empty.Follows line 0 gathered where
  kept := kept_empty _
  known := nofun
  lastShares := lastShares_empty
  ahead id _ := nothing id
  opened := secondsIn_empty.trans (nothing _).symm
  closed _ _ _ := secondsIn_empty.trans (nothing _).symm

/-- While time advances, the balance in force gathers for the open period. -/
theorem advance {supply growth seconds : Nat} (follows : log.Follows before shares gathered)
    (ordered : before.Ordered) (advances : before.Advances after supply growth seconds)
    (grown : ∀ id, gathers id =
      gathered id + if (before.spans 0).id = id then shares.toNat * growth else 0) :
    log.Follows after shares gathers where
  kept := advances.spans ▸ follows.kept
  known entry member := by
    rw [advances.index]
    exact Nat.le_add_right_of_le (follows.known entry member)
  lastShares := follows.lastShares
  ahead id later := by
    rw [advances.spans] at later
    rw [grown, follows.ahead id later, if_neg (UInt64.ne_of_lt later)]
  opened := by
    rw [advances.spans, advances.index, grown, if_pos rfl,
      follows.kept.secondsIn_grow follows.known ordered.startingIndex_le, follows.opened,
      follows.lastShares]
  closed index inside ended := by
    rw [advances.spans, grown, if_neg (UInt64.ne_of_lt (ordered.id_lt inside ended)).symm,
      follows.closed index inside ended, Nat.add_zero]

/-- A new balance keeps what was gathered. -/
theorem change {line : Timeline} {changed : OwnershipLog} {period : FeePeriod} {balance : UInt64}
    (follows : log.Follows line shares gathered) (ordered : line.Ordered)
    (same : period.span = line.spans 0)
    (records : log.Records changed period line.index balance) :
    changed.Follows line balance gathered := by
  have id : period.id = (line.spans 0).id := congrArg Span.id same
  have start : period.startingIndex = (line.spans 0).startingIndex :=
    congrArg Span.startingIndex same
  refine ⟨id ▸ records.kept, ?_, records.lastShares, follows.ahead, ?_, ?_⟩
  · intro entry member
    rcases records.known entry member with member | now
    · exact follows.known entry member
    · exact now ▸ Nat.le_refl _
  · rw [← follows.opened, ← id, ← start]
    exact records.carried
  · intro index inside ended
    rw [← follows.closed index inside ended]
    exact records.earlier (id ▸ ordered.id_lt inside ended) (id ▸ ordered.lt_id_add inside)

/-- A close ends what the open period gathers, and the next period begins with nothing. -/
theorem turn (follows : log.Follows before shares gathered) (turns : before.Turns after) :
    log.Follows after shares gathered := by
  have later : (before.spans 0).id < (after.spans 0).id := by
    rw [UInt64.lt_iff_toNat_lt, turns.next]
    exact Nat.lt_succ_self _
  obtain ⟨duration, closed⟩ := turns.closed
  refine ⟨follows.kept.mono (UInt64.le_of_lt later), ?_, follows.lastShares, ?_, ?_, ?_⟩
  · rw [turns.index]
    exact follows.known
  · exact fun id ahead => follows.ahead id (UInt64.lt_trans later ahead)
  · rw [turns.startingIndex, turns.index, follows.kept.secondsIn_of_lt later,
      follows.ahead _ later]
  · intro index inside ended
    match index, inside, ended with
    | 1, _, _ => rw [closed]; exact follows.opened
    | 2, _, _ => rw [turns.passed]; exact follows.closed 1 (by decide) (by decide)
    | 3, _, _ => rw [turns.oldest]; exact follows.closed 2 (by decide) (by decide)

end Follows

end OwnershipLog

namespace Treasury

variable {ι : Type}

/-- What the balance of a staker gathers in a step for a period: the balance before the step times
the growth of the index, if the period is the open one. -/
def Step.gathers (step : Step ι) (who : ι) (id : UInt64) : Nat :=
  if step.before.ledger.current.id = id then
    (step.before.stakers who).shares.toNat *
      (step.after.ledger.ownershipIndex.toNat - step.before.ledger.ownershipIndex.toNat)
  else 0

/-- All that the balance of a staker gathers in a history for a period. -/
def gathered (history : List (Step ι)) (who : ι) (id : UInt64) : Nat :=
  (history.map fun step => step.gathers who id).sum

theorem gathered_cons (step : Step ι) (history : List (Step ι)) (who : ι) (id : UInt64) :
    gathered (step :: history) who id = step.gathers who id + gathered history who id := rfl

theorem Course.index_eq {before after : Treasury ι} {supply growth seconds : Nat}
    (course : before.Course after supply growth seconds) :
    after.ledger.ownershipIndex.toNat = before.ledger.ownershipIndex.toNat + growth := by
  cases course with
  | pass advances _ => exact advances.index
  | change _ _ advances _ => exact advances.index
  | turn _ advances turns _ => exact (congrArg BitVec.toNat turns.index).trans advances.index

theorem gathered_append (later earlier : List (Step ι)) (who : ι) (id : UInt64) :
    gathered (later ++ earlier) who id = gathered later who id + gathered earlier who id := by
  simp only [gathered, List.map_append, List.sum_append]

theorem Course.id_le {before after : Treasury ι} {supply growth seconds : Nat}
    (course : before.Course after supply growth seconds) :
    (before.ledger.timeline.spans 0).id ≤ (after.ledger.timeline.spans 0).id := by
  cases course with
  | pass advances _ => exact advances.spans ▸ UInt64.le_refl _
  | change _ _ advances _ => exact advances.spans ▸ UInt64.le_refl _
  | turn _ advances turns _ =>
    rw [UInt64.le_iff_toNat_le, turns.next, advances.spans]
    exact Nat.le_succ _

theorem Step.gathers_eq (step : Step ι) {supply growth seconds : Nat}
    (course : step.before.Course step.after supply growth seconds) (who : ι) (id : UInt64) :
    step.gathers who id =
      if (step.before.ledger.timeline.spans 0).id = id then
        (step.before.stakers who).shares.toNat * growth
      else 0 := by
  simp only [Step.gathers, course.index_eq, Nat.add_sub_cancel_left]
  rfl

/-- A log that follows the timeline does so after a step. -/
theorem Step.follows (step : Step ι) {history : List (Step ι)} {supply growth seconds : Nat}
    {who : ι} (course : step.before.Course step.after supply growth seconds)
    (ordered : step.before.ledger.timeline.Ordered)
    (follows : (step.before.stakers who).ownership.Follows step.before.ledger.timeline
      (step.before.stakers who).shares (gathered history who)) :
    (step.after.stakers who).ownership.Follows step.after.ledger.timeline
      (step.after.stakers who).shares (gathered (step :: history) who) := by
  have grown : ∀ id, gathered (step :: history) who id =
      gathered history who id + if (step.before.ledger.timeline.spans 0).id = id then
        (step.before.stakers who).shares.toNat * growth else 0 := fun id => by
    rw [gathered_cons, step.gathers_eq course, Nat.add_comm]
  cases course with
  | pass advances steady =>
    rw [steady.ownership, steady.shares]
    exact follows.advance ordered advances grown
  | turn accrued advances turns steady =>
    rw [steady.ownership, steady.shares]
    exact (follows.advance ordered advances grown).turn turns
  | change other now advances changes =>
    have advanced := follows.advance ordered advances grown
    rcases eq_or_ne who other with rfl | different
    · exact advanced.change (ordered.advance advances) rfl
        (OwnershipLog.recordChange_eq_ok advanced.kept changes.logged)
    · rw [changes.others who different]
      exact advanced

variable [DecidableEq ι] {start treasury : Treasury ι} {history : List (Step ι)}

/-- The log of a staker that starts without shares follows every run from a new ledger. -/
theorem Run.follows {now : Int64} {bump : UInt8} {who : ι} {owner : Key} {seed : UInt8}
    {created : Int64} (run : start.Run history treasury) (free : ImportFree history)
    (opened : start.ledger = PeriodLedger.new now bump)
    (joined : start.stakers who = Staker.new owner seed created) :
    (treasury.stakers who).ownership.Follows treasury.ledger.timeline
      (treasury.stakers who).shares (gathered history who) := by
  induction run with
  | start =>
    rw [joined]
    exact .empty _ fun _ => rfl
  | step run performed ih =>
    obtain ⟨imports, earlier⟩ := importFree_cons.mp free
    obtain ⟨_, _, _, course, _⟩ := course_of_perform imports performed
    have ordered := run.ordered earlier (opened ▸ PeriodLedger.timeline_new_ordered now bump)
    exact Step.follows ⟨_, _, _, _⟩ course ordered (ih earlier)

/-- The log answers for a closed period with what the balance gathered in it, if it fits. -/
theorem Run.shareSecondsIn_eq_fit128 {now : Int64} {bump : UInt8} {who : ι} {owner : Key}
    {seed : UInt8} {created : Int64} {index : Nat} (run : start.Run history treasury)
    (free : ImportFree history) (opened : start.ledger = PeriodLedger.new now bump)
    (joined : start.stakers who = Staker.new owner seed created) (inside : index < periodCount)
    (closed : index ≠ 0) (inhabited : (treasury.ledger.window index).isEmpty = false) :
    (treasury.stakers who).ownership.shareSecondsIn (treasury.ledger.window index) =
      fit128 (gathered history who (treasury.ledger.window index).id) := by
  have follows := run.follows free opened joined
  rw [OwnershipLog.shareSecondsIn_eq_fit128 _ inhabited]
  exact congrArg fit128 (follows.closed index inside closed)

theorem Run.id_le (run : start.Run history treasury) (free : ImportFree history) :
    (start.ledger.timeline.spans 0).id ≤ (treasury.ledger.timeline.spans 0).id := by
  induction run with
  | start => exact UInt64.le_refl _
  | step _ performed ih =>
    obtain ⟨imports, earlier⟩ := importFree_cons.mp free
    obtain ⟨_, _, _, course, _⟩ := course_of_perform imports performed
    exact UInt64.le_trans (ih earlier) course.id_le

/-- A run gathers nothing for the periods that were closed before it. -/
theorem Run.gathered_past {who : ι} {id : UInt64} (run : start.Run history treasury)
    (free : ImportFree history) (past : id < (start.ledger.timeline.spans 0).id) :
    gathered history who id = 0 := by
  induction run with
  | start => rfl
  | step run performed ih =>
    obtain ⟨imports, earlier⟩ := importFree_cons.mp free
    obtain ⟨_, _, _, course, _⟩ := course_of_perform imports performed
    have reached := UInt64.lt_of_lt_of_le past (run.id_le earlier)
    rw [gathered_cons, Step.gathers_eq ⟨_, _, _, _⟩ course, ih earlier,
      if_neg (UInt64.ne_of_lt reached).symm]

end Treasury

end FeeTreasury
