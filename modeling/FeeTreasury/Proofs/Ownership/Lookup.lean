import FeeTreasury.PeriodLedger
import FeeTreasury.OwnershipLog
import FeeTreasury.Proofs.Answer

/-!
# Reading an ownership log

The share-seconds that a log gives for a period are an exact number, refused only if it does not fit
(`FeeTreasury.OwnershipLog.shareSecondsIn_eq_fit128`). A log that is kept up to a period has its
entries in the order of their periods, so that only its last entry decides about later periods, and
a change of the balance leaves the numbers of earlier periods alone: an entry that leaves the log is
older than any that a retained period needs (`FeeTreasury.OwnershipLog.Kept.secondsIn_trimmed`).
-/

namespace FeeTreasury

open Outcome

namespace OwnershipLog

/-- The share-seconds of a period that opened and closed at two values of the index. -/
def secondsIn (log : OwnershipLog) (id : UInt64) (opening closing : Nat) : Nat :=
  match log.entryFor id with
  | some entry => entry.carried.toNat + entry.shares.toNat * (closing - entry.index.toNat)
  | none =>
    match log.entryBefore id with
    | some entry => entry.shares.toNat * (closing - opening)
    | none => 0

end OwnershipLog

theorem shareSeconds_eq_fit128 (shares : UInt64) (fromIndex toIndex : UInt128) :
    shareSeconds shares fromIndex toIndex =
      fit128 (shares.toNat * (toIndex.toNat - fromIndex.toNat)) := by
  rw [shareSeconds, toNat_saturatingSub128]

theorem shareSeconds_eq_ok {shares : UInt64} {fromIndex toIndex seconds : UInt128} :
    shareSeconds shares fromIndex toIndex = .ok seconds ↔
      seconds.toNat = shares.toNat * (toIndex.toNat - fromIndex.toNat) := by
  rw [shareSeconds_eq_fit128, fit128_eq_ok]

theorem fit128_bind_add (carried n : Nat) :
    (fit128 n >>= fun tail => fit128 (carried + tail.toNat)) = fit128 (carried + n) := by
  rcases Nat.lt_or_ge n UInt128.size with fits | large
  · rw [fit128, if_pos fits]
    show fit128 (carried + (BitVec.ofNat 128 n).toNat) = _
    rw [toNat_ofNat128_of_lt fits]
  · rw [fit128_of_size_le large, fit128_of_size_le (Nat.le_add_left_of_le large)]
    rfl

namespace OwnershipLog

/-- A log answers for a period with the exact share-seconds, unless they do not fit. -/
theorem shareSecondsIn_eq_fit128 (log : OwnershipLog) {period : FeePeriod}
    (inhabited : period.isEmpty = false) :
    log.shareSecondsIn period =
      fit128 (log.secondsIn period.id period.startingIndex.toNat period.closingIndex.toNat) := by
  simp only [shareSecondsIn, secondsIn, inhabited, Bool.false_eq_true, ↓reduceIte]
  cases log.entryFor period.id with
  | some entry => simp only [shareSeconds_eq_fit128, fit128_bind_add]
  | none =>
    cases log.entryBefore period.id with
    | some entry => exact shareSeconds_eq_fit128 ..
    | none => rfl

/-! ## The last entry -/

/-- The log with one more entry, however long it becomes. -/
def snoc (log : OwnershipLog) (entry : OwnershipEntry) : OwnershipLog := ⟨log.entries ++ [entry]⟩

variable {log older : OwnershipLog} {last entry : OwnershipEntry} {id : UInt64}
  {opening closing : Nat}

theorem eq_empty_or_snoc (log : OwnershipLog) :
    log = empty ∨ ∃ older last, log = snoc older last := by
  obtain ⟨entries⟩ := log
  rcases entries.eq_nil_or_concat with rfl | ⟨older, last, rfl⟩
  · exact .inl rfl
  · exact .inr ⟨⟨older⟩, last, by rw [snoc, List.concat_eq_append]⟩

theorem latest_snoc : (older.snoc last).latest = some last := List.getLast?_concat

theorem replaceLast_snoc : (older.snoc last).replaceLast entry = older.snoc entry := by
  simp only [replaceLast, snoc, List.dropLast_concat]

theorem entryFor_snoc :
    (older.snoc last).entryFor id =
      if last.periodId = id then some last else older.entryFor id := by
  simp only [entryFor, snoc, List.reverse_append, List.reverse_singleton, List.singleton_append,
    List.find?_cons]
  split <;> simp_all only [decide_eq_true_eq, decide_eq_false_iff_not, ↓reduceIte]

theorem entryBefore_snoc :
    (older.snoc last).entryBefore id =
      if last.periodId < id then some last else older.entryBefore id := by
  simp only [entryBefore, snoc, List.reverse_append, List.reverse_singleton, List.singleton_append,
    List.find?_cons]
  split <;> simp_all only [decide_eq_true_eq, decide_eq_false_iff_not, ↓reduceIte]

theorem entryFor_eq_none (absent : ∀ entry ∈ log.entries, entry.periodId ≠ id) :
    log.entryFor id = none := by
  simp only [entryFor, List.find?_eq_none, List.mem_reverse, decide_eq_true_eq]
  exact absent

theorem secondsIn_snoc_self (here : last.periodId = id) :
    (older.snoc last).secondsIn id opening closing =
      last.carried.toNat + last.shares.toNat * (closing - last.index.toNat) := by
  simp only [secondsIn, entryFor_snoc, here, ↓reduceIte]

theorem secondsIn_snoc_of_gt (later : id < last.periodId) :
    (older.snoc last).secondsIn id opening closing = older.secondsIn id opening closing := by
  have other : last.periodId ≠ id := fun same => UInt64.lt_irrefl _ (same ▸ later)
  have above : ¬ last.periodId < id := UInt64.not_lt.mpr (UInt64.le_of_lt later)
  simp only [secondsIn, entryFor_snoc, entryBefore_snoc, other, above, ↓reduceIte]

theorem secondsIn_empty : empty.secondsIn id opening closing = 0 := rfl

theorem lastShares_empty : empty.lastShares = 0 := rfl

/-! ## Logs that are kept in order -/

/-- A log that is kept up to a period: within its depth, in the order of the periods, and without an
entry of a later period. -/
structure Kept (log : OwnershipLog) (upTo : UInt64) : Prop where
  length_le : log.entries.length ≤ ownershipDepth
  ascending : log.entries.Pairwise fun earlier later => earlier.periodId < later.periodId
  periodId_le : ∀ entry ∈ log.entries, entry.periodId ≤ upTo

theorem kept_empty (upTo : UInt64) : empty.Kept upTo :=
  ⟨Nat.zero_le _, .nil, nofun⟩

/-- The log without the entry that a further one would push out. -/
def trimmed (log : OwnershipLog) : OwnershipLog :=
  ⟨if log.entries.length < ownershipDepth then log.entries else log.entries.drop 1⟩

theorem push_eq_snoc_trimmed : log.push entry = log.trimmed.snoc entry := by
  simp only [push, trimmed, snoc, List.length_append, List.length_singleton, ownershipDepth]
  by_cases room : log.entries.length < 6
  · simp only [room, ↓reduceIte, Nat.not_lt.mpr (Nat.succ_le_of_lt room)]
  · simp only [room, ↓reduceIte, Nat.lt_succ_of_le (Nat.not_lt.mp room)]
    rw [List.drop_append_of_le_length (by omega)]

theorem mem_of_mem_trimmed (member : entry ∈ log.trimmed.entries) : entry ∈ log.entries := by
  simp only [trimmed] at member
  split at member
  · exact member
  · exact List.mem_of_mem_drop member

/-- As many periods as there are entries lie between the first entry and the last period. -/
theorem add_length_le {bound : Nat} : ∀ (first : OwnershipEntry) (rest : List OwnershipEntry),
    ((first :: rest).Pairwise fun earlier later => earlier.periodId < later.periodId) →
      (∀ entry ∈ first :: rest, entry.periodId.toNat ≤ bound) →
        first.periodId.toNat + rest.length ≤ bound
  | first, [], _, bounded => bounded first List.mem_cons_self
  | first, second :: rest, ascending, bounded => by
    have ⟨below, ascends⟩ := List.pairwise_cons.mp ascending
    have next := add_length_le second rest ascends fun entry member =>
      bounded entry (List.mem_cons_of_mem _ member)
    have step := UInt64.lt_iff_toNat_lt.mp (below second List.mem_cons_self)
    simp only [List.length_cons]
    omega

/-- An entry says nothing about a period after that of the next entry. -/
theorem secondsIn_tail {first second : OwnershipEntry} {rest : List OwnershipEntry}
    (ascends : first.periodId < second.periodId) (recent : second.periodId < id) :
    (mk (first :: second :: rest)).secondsIn id opening closing =
      (mk (second :: rest)).secondsIn id opening closing := by
  have other : first.periodId ≠ id := UInt64.ne_of_lt (UInt64.lt_trans ascends recent)
  have atPeriod : (mk (first :: second :: rest)).entryFor id =
      (mk (second :: rest)).entryFor id := by
    simp only [entryFor, List.reverse_cons (a := first), List.find?_append, List.find?_cons, other,
      decide_false, List.find?_nil, Option.or_none]
  have before : (mk (first :: second :: rest)).entryBefore id =
      (mk (second :: rest)).entryBefore id := by
    simp only [entryBefore, List.reverse_cons, List.find?_append, List.find?_cons, recent,
      decide_true, Option.or_assoc, Option.some_or]
  simp only [secondsIn, atPeriod, before]

namespace Kept

variable {upTo : UInt64}

theorem of_snoc (kept : (older.snoc last).Kept upTo) :
    (∀ entry ∈ older.entries, entry.periodId < last.periodId) ∧ last.periodId ≤ upTo := by
  have ascending := List.pairwise_append.mp kept.ascending
  exact ⟨fun entry member => ascending.2.2 entry member last List.mem_cons_self,
    kept.periodId_le last (List.mem_append_right _ List.mem_cons_self)⟩

/-- The balance of the last entry holds throughout every later period. -/
theorem secondsIn_snoc_of_lt (kept : (older.snoc last).Kept upTo) (earlier : last.periodId < id) :
    (older.snoc last).secondsIn id opening closing =
      last.shares.toNat * (closing - opening) := by
  have absent : older.entryFor id = none := entryFor_eq_none fun entry member =>
    UInt64.ne_of_lt (UInt64.lt_trans (kept.of_snoc.1 entry member) earlier)
  simp only [secondsIn, entryFor_snoc, entryBefore_snoc, UInt64.ne_of_lt earlier, earlier, absent,
    ↓reduceIte]

/-- A period that has just opened has gathered nothing. -/
theorem secondsIn_of_lt (kept : log.Kept upTo) (later : upTo < id) :
    log.secondsIn id opening opening = 0 := by
  rcases log.eq_empty_or_snoc with rfl | ⟨older, last, rfl⟩
  · exact secondsIn_empty
  · rw [kept.secondsIn_snoc_of_lt (UInt64.lt_of_le_of_lt kept.of_snoc.2 later), Nat.sub_self,
      Nat.mul_zero]

theorem trimmed (kept : log.Kept upTo) : log.trimmed.Kept upTo where
  length_le := by
    have whole := kept.length_le
    simp only [OwnershipLog.trimmed]
    split
    · exact whole
    · rw [List.length_drop]
      exact Nat.le_trans (Nat.sub_le ..) whole
  ascending := by
    simp only [OwnershipLog.trimmed]
    split
    · exact kept.ascending
    · exact kept.ascending.sublist (List.drop_sublist ..)
  periodId_le entry member := kept.periodId_le entry (mem_of_mem_trimmed member)

/-- The entry that leaves a full log is too old for the periods that are retained. -/
theorem secondsIn_trimmed (kept : log.Kept upTo) (recent : upTo.toNat < id.toNat + periodCount) :
    log.trimmed.secondsIn id opening closing = log.secondsIn id opening closing := by
  obtain ⟨entries⟩ := log
  by_cases room : entries.length < ownershipDepth
  · simp only [OwnershipLog.trimmed, room, ↓reduceIte]
  · simp only [OwnershipLog.trimmed, room, ↓reduceIte]
    match entries, room with
    | [], room => exact absurd (by decide) room
    | [_], room => exact absurd (by simp only [List.length_singleton, ownershipDepth]; decide) room
    | first :: second :: rest, room =>
      have ⟨below, ascends⟩ := List.pairwise_cons.mp kept.ascending
      have counted := add_length_le second rest ascends fun entry member =>
        UInt64.le_iff_toNat_le.mp (kept.periodId_le entry (List.mem_cons_of_mem _ member))
      refine (secondsIn_tail (below second List.mem_cons_self) (UInt64.lt_iff_toNat_lt.mpr ?_)).symm
      simp only [List.length_cons, ownershipDepth, periodCount] at room recent
      omega

/-- A new last entry of a later period keeps a log that was trimmed for it. -/
theorem snoc_trimmed (kept : log.Kept upTo) (latest : ∀ last ∈ log.entries, last.periodId ≠ upTo)
    (here : entry.periodId = upTo) : (log.trimmed.snoc entry).Kept upTo where
  length_le := by
    have whole := kept.length_le
    simp only [snoc, OwnershipLog.trimmed, List.length_append, List.length_singleton,
      ownershipDepth] at whole ⊢
    split
    · omega
    · rw [List.length_drop]
      omega
  ascending := by
    refine List.pairwise_append.mpr ⟨kept.trimmed.ascending, List.pairwise_singleton _ _, ?_⟩
    intro earlier member _ only
    rw [List.mem_singleton.mp only, here]
    exact UInt64.lt_of_le_of_ne (kept.trimmed.periodId_le earlier member)
      (latest earlier (mem_of_mem_trimmed member))
  periodId_le earlier member := by
    rcases List.mem_append.mp member with member | only
    · exact kept.trimmed.periodId_le earlier member
    · rw [List.mem_singleton.mp only, here]
      exact UInt64.le_refl _

theorem replace (kept : (older.snoc last).Kept upTo) (same : entry.periodId = last.periodId) :
    (older.snoc entry).Kept upTo where
  length_le := by
    have whole := kept.length_le
    simp only [snoc, List.length_append, List.length_singleton] at whole ⊢
    exact whole
  ascending := by
    have ascending := List.pairwise_append.mp kept.ascending
    refine List.pairwise_append.mpr ⟨ascending.1, List.pairwise_singleton _ _, ?_⟩
    intro earlier member _ only
    rw [List.mem_singleton.mp only, same]
    exact kept.of_snoc.1 earlier member
  periodId_le earlier member := by
    rcases List.mem_append.mp member with member | only
    · exact kept.periodId_le earlier (List.mem_append_left _ member)
    · rw [List.mem_singleton.mp only, same]
      exact kept.of_snoc.2

theorem mono {later : UInt64} (kept : log.Kept upTo) (reaches : upTo ≤ later) : log.Kept later :=
  ⟨kept.length_le, kept.ascending, fun entry member =>
    UInt64.le_trans (kept.periodId_le entry member) reaches⟩

/-- While the index grows, the log of a period that it is kept up to gathers for the balance after
the last change. -/
theorem secondsIn_grow {index growth : Nat} (kept : log.Kept id)
    (known : ∀ entry ∈ log.entries, entry.index.toNat ≤ index) (opened : opening ≤ index) :
    log.secondsIn id opening (index + growth) =
      log.secondsIn id opening index + log.lastShares.toNat * growth := by
  rcases log.eq_empty_or_snoc with rfl | ⟨older, last, rfl⟩
  · simp only [secondsIn_empty, lastShares_empty, UInt64.toNat_zero, Nat.zero_mul]
  have before := known last (List.mem_append_right _ List.mem_cons_self)
  simp only [lastShares, latest_snoc]
  rcases Decidable.em (last.periodId = id) with here | elsewhere
  · rw [secondsIn_snoc_self here, secondsIn_snoc_self here, Nat.sub_add_comm before, Nat.mul_add,
      Nat.add_assoc]
  · have earlier := UInt64.lt_of_le_of_ne kept.of_snoc.2 elsewhere
    rw [kept.secondsIn_snoc_of_lt earlier, kept.secondsIn_snoc_of_lt earlier,
      Nat.sub_add_comm opened, Nat.mul_add]

end Kept

/-! ## Changes -/

/-- What recording a new balance at an index does to a log. -/
structure Records (log after : OwnershipLog) (period : FeePeriod) (index : UInt128)
    (shares : UInt64) : Prop where
  kept : after.Kept period.id
  known : ∀ entry ∈ after.entries, entry ∈ log.entries ∨ entry.index = index
  lastShares : after.lastShares = shares
  /-- What the period gathered so far is not lost. -/
  carried : after.secondsIn period.id period.startingIndex.toNat index.toNat =
    log.secondsIn period.id period.startingIndex.toNat index.toNat
  /-- What earlier periods gathered stays as it is, as long as they are retained. -/
  earlier : ∀ {id : UInt64} {opening closing : Nat}, id < period.id →
    period.id.toNat < id.toNat + periodCount →
      after.secondsIn id opening closing = log.secondsIn id opening closing

/-- A first entry of a period carries what the balance before gathered in it. -/
theorem records_push {period : FeePeriod} {index : UInt128} (kept : log.Kept period.id)
    (latest : ∀ last ∈ log.entries, last.periodId ≠ period.id)
    (here : entry.periodId = period.id) (now : entry.index = index)
    (carried : entry.carried.toNat =
      log.secondsIn period.id period.startingIndex.toNat index.toNat) :
    log.Records (log.push entry) period index entry.shares := by
  rw [push_eq_snoc_trimmed]
  refine ⟨kept.snoc_trimmed latest here, ?_, ?_, ?_, ?_⟩
  · intro other member
    rcases List.mem_append.mp member with member | only
    · exact .inl (mem_of_mem_trimmed member)
    · exact .inr (List.mem_singleton.mp only ▸ now)
  · simp only [lastShares, latest_snoc]
  · rw [secondsIn_snoc_self here, now, Nat.sub_self, Nat.mul_zero, Nat.add_zero, carried]
  · intro id opening closing before recent
    rw [secondsIn_snoc_of_gt (here ▸ before), kept.secondsIn_trimmed recent]

/-- A further change in the period of the last entry folds into it. -/
theorem records_replace {period : FeePeriod} {index : UInt128}
    (kept : (older.snoc last).Kept period.id) (same : last.periodId = period.id)
    (here : entry.periodId = period.id) (now : entry.index = index)
    (carried : entry.carried.toNat =
      (older.snoc last).secondsIn period.id period.startingIndex.toNat index.toNat) :
    (older.snoc last).Records (older.snoc entry) period index entry.shares := by
  refine ⟨kept.replace (here.trans same.symm), ?_, ?_, ?_, ?_⟩
  · intro other member
    rcases List.mem_append.mp member with member | only
    · exact .inl (List.mem_append_left _ member)
    · exact .inr (List.mem_singleton.mp only ▸ now)
  · simp only [lastShares, latest_snoc]
  · rw [secondsIn_snoc_self here, now, Nat.sub_self, Nat.mul_zero, Nat.add_zero, carried]
  · intro id opening closing before _
    rw [secondsIn_snoc_of_gt (here ▸ before), secondsIn_snoc_of_gt (same ▸ before)]

/-- A log that is kept up to the open period records every change that it answers. -/
theorem recordChange_eq_ok {after : OwnershipLog} {now : Int64} {period : FeePeriod}
    {index : UInt128} {shares supply : UInt64} (kept : log.Kept period.id)
    (recorded : log.recordChange now period index shares supply = .ok after) :
    log.Records after period index shares := by
  simp only [recordChange, bind_eq_ok] at recorded
  obtain ⟨fraction, _, recorded⟩ := recorded
  rcases log.eq_empty_or_snoc with rfl | ⟨older, last, rfl⟩
  · simp only [latest, empty, List.getLast?_nil, bind_eq_ok, pure_eq_ok, shareSeconds_eq_ok,
      UInt64.toNat_zero, Nat.zero_mul] at recorded
    obtain ⟨carried, nothing, rfl⟩ := recorded
    exact records_push kept nofun rfl rfl nothing
  simp only [latest_snoc, ite_eq_ok, bind_eq_ok, pure_eq_ok, shareSeconds_eq_ok, fit128_eq_ok,
    replaceLast_snoc] at recorded
  rcases recorded with ⟨same, gathered, counted, carried, summed, rfl⟩ |
    ⟨elsewhere, carried, counted, rfl⟩
  · refine records_replace kept same same rfl ?_
    rw [secondsIn_snoc_self same, summed, counted]
  · have earlier := UInt64.lt_of_le_of_ne kept.of_snoc.2 elsewhere
    refine records_push kept ?_ rfl rfl ?_
    · intro entry member
      rcases List.mem_append.mp member with member | only
      · exact UInt64.ne_of_lt (UInt64.lt_trans (kept.of_snoc.1 entry member) earlier)
      · exact List.mem_singleton.mp only ▸ elsewhere
    · rw [kept.secondsIn_snoc_of_lt earlier, counted]

theorem answers_fractionOf {shares supply : UInt64} (part : shares ≤ supply) :
    Answers (fractionOf shares supply) := by
  unfold fractionOf
  split
  · exact answers_pure _
  · rw [mulDiv_comm]
    exact mulDiv_of_le ‹_› part

/-- A log has room for a change if what it gives for the open period up to now has. -/
theorem answers_recordChange {period : FeePeriod} {index : UInt128} {shares supply : UInt64}
    (kept : log.Kept period.id) (told : Answers (fractionOf shares supply))
    (fits : log.secondsIn period.id period.startingIndex.toNat index.toNat < UInt128.size)
    (now : Int64) : Answers (log.recordChange now period index shares supply) := by
  refine told.bind fun fraction _ => ?_
  rcases log.eq_empty_or_snoc with rfl | ⟨older, last, rfl⟩
  · refine Answers.bind ⟨0, shareSeconds_eq_ok.mpr ?_⟩ fun _ _ => answers_pure _
    rw [UInt64.toNat_zero, Nat.zero_mul]
    rfl
  simp only [latest_snoc]
  split
  · rename_i same
    rw [secondsIn_snoc_self same] at fits
    rw [shareSeconds_eq_fit128]
    refine (answers_fit128 (by omega)).bind fun gathered counted => ?_
    rw [fit128_eq_ok] at counted
    exact (answers_fit128 (counted ▸ fits)).bind fun _ _ => answers_pure _
  · rename_i elsewhere
    rw [kept.secondsIn_snoc_of_lt (UInt64.lt_of_le_of_ne kept.of_snoc.2 elsewhere)] at fits
    rw [shareSeconds_eq_fit128]
    exact (answers_fit128 fits).bind fun _ _ => answers_pure _

/-- And only then. -/
theorem fits_of_recordChange {after : OwnershipLog} {now : Int64} {period : FeePeriod}
    {index : UInt128} {shares supply : UInt64} (kept : log.Kept period.id)
    (recorded : log.recordChange now period index shares supply = .ok after) :
    Answers (fractionOf shares supply) ∧
      log.secondsIn period.id period.startingIndex.toNat index.toNat < UInt128.size := by
  simp only [recordChange, bind_eq_ok] at recorded
  obtain ⟨fraction, told, recorded⟩ := recorded
  refine ⟨⟨fraction, told⟩, ?_⟩
  rcases log.eq_empty_or_snoc with rfl | ⟨older, last, rfl⟩
  · rw [secondsIn_empty]
    decide
  simp only [latest_snoc, ite_eq_ok, bind_eq_ok, shareSeconds_eq_ok, fit128_eq_ok] at recorded
  rcases recorded with ⟨same, _, counted, carried, summed, _⟩ | ⟨elsewhere, carried, counted, _⟩
  · rw [secondsIn_snoc_self same, ← counted, ← summed]
    exact carried.isLt
  · have earlier := UInt64.lt_of_le_of_ne kept.of_snoc.2 elsewhere
    rw [kept.secondsIn_snoc_of_lt earlier, ← counted]
    exact carried.isLt

end OwnershipLog

end FeeTreasury
