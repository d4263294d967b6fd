import FeeTreasury.Proofs.Liquidation.Counters
import FeeTreasury.Proofs.Program.Configuration
import FeeTreasury.Proofs.Program.Flagging

/-!
# The book and the entries agree

The book of liquidations and the entries lie in accounts of their own, which four instructions load
and store one by one. Whatever is called, book and entries change together: a flag opens an entry
that was closed and counts it, and whatever closes an open entry counts that
(`FeeTreasury.Called.books`). The settings in force were accepted, so that no deadline lies before
its flag. So the book counts the open entries of all accounts, and a closed entry is as good as new
(`FeeTreasury.Accounts.Evolves.book_counts_entries`).
-/

namespace FeeTreasury

open Outcome

namespace Accounts

variable {accounts after : Accounts} {program key other : Key} {entry : LiquidationEntry}

/-! ## Open entries -/

/-- The accounts that hold an open entry. -/
def openEntries (accounts : Accounts) (program : Key) : Finset Key :=
  accounts.keys.filter fun key =>
    (accounts.held program key : Option LiquidationEntry).any LiquidationEntry.active

theorem mem_openEntries :
    key ∈ accounts.openEntries program ↔
      ∃ entry : LiquidationEntry, accounts.held program key = some entry ∧ entry.active = true := by
  rw [openEntries, Finset.mem_filter, Option.any_eq_true]
  refine ⟨And.right, fun holds => ⟨?_, holds⟩⟩
  obtain ⟨entry, found, _⟩ := holds
  by_contra untouched
  exact nomatch (held_of_notMem_keys untouched).symm.trans found

theorem openEntries_congr
    (same : after.held program = (accounts.held program : Key → Option LiquidationEntry)) :
    after.openEntries program = accounts.openEntries program := by
  ext key
  rw [mem_openEntries, mem_openEntries, same]

/-- An open entry where there was none is one more. -/
theorem card_openEntries_open
    (left : after.held program = Function.update (accounts.held program) key (some entry))
    (active : entry.active = true) (closed : key ∉ accounts.openEntries program) :
    (after.openEntries program).card = (accounts.openEntries program).card + 1 := by
  rw [← Finset.card_insert_of_notMem closed]
  congr 1
  ext other
  rw [Finset.mem_insert, mem_openEntries, left]
  by_cases same : other = key
  · subst same
    rw [Function.update_self]
    exact iff_of_true ⟨entry, rfl, active⟩ (.inl rfl)
  · rw [Function.update_of_ne same, or_iff_right same, mem_openEntries]

/-- A closed entry where there was an open one is one less. -/
theorem card_openEntries_close
    (left : after.held program = Function.update (accounts.held program) key (some entry))
    (closed : entry.active = false) (opened : key ∈ accounts.openEntries program) :
    (after.openEntries program).card + 1 = (accounts.openEntries program).card := by
  rw [← Finset.card_erase_add_one opened]
  congr 2
  ext other
  rw [Finset.mem_erase, mem_openEntries, left]
  by_cases same : other = key
  · subst same
    rw [Function.update_self]
    refine iff_of_false ?_ fun erased => erased.1 rfl
    rintro ⟨_, ⟨⟩, active⟩
    rw [closed] at active
    exact Bool.false_ne_true active
  · rw [Function.update_of_ne same, and_iff_right same, mem_openEntries]

/-- There is one account for a type with one place. -/
theorem Sound.key_unique {α : Type} [Stored α] [Recorded α] {place : Place} {first second : α}
    (single : ∀ value : α, (record value).place = place) (sound : accounts.Sound program)
    (found : accounts.held program key = some first)
    (again : accounts.held program other = some second) : key = other := by
  have here := (begins_of_held sound found).place
  have there := (begins_of_held sound again).place
  rw [single] at here there
  exact Option.some.inj (here.symm.trans there)

/-- Where the one value of a type was written anew, all values of the type are what was written. -/
theorem Sound.all_of_update {α : Type} [Stored α] [Recorded α] {place : Place} {old value : α}
    {property : α → Prop} (single : ∀ value : α, (record value).place = place)
    (sound : accounts.Sound program) (found : accounts.held program key = some old)
    (left : after.held program = Function.update (accounts.held program) key (some value))
    (fits : property value) : after.All program property := by
  intro other kept held
  rw [left] at held
  by_cases same : other = key
  · subst same
    rw [Function.update_self] at held
    exact Option.some.inj held ▸ fits
  · rw [Function.update_of_ne same] at held
    exact absurd (sound.key_unique single held found) same

/-! ## Book and entries together -/

/-- An entry that, once it is cleared, is the one that its account began with. -/
def Filed (program : Key) (entry : LiquidationEntry) : Prop :=
  ∃ key bump, (Place.entry entry.account).address? program = some ⟨key, bump⟩ ∧
    entry.cleared = .new entry.account bump

/-- Book and entries agree after some flags: the book counts the open entries, the entries are tidy,
and there is none without a book. -/
structure Agrees (accounts : Accounts) (program : Key) (flags : Nat) : Prop where
  book : accounts.All program fun book : LiquidationBook =>
    book.Counts (accounts.openEntries program).card flags
  tidy : accounts.All program LiquidationEntry.Tidy
  filed : accounts.All program (Filed program)
  counted : ∀ key (entry : LiquidationEntry), accounts.held program key = some entry →
    ∃ (key : Key) (book : LiquidationBook), accounts.held program key = some book

/-- Where there is no book, no entry is open. -/
theorem Agrees.openEntries_eq_empty {flags : Nat} (agrees : accounts.Agrees program flags)
    (bookless : ∀ (key : Key) (book : LiquidationBook), accounts.held program key ≠ some book) :
    accounts.openEntries program = ∅ := by
  refine Finset.eq_empty_of_forall_notMem fun other opened => ?_
  obtain ⟨entry, held, _⟩ := mem_openEntries.mp opened
  obtain ⟨key, book, booked⟩ := agrees.counted other entry held
  exact bookless key book booked

end Accounts

namespace Run.EntryAt

variable {run : Run} {program key of : Key} {entry : LiquidationEntry}

theorem notMem_openEntries (seen : run.EntryAt program key of entry)
    (closed : entry.active = false) : key ∉ run.accounts.openEntries program := by
  intro opened
  obtain ⟨held, found, active⟩ := Accounts.mem_openEntries.mp opened
  obtain rfl := seen.eq_of_held found
  exact Bool.noConfusion (closed.symm.trans active)

/-- An entry that is seen is filed: it is a new one, or it is held. -/
theorem filed (seen : run.EntryAt program key of entry)
    (all : run.accounts.All program (Accounts.Filed program)) : Accounts.Filed program entry := by
  obtain ⟨bump, lies, ⟨_, rfl⟩ | ⟨_, held⟩⟩ := seen
  · exact ⟨key, bump, lies, rfl⟩
  · exact all key entry held

end Run.EntryAt

/-! ## What a call does to the book and to an entry -/

namespace Called

variable {called : Called} {key : Key} {book : LiquidationBook}

/-- A call has left the book as it was. -/
def SparesBook (called : Called) : Prop :=
  called.report.accounts.held called.call.program =
    (called.before.held called.call.program : Key → Option LiquidationBook)

/-- A call has left a book at a key. -/
def LeavesBook (called : Called) (key : Key) (book : LiquidationBook) : Prop :=
  called.report.accounts.held called.call.program =
    Function.update (called.before.held called.call.program) key (some book)

/-- What a call does to the book and to the entries: nothing, or it opens the book, or it flags an
account by the settings in force, in a new entry or in the stored one, or it closes an open entry.
-/
inductive Books (called : Called) : Prop
  | still (book : called.SparesBook) (entries : called.Spares)
  | setUp (key : Key) (bump : UInt8)
      (lies : Place.liquidationBook.key? called.call.program = some key)
      (none : called.before.held called.call.program key = (none : Option LiquidationBook))
      (book : called.LeavesBook key (.new bump)) (entries : called.Spares)
  | flag (did : called.done? = some .flagAccount) (bookKey entryKey configKey of flagger : Key)
      (records flagged : LiquidationRecords) (config : Config) (position : Position)
      (deadline : Int64) (begun : Run) (start : begun.accounts = called.before)
      (known : called.before.held called.call.program configKey = some config)
      (counted : called.before.held called.call.program bookKey = some records.book)
      (seen : begun.EntryAt called.call.program entryKey of records.entry)
      (answered : records.flag config.settings flagger position called.now =
        .ok (flagged, deadline))
      (book : called.LeavesBook bookKey flagged.book)
      (entries : called.Leaves entryKey flagged.entry)
  | close (bookKey entryKey : Key) (records : LiquidationRecords) (liquidated : Bool)
      (counted : called.before.held called.call.program bookKey = some records.book)
      (found : called.before.held called.call.program entryKey = some records.entry)
      (active : records.entry.active = true)
      (book : called.LeavesBook bookKey (records.close liquidated).1.book)
      (entries : called.Leaves entryKey (records.close liquidated).1.entry)

section Writes

variable {begun after : Run} {puts : List (Key × Record)} {calls : List OutsideCall}

theorem sparesBook_of_writes (start : begun.accounts = called.before)
    (accounts : called.report.accounts = after.accounts)
    (writes : begun.Writes called.call.program after puts calls)
    (none : valuesOf LiquidationBook puts = []) : called.SparesBook := by
  rw [SparesBook, accounts, ← start]
  exact writes.held_eq none

theorem leavesBook_of_writes (start : begun.accounts = called.before)
    (accounts : called.report.accounts = after.accounts)
    (writes : begun.Writes called.call.program after puts calls)
    (one : valuesOf LiquidationBook puts = [(key, book)]) : called.LeavesBook key book := by
  rw [LeavesBook, accounts, ← start]
  exact writes.held_one one

end Writes

theorem exists_of_leavesBook (left : called.LeavesBook key book) :
    ∃ (key : Key) (book : LiquidationBook),
      called.report.accounts.held called.call.program key = some book :=
  ⟨key, book, by rw [left, Function.update_self]⟩

/-- A flag counts one more open entry. -/
theorem books_of_flag (sound : called.before.Sound called.call.program)
    (did : called.done? = some .flagAccount) : called.Books := by
  obtain ⟨r, begun, after, _, ran, start, begins, _, accounts, _⟩ :=
    ran_of_done Program.flagAccount (fun _ _ => rfl) sound did
  obtain ⟨config, _, _, staker, _, _, position, records, flagged, deadline, _, ⟨_, known, _⟩, _,
    counted, _, _, _, _, seen, answered, _, writes⟩ := Program.flagAccount_writes begins ran
  exact .flag did r.liquidationBook r.entry r.config staker.owner r.flagger records flagged config
    position deadline begun start (start ▸ known) (start ▸ counted) seen answered
    (leavesBook_of_writes start accounts writes rfl) (leaves_of_writes start accounts writes rfl)

theorem books_of_removeFlag (sound : called.before.Sound called.call.program)
    (did : called.done? = some .removeFlag) : called.Books := by
  obtain ⟨r, begun, after, _, ran, start, begins, _, accounts, _⟩ :=
    ran_of_done Program.removeFlag (fun _ _ => rfl) sound did
  obtain ⟨_, _, _, _, _, _, records, left, removed, _, _, counted, _, _, _, _, seen, answered,
    writes⟩ := Program.removeFlag_writes begins ran
  cases removed with
  | false =>
    exact .still (sparesBook_of_writes start accounts writes rfl)
      (spares_of_writes start accounts writes rfl)
  | true =>
    obtain ⟨active, rfl⟩ := LiquidationRecords.removed_eq answered
    exact .close r.liquidationBook r.entry records false (start ▸ counted)
      (start ▸ seen.holds active) active (leavesBook_of_writes start accounts writes rfl)
      (leaves_of_writes start accounts writes rfl)

theorem books_of_liquidateAccount (sound : called.before.Sound called.call.program)
    (did : called.done? = some .liquidateAccount) : called.Books := by
  obtain ⟨r, begun, after, _, ran, start, begins, _, accounts, _⟩ :=
    ran_of_done Program.liquidateAccount (fun _ _ => rfl) sound did
  obtain ⟨_, _, _, _, _, _, records, _, _, _, _, _, _, ⟨_, _, _, counted, _⟩, _, ⟨seen, due⟩, _, _,
    writes⟩ := Program.liquidateAccount_writes begins ran
  have active := LiquidationEntry.active_of_checkLiquidatable due
  exact .close r.common.liquidationBook r.common.entry records true (start ▸ counted)
    (start ▸ seen.holds active) active (leavesBook_of_writes start accounts writes rfl)
    (leaves_of_writes start accounts writes rfl)

/-- A liquidation by the owner writes book and entry only where it closes an open entry. -/
theorem books_of_liquidateSelf (sound : called.before.Sound called.call.program)
    (did : called.done? = some .liquidateSelf) : called.Books := by
  obtain ⟨r, begun, after, _, ran, start, begins, _, accounts, _⟩ :=
    ran_of_done Program.liquidateSelf (fun _ _ => rfl) sound did
  obtain ⟨_, _, _, _, _, _, records, _, _, _, _, _, _, ⟨_, _, _, counted, _⟩, _, ⟨seen, _⟩, _,
    writes⟩ := Program.liquidateSelf_writes begins ran
  cases active : records.entry.active with
  | false =>
    rw [active] at writes
    exact .still (sparesBook_of_writes start accounts writes rfl)
      (spares_of_writes start accounts writes rfl)
  | true =>
    rw [active] at writes
    exact .close r.liquidationBook r.entry records true (start ▸ counted)
      (start ▸ seen.holds active) active (leavesBook_of_writes start accounts writes rfl)
      (leaves_of_writes start accounts writes rfl)

theorem books_of_setUp {settings : Settings} (sound : called.before.Sound called.call.program)
    (did : called.done? = some (.setUp settings)) : called.Books := by
  obtain ⟨r, begun, after, _, ran, start, begins, _, accounts, _⟩ :=
    ran_of_done (fun env r => Program.setUp env r settings) (fun _ _ => rfl) sound did
  obtain ⟨_, _, _, _, _, _, bump, _, ⟨_, _, none⟩, writes⟩ := Program.setUp_writes begins ran
  have opened : after.Holds called.env.program r.liquidationBook (LiquidationBook.new bump) :=
    writes.holds_one rfl
  exact .setUp r.liquidationBook bump (begins_of_held writes.sound opened).place (start ▸ none)
    (leavesBook_of_writes start accounts writes rfl) (spares_of_writes start accounts writes rfl)

/-- **Book and entries change together,** whatever is called. -/
theorem books (called : Called) (sound : called.before.Sound called.call.program) :
    called.Books := by
  rcases called.failed_or_done with
    ⟨_, same⟩ | ⟨instruction, begun, after, did, performed, start, _, accounts, _⟩
  · refine .still ?_ ?_
    · rw [SparesBook, same]
    · rw [Spares, same]
  · by_cases others : Recorded.kind LiquidationBook ∉ instruction.touches ∧
        Recorded.kind LiquidationEntry ∉ instruction.touches
    · rw [← start] at sound
      have book := Program.held_of_perform others.1 sound performed
      have entries := Program.held_of_perform others.2 sound performed
      refine .still ?_ ?_
      · rw [SparesBook, accounts, ← start]
        exact book
      · rw [Spares, accounts, ← start]
        exact entries
    -- Five instructions are left that write the book or entries.
    · cases instruction
      case setUp => exact books_of_setUp sound did
      case flagAccount => exact books_of_flag sound did
      case removeFlag => exact books_of_removeFlag sound did
      case liquidateAccount => exact books_of_liquidateAccount sound did
      case liquidateSelf => exact books_of_liquidateSelf sound did
      all_goals
        refine absurd ?_ others
        show Kind.liquidationBook ∉ _ ∧ Kind.liquidationEntry ∉ _
        simp [Instruction.touches]

/-- The flags among some calls. -/
def flagCount (history : List Called) : Nat :=
  history.countP fun called => called.done? = some .flagAccount

/-- A call keeps book and entries together, as long as the flags can be counted. -/
theorem agrees {flags : Nat} (sound : called.before.Sound called.call.program)
    (accepted : called.before.All called.call.program (Config.Accepted called.call.program))
    (agrees : called.before.Agrees called.call.program flags)
    (few : flags + flagCount [called] < UInt64.size) :
    called.report.accounts.Agrees called.call.program (flags + flagCount [called]) := by
  have more : flags ≤ flags + flagCount [called] := Nat.le_add_right ..
  cases called.books sound with
  | still book entries =>
    refine ⟨?_, agrees.tidy.congr entries, agrees.filed.congr entries, fun key entry found => ?_⟩
    · rw [Accounts.openEntries_congr entries]
      exact Accounts.All.congr (fun key book found => (agrees.book key book found).mono more) book
    · rw [entries] at found
      rw [book]
      exact agrees.counted key entry found
  | setUp key bump lies none book entries =>
    -- There was no book, so there was no entry.
    have bookless (other : Key) (found : LiquidationBook) :
        called.before.held called.call.program other ≠ some found := by
      intro held
      have place := (begins_of_held sound held).place
      obtain rfl := Option.some.inj (lies.symm.trans place)
      exact nomatch none.symm.trans held
    refine ⟨?_, agrees.tidy.congr entries, agrees.filed.congr entries,
      fun _ _ _ => exists_of_leavesBook book⟩
    · rw [Accounts.openEntries_congr entries, agrees.openEntries_eq_empty bookless,
        Finset.card_empty]
      refine Accounts.All.update ?_ book ?_
      · exact fun other found held => absurd held (bookless other found)
      · exact LiquidationBook.counts_new bump _
  | flag did bookKey entryKey configKey of flagger records flagged config position deadline begun
      start known counted seen answered book entries =>
    have one : flagCount [called] = 1 := by simp [flagCount, did]
    rw [one] at few ⊢
    obtain ⟨closed, active, tidy, same, cleared, books⟩ :=
      LiquidationRecords.flag_parts (Settings.delay_nonneg (accepted _ _ known).valid) answered
    have unopened := start ▸ seen.notMem_openEntries closed
    have filed := seen.filed (start ▸ agrees.filed)
    refine ⟨?_, agrees.tidy.update entries tidy, agrees.filed.update entries ?_,
      fun _ _ _ => exists_of_leavesBook book⟩
    · rw [Accounts.card_openEntries_open entries active unopened]
      refine sound.all_of_update (fun _ => rfl) counted book ?_
      rw [books]
      exact (agrees.book bookKey records.book counted).flag few
    · rw [Accounts.Filed, same, cleared]
      exact filed
  | close bookKey entryKey records liquidated counted found active book entries =>
    obtain ⟨cleared, books⟩ := LiquidationRecords.close_of_active active liquidated
    rw [books] at book
    rw [cleared] at entries
    have opened : entryKey ∈ called.before.openEntries called.call.program :=
      Accounts.mem_openEntries.mpr ⟨records.entry, found, active⟩
    have fewer := Accounts.card_openEntries_close entries rfl opened
    refine ⟨?_, agrees.tidy.update entries records.entry.tidy_cleared,
      agrees.filed.update entries (agrees.filed entryKey records.entry found),
      fun _ _ _ => exists_of_leavesBook book⟩
    refine sound.all_of_update (fun _ => rfl) counted book ?_
    have counts := agrees.book bookKey records.book counted
    rw [← fewer] at counts
    exact (counts.close active liquidated).mono more

end Called

/-! ## The life of the program -/

namespace Accounts.Evolves

variable {program : Key} {start accounts : Accounts} {history : List Called}

theorem agrees (fresh : start.Uninitialised program)
    (evolves : start.Evolves program history accounts)
    (few : Called.flagCount history < UInt64.size) :
    accounts.Agrees program (Called.flagCount history) := by
  -- By induction on the life of the program; the accounts that a call meets are sound.
  induction evolves with
  | start =>
    have unheld {α : Type} [Stored α] [Recorded α] (key : Key) (value : α) :
        start.held program key ≠ some value :=
      fun found => nomatch (held_of_vacant (fresh key)).symm.trans found
    exact ⟨fun _ _ found => absurd found (unheld _ _), fun _ _ found => absurd found (unheld _ _),
      fun _ _ found => absurd found (unheld _ _), fun _ _ found => absurd found (unheld _ _)⟩
  | @call history accounts evolves call now own ih =>
    subst own
    have total : Called.flagCount (history ++ [⟨call, accounts, now⟩]) =
        Called.flagCount history + Called.flagCount [⟨call, accounts, now⟩] :=
      List.countP_append
    rw [total] at few ⊢
    exact Called.agrees (evolves.sound fresh.sound) (evolves.accepted fresh)
      (ih (Nat.lt_of_le_of_lt (Nat.le_add_right ..) few)) few
  | others _ spares ih =>
    obtain ⟨book, tidy, filed, counted⟩ := ih few
    refine ⟨?_, tidy.congr (held_of_spares spares), filed.congr (held_of_spares spares), ?_⟩
    · rw [openEntries_congr (held_of_spares spares)]
      exact book.congr (held_of_spares spares)
    · rw [held_of_spares spares, held_of_spares spares]
      exact counted

/-- **The book counts the open entries.** Whatever is called, with whatever accounts and in whatever
order, as long as there are fewer than 2^64 flags: the book counts the entries that are open, and
its flags are the open entries, the removals and the liquidations together. An open entry was
flagged before its deadline, and it says truly whether its account has flagged itself. A closed
entry is the one that its account began with. And there is no entry without a book. -/
theorem book_counts_entries (fresh : start.Uninitialised program)
    (evolves : start.Evolves program history accounts)
    (few : Called.flagCount history < UInt64.size) :
    (∀ (key : Key) (book : LiquidationBook), accounts.held program key = some book →
      book.activeEntries.toNat = (accounts.openEntries program).card ∧
        book.totalFlagged.toNat = book.activeEntries.toNat + book.totalRemoved.toNat +
          book.totalLiquidated.toNat) ∧
    (∀ (key : Key) (entry : LiquidationEntry), accounts.held program key = some entry →
      (entry.active = true → entry.flaggedAt ≤ entry.deadline ∧
        (entry.bySelf = true ↔ entry.flagger = entry.account)) ∧
      (entry.active = false → ∃ bump,
        (Place.entry entry.account).address? program = some ⟨key, bump⟩ ∧
          entry = .new entry.account bump)) ∧
    ∀ (key : Key) (entry : LiquidationEntry), accounts.held program key = some entry →
      ∃ (key : Key) (book : LiquidationBook), accounts.held program key = some book := by
  have agrees := evolves.agrees fresh few
  refine ⟨fun key book held => ?_, fun key entry held => ⟨fun active => ?_, fun closed => ?_⟩,
    agrees.counted⟩
  · have counts := agrees.book key book held
    exact ⟨counts.active, counts.flagged⟩
  · have tidy := agrees.tidy key entry held
    exact ⟨tidy.due active, tidy.own active⟩
  · obtain ⟨place, bump, lies, cleared⟩ := agrees.filed key entry held
    -- The place of an entry is the address of its account.
    have here := (begins_of_held (evolves.sound fresh.sound) held).place
    obtain rfl := Option.some.inj ((Place.key?_of_address? lies).symm.trans here)
    exact ⟨bump, lies, ((agrees.tidy place entry held).closed closed).symm.trans cleared⟩

end Accounts.Evolves

namespace FirstLiquidation

open FirstDeposit (program key config statusBoard periodLedger shareRegistry rewardPool
  liquidationBook vaultAuthority staker)

theorem flagCount_earlier_lt : Called.flagCount earlier < UInt64.size :=
  Nat.lt_of_le_of_lt List.countP_le_length (by decide : 9 < UInt64.size)

/-- The liquidation meets a book, and an open entry that it counts. -/
theorem book_counts_entries_firstLiquidation :
    ∃ (book : LiquidationBook) (flagged : LiquidationEntry),
      (start.Uninitialised program ∧ Called.flagCount earlier < UInt64.size ∧
        liquidate.before.held program liquidationBook = some book ∧
        liquidate.before.held program entry = some flagged ∧ flagged.active = true) ∧
      book.activeEntries.toNat = (liquidate.before.openEntries program).card ∧
      book.totalFlagged.toNat = book.activeEntries.toNat + book.totalRemoved.toNat +
        book.totalLiquidated.toNat ∧
      flagged.flaggedAt ≤ flagged.deadline ∧
      (flagged.bySelf = true ↔ flagged.flagger = flagged.account) := by
  obtain ⟨past, _⟩ := evolves.upTo (rfl : _ = earlier ++ liquidate :: [])
  obtain ⟨r, begun, _, listed, ran, met, sound, _⟩ :=
    Called.ran_of_done Program.liquidateAccount (fun _ _ => rfl) (past.sound uninitialised.sound)
      liquidate_done
  obtain ⟨_, _, _, _, _, _, records, _, _, _, _, _, _, ⟨_, _, _, counted, _⟩, _, ⟨seen, due⟩, _⟩ :=
    Program.liquidateAccount_writes sound ran
  obtain rfl : _ = r := Option.some.inj ((rfl : _ = some _).symm.trans listed)
  have active := LiquidationEntry.active_of_checkLiquidatable due
  have found := seen.holds active
  rw [Run.Holds, met] at counted found
  obtain ⟨book, entries, _⟩ :=
    Accounts.Evolves.book_counts_entries uninitialised past flagCount_earlier_lt
  obtain ⟨due, own⟩ := (entries _ _ found).1 active
  exact ⟨records.book, records.entry,
    ⟨uninitialised, flagCount_earlier_lt, counted, found, active⟩, (book _ _ counted).1,
    (book _ _ counted).2, due, own⟩

end FirstLiquidation

end FeeTreasury
