import FeeTreasury.Proofs.Program.Chain
import FeeTreasury.Proofs.Program.Touches

/-!
# What a call does to the liquidation entries

An entry is opened by a flag and by nothing else, and it stays as the flag has left it until it is
closed (`FeeTreasury.Called.entries`). What settles an account leaves its entry closed
(`FeeTreasury.Called.closed_of_settles`). A liquidation by others asks for an open entry that is
due, and pays the flagger that the entry names (`FeeTreasury.Called.liquidateAccount_eq`). What
these calls have seen of a staker is what the accounts show of it (`FeeTreasury.Accounts.Standing`).
-/

namespace FeeTreasury

open Outcome

/-! ## Entries -/

namespace LiquidationRecords

variable {records after : LiquidationRecords} {settings : Settings} {position : Position}

/-- A flag opens the entry in the name of the flagger, with a deadline that lies the delay ahead. -/
theorem flag_eq_ok {flagger : Key} {now deadline : Int64}
    (flagged : records.flag settings flagger position now = .ok (after, deadline)) :
    (∃ limit, settings.requireLiquidationRatio = .ok limit ∧ limit < position.ratio) ∧
      after.entry.flagger = flagger ∧
      after.entry.deadline.toInt = now.toInt + settings.liquidationDelay.toInt := by
  simp only [flag, LiquidationBook.openEntry, bind_eq_ok, pure_eq_ok, require_eq_ok,
    decide_eq_true_eq, Prod.mk.injEq] at flagged
  obtain ⟨limit, limited, _, _, _, above, due, timed, _, ⟨_, _, rfl⟩, rfl, _⟩ := flagged
  exact ⟨⟨limit, limited, above⟩, rfl, toInt_of_fitTime timed⟩

/-- What a close leaves is closed. -/
theorem active_close (records : LiquidationRecords) (liquidated : Bool) :
    (records.close liquidated).1.entry.active = false := by
  unfold close LiquidationBook.closeEntry
  cases active : records.entry.active with
  | false => exact active
  | true => rfl

theorem active_of_removed
    (answered : records.removeIfHealthy settings position = .ok (after, true)) :
    after.entry.active = false := by
  simp only [removeIfHealthy, bind_eq_ok, ite_eq_ok, pure_eq_ok, Prod.mk.injEq,
    Bool.false_eq_true, and_false, false_or] at answered
  obtain ⟨_, _, _, _, _, closed⟩ := answered
  rw [← show (records.close false).1 = after from congrArg Prod.fst closed]
  exact records.active_close false

end LiquidationRecords

theorem LiquidationEntry.checkLiquidatable_eq_ok {entry : LiquidationEntry} {settings : Settings}
    {position : Position} {now : Int64} {u : Unit} :
    entry.checkLiquidatable settings position now = .ok u ↔
      ∃ limit, settings.requireIssuanceRatio = .ok limit ∧ entry.active = true ∧
        entry.deadline ≤ now ∧ limit < position.ratio := by
  simp only [checkLiquidatable, deadlinePassed, bind_eq_ok, require_eq_ok, decide_eq_true_eq,
    exists_const]

/-! ## What accounts show of a staker -/

/-- The two feeds of a market are those of its assets. -/
theorem Oracle.assets_of_market {oracle : Oracle} {market : Market}
    (answered : oracle.market = .ok market) :
    oracle.collateral.asset = .collateral ∧ oracle.totalDebt.asset = .totalDebt := by
  have different : AssetKey.totalDebt ≠ AssetKey.collateral := by decide
  obtain ⟨⟨priced, _⟩, valued⟩ := market_eq_ok.mp answered
  simp only [rateFor, reading?, ↓reduceIte, different, Option.ite_none_right_eq_some]
    at priced valued
  exact ⟨priced.1, valued.1⟩

namespace Accounts

variable {accounts : Accounts} {program : Key}

/-- The account at a place holds a value. -/
def At {α : Type} [Stored α] [Recorded α] (accounts : Accounts) (program : Key) (place : Place)
    (value : α) : Prop :=
  ∃ key, place.key? program = some key ∧ accounts.held program key = some value

/-- What sound accounts hold lies at its place. -/
theorem Sound.at_place {α : Type} [Stored α] [Recorded α] {key : Key} {place : Place} {value : α}
    (sound : accounts.Sound program) (found : accounts.held program key = some value)
    (placed : (record value).place = place) : accounts.At program place value :=
  ⟨key, placed ▸ (begins_of_held sound found).place, found⟩

/-- What the accounts show of a staker at a time: the settings in force, the market that the feeds
of its two assets make, and the position of the staker at that market. -/
structure Standing (accounts : Accounts) (program : Key) (now : Int64) (account : Key)
    (settings : Settings) (market : Market) (position : Position) : Prop where
  inForce : ∃ config : Config, accounts.At program .config config ∧ config.settings = settings
  priced : ∃ collateral totalDebt : RateFeed,
    accounts.At program (.feed .collateral) collateral ∧
      accounts.At program (.feed .totalDebt) totalDebt ∧
      (Oracle.new collateral totalDebt settings now).market = .ok market
  valued : ∃ (registry : ShareRegistry) (staker : Staker),
    accounts.At program .shareRegistry registry ∧ accounts.At program (.staker account) staker ∧
      staker.owner = account ∧ staker.position registry.supply market = .ok position

/-- The entry of a staker is open. -/
def Flagged (accounts : Accounts) (program account : Key) : Prop :=
  ∃ entry : LiquidationEntry, accounts.At program (.entry account) entry ∧ entry.active = true

end Accounts

/-- What an instruction has seen of a staker is what the accounts show. -/
theorem Run.standing {run : Run} {env : Env} {configKey registryKey stakerKey : Key}
    {collateralFeed debtFeed : Key} {config : Config} {registry : ShareRegistry} {staker : Staker}
    {oracle : Oracle} {market : Market} {position : Position}
    (sound : run.accounts.Sound env.program) (known : run.Holds env.program configKey config)
    (counted : run.Holds env.program registryKey registry)
    (found : run.Holds env.program stakerKey staker)
    (rates : run.OracleAt env config.settings collateralFeed debtFeed oracle)
    (fresh : oracle.market = .ok market)
    (valued : staker.position registry.supply market = .ok position) :
    run.accounts.Standing env.program env.now staker.owner config.settings market position where
  inForce := ⟨config, sound.at_place known rfl, rfl⟩
  priced := by
    obtain ⟨collateral, totalDebt, collateralFound, debtFound, rfl⟩ := rates
    obtain ⟨first, second⟩ := Oracle.assets_of_market fresh
    exact ⟨collateral, totalDebt, sound.at_place collateralFound (congrArg Place.feed first),
      sound.at_place debtFound (congrArg Place.feed second), fresh⟩
  valued := ⟨registry, staker, sound.at_place counted rfl, sound.at_place found rfl, rfl, valued⟩

/-! ## Calls about a staker -/

namespace Called

/-- The accounts that a call lists. -/
def keys (called : Called) : List Key := called.call.accounts.map Listed.key

/-- The staker account that a flag, its removal or a liquidation lists. -/
def subject? (called : Called) : Option Key :=
  match called.done? with
  | some .flagAccount => (Roster.ofKeys? called.keys).map FlagRoster.staker
  | some .removeFlag => (Roster.ofKeys? called.keys).map RemoveRoster.staker
  | some .liquidateAccount =>
    (Roster.ofKeys? called.keys).map fun roster : DelinquentRoster => roster.common.staker
  | some .liquidateSelf => (Roster.ofKeys? called.keys).map LiquidationRoster.staker
  | _ => none

/-- The staker that such a call is about: the owner of the staker account. -/
def about? (called : Called) : Option Key :=
  called.subject?.bind fun key =>
    (called.before.held called.call.program key : Option Staker).map Staker.owner

/-- The flagger that a flag lists. -/
def flagger? (called : Called) : Option Key :=
  match called.done? with
  | some .flagAccount => (Roster.ofKeys? called.keys).map FlagRoster.flagger
  | _ => none

/-- A flag of a staker by a flagger who signs it, under some settings: the ratio is above the
liquidation ratio. -/
structure Flags (called : Called) (account flagger : Key) (settings : Settings) : Prop where
  done : called.done? = some .flagAccount
  about : called.about? = some account
  signed : called.flagger? = some flagger ∧ flagger ∈ called.call.signers
  above : ∃ market position limit,
    called.before.Standing called.call.program called.now account settings market position ∧
      settings.requireLiquidationRatio = .ok limit ∧ limit < position.ratio

/-- A flag that left an open entry at a key: the entry names the flagger, and its deadline lies the
delay after the flag. -/
def Opens (called : Called) (key : Key) (entry : LiquidationEntry) : Prop :=
  ∃ account settings, called.Flags account entry.flagger settings ∧
    (Place.entry account).key? called.call.program = some key ∧
    entry.deadline.toInt = called.now.toInt + settings.liquidationDelay.toInt

/-- A liquidation of a staker, by others or by the owner, or a removal that has closed its entry. -/
def Settles (called : Called) (account : Key) : Prop :=
  called.about? = some account ∧
    (called.done? = some .liquidateAccount ∨ called.done? = some .liquidateSelf ∨
      called.done? = some .removeFlag ∧
        ¬ called.report.accounts.Flagged called.call.program account)

/-- A liquidation of a staker by others: the ratio is above the issuance ratio, and all that is
transferred is what the plan leaves to a flagger and to a signer of the liquidation, to token
accounts of theirs. -/
structure Liquidates (called : Called) (account flagger : Key) : Prop where
  done : called.done? = some .liquidateAccount
  about : called.about? = some account
  pays : ∃ settings market position limit terms plan,
    called.before.Standing called.call.program called.now account settings market position ∧
      settings.requireIssuanceRatio = .ok limit ∧ limit < position.ratio ∧
      settings.termsForOthers market.price = .ok terms ∧ position.plan terms = .ok plan ∧
      ∃ vault authority flaggerTokens liquidator liquidatorTokens,
        called.before.TokensOf flaggerTokens flagger ∧ liquidator ∈ called.call.signers ∧
        called.before.TokensOf liquidatorTokens liquidator ∧
        called.report.calls = Exec.payment vault flaggerTokens authority plan.flagReward ++
          Exec.payment vault liquidatorTokens authority plan.liquidateReward

variable {called : Called} {instruction : Instruction} {account key : Key}
  {entry : LiquidationEntry}

/-- What was done with a roster read it from the keys that the call lists, and came to its end on
the accounts that the call met. -/
theorem ran_of_done {α : Type} [Roster α] (work : Env → α → Exec Unit)
    (asks : ∀ env keys, Program.perform env keys instruction = Program.withRoster keys (work env))
    (sound : called.before.Sound called.call.program) (did : called.done? = some instruction) :
    ∃ roster begun after, Roster.ofKeys? called.keys = some roster ∧
      work called.env roster begun = .ok () after ∧ begun.accounts = called.before ∧
      begun.accounts.Sound called.call.program ∧ begun.calls = [] ∧
      called.report.accounts = after.accounts ∧ called.report.calls = after.calls := by
  obtain ⟨begun, after, performed, start, silent, accounts, calls⟩ := performed_of_done did
  rw [asks, Exec.withRoster_eq_ok] at performed
  obtain ⟨roster, listed, ran⟩ := performed
  exact ⟨roster, begun, after, listed, ran, start, start ▸ sound, silent, accounts, calls⟩

theorem subject?_of_liquidateAccount {roster : DelinquentRoster}
    (did : called.done? = some .liquidateAccount)
    (listed : Roster.ofKeys? called.keys = some roster) :
    called.subject? = some roster.common.staker := by
  simp only [subject?, did, listed, Option.map_some]

theorem subject?_of_liquidateSelf {roster : LiquidationRoster}
    (did : called.done? = some .liquidateSelf) (listed : Roster.ofKeys? called.keys = some roster) :
    called.subject? = some roster.staker := by
  simp only [subject?, did, listed, Option.map_some]

theorem about?_eq_some {staker : Staker} (listed : called.subject? = some key)
    (found : called.before.held called.call.program key = some staker) :
    called.about? = some staker.owner := by
  rw [about?, listed, Option.bind_some, found, Option.map_some]

/-! ## What a call does to the entries -/

/-- A call has left the entries as they were. -/
def Spares (called : Called) : Prop :=
  called.report.accounts.held called.call.program =
    (called.before.held called.call.program : Key → Option LiquidationEntry)

/-- A call has left an entry at a key, and all others as they were. -/
def Leaves (called : Called) (key : Key) (entry : LiquidationEntry) : Prop :=
  called.report.accounts.held called.call.program =
    Function.update (called.before.held called.call.program) key (some entry)

section Writes

variable {begun after : Run} {puts : List (Key × Record)} {calls : List OutsideCall}

theorem spares_of_writes (start : begun.accounts = called.before)
    (accounts : called.report.accounts = after.accounts)
    (writes : begun.Writes called.call.program after puts calls)
    (none : valuesOf LiquidationEntry puts = []) : called.Spares := by
  rw [Spares, accounts, ← start]
  exact writes.held_eq none

theorem leaves_of_writes (start : begun.accounts = called.before)
    (accounts : called.report.accounts = after.accounts)
    (writes : begun.Writes called.call.program after puts calls)
    (one : valuesOf LiquidationEntry puts = [(key, entry)]) : called.Leaves key entry := by
  rw [Leaves, accounts, ← start]
  exact writes.held_one one

end Writes

/-- A flag leaves one entry that it has opened. -/
theorem flag_eq (sound : called.before.Sound called.call.program)
    (did : called.done? = some .flagAccount) :
    ∃ key entry, called.Opens key entry ∧ called.Leaves key entry := by
  obtain ⟨r, begun, after, listed, ran, start, sound, _, accounts, _⟩ :=
    ran_of_done Program.flagAccount (fun _ _ => rfl) sound did
  obtain ⟨config, board, registry, staker, oracle, market, position, records, flagged, deadline,
    _, ⟨signed, known, _, _⟩, counted, _, found, rates, fresh, valued, ⟨bump, lies, _⟩, answered, _,
    writes⟩ := Program.flagAccount_writes sound ran
  obtain ⟨⟨limit, limited, above⟩, named, due⟩ := LiquidationRecords.flag_eq_ok answered
  have standing := Run.standing sound known counted found rates fresh valued
  have subject : called.subject? = some r.staker := by
    simp only [subject?, did, listed, Option.map_some]
  have flagger : called.flagger? = some r.flagger := by
    simp only [flagger?, did, listed, Option.map_some]
  rw [start] at standing
  refine ⟨r.entry, flagged.entry, ⟨staker.owner, config.settings, ⟨did, ?_, ?_, ?_⟩, ?_, due⟩, ?_⟩
  · exact about?_eq_some subject (start ▸ found)
  · rw [named]
    exact ⟨flagger, signed⟩
  · exact ⟨market, position, limit, standing, limited, above⟩
  · exact Place.key?_of_address? lies
  · exact leaves_of_writes start accounts writes rfl

/-- A removal leaves the entries as they were, or one that it has closed. -/
theorem removeFlag_eq (sound : called.before.Sound called.call.program)
    (did : called.done? = some .removeFlag) :
    called.Spares ∨ ∃ key entry, entry.active = false ∧ called.Leaves key entry := by
  obtain ⟨r, begun, after, listed, ran, start, sound, _, accounts, _⟩ :=
    ran_of_done Program.removeFlag (fun _ _ => rfl) sound did
  obtain ⟨_, _, _, _, _, _, _, left, removed, _, _, _, _, _, _, _, _, answered, writes⟩ :=
    Program.removeFlag_writes sound ran
  cases removed with
  | false => exact .inl (spares_of_writes start accounts writes rfl)
  | true =>
    have closed := LiquidationRecords.active_of_removed answered
    exact .inr ⟨r.entry, left.entry, closed, leaves_of_writes start accounts writes rfl⟩

/-- A liquidation by others asks for an open entry that is due, pays the flagger that it names, and
leaves it closed. -/
theorem liquidateAccount_eq (sound : called.before.Sound called.call.program)
    (did : called.done? = some .liquidateAccount) :
    ∃ (account key : Key) (entry closed : LiquidationEntry),
      (Place.entry account).key? called.call.program = some key ∧
      called.before.held called.call.program key = some entry ∧ entry.active = true ∧
      entry.deadline ≤ called.now ∧ called.Liquidates account entry.flagger ∧
      closed.active = false ∧ called.Leaves key closed := by
  obtain ⟨r, begun, after, listed, ran, start, sound, silent, accounts, calls⟩ :=
    ran_of_done Program.liquidateAccount (fun _ _ => rfl) sound did
  obtain ⟨config, _, books, _, _, _, records, oracle, market, position, terms, plan,
    ⟨signed, known, _, _⟩, ⟨_, counted, _, _, found⟩, ⟨rates, fresh, valued⟩, ⟨seen, due⟩,
    ⟨flaggerTokens, liquidatorTokens⟩, ⟨agreed, planned, _⟩, writes⟩ :=
    Program.liquidateAccount_writes sound ran
  have held := seen.holds (LiquidationEntry.active_of_checkLiquidatable due)
  obtain ⟨bump, lies, _⟩ := seen
  obtain ⟨limit, limited, active, passed, above⟩ := LiquidationEntry.checkLiquidatable_eq_ok.mp due
  have standing := Run.standing sound known counted found rates fresh valued
  rw [start] at standing flaggerTokens liquidatorTokens
  have paid := writes.calls
  rw [silent, List.nil_append, ← calls] at paid
  refine ⟨books.staker.owner, r.common.entry, records.entry, (records.close true).1.entry,
    Place.key?_of_address? lies, start ▸ held, active, passed, ⟨did, ?_, ?_⟩,
    records.active_close true, leaves_of_writes start accounts writes rfl⟩
  · exact about?_eq_some (subject?_of_liquidateAccount did listed) (start ▸ found)
  · exact ⟨config.settings, market, position, limit, terms, plan, standing, limited, above, agreed,
      planned, _, _, _, _, _, flaggerTokens, signed, liquidatorTokens, paid⟩

/-- A liquidation by the owner finds the entry closed and leaves it so, or it closes it. -/
theorem liquidateSelf_eq (sound : called.before.Sound called.call.program)
    (did : called.done? = some .liquidateSelf) :
    ∃ account key, called.about? = some account ∧
      (Place.entry account).key? called.call.program = some key ∧
      (called.Spares ∧ (∀ entry : LiquidationEntry,
          called.before.held called.call.program key = some entry → entry.active = false) ∨
        ∃ closed, closed.active = false ∧ called.Leaves key closed) := by
  obtain ⟨r, begun, after, listed, ran, start, sound, _, accounts, _⟩ :=
    ran_of_done Program.liquidateSelf (fun _ _ => rfl) sound did
  obtain ⟨_, _, books, _, _, _, records, _, _, _, _, _, _, ⟨_, _, _, _, found, owned⟩, _,
    ⟨⟨bump, lies, seen⟩, _⟩, _, writes⟩ := Program.liquidateSelf_writes sound ran
  have about : called.about? = some books.staker.owner :=
    about?_eq_some (subject?_of_liquidateSelf did listed) (start ▸ found)
  refine ⟨r.signer, r.entry, owned ▸ about, Place.key?_of_address? lies, ?_⟩
  cases active : records.entry.active with
  | false =>
    rw [active] at writes
    left
    constructor
    · exact spares_of_writes start accounts writes rfl
    · intro entry held
      rw [← start] at held
      rcases seen with ⟨empty, _⟩ | ⟨_, stored⟩
      · exact nomatch (Exec.held_of_isEmpty empty).symm.trans held
      · obtain rfl := Option.some.inj (stored.symm.trans held)
        exact active
  | true =>
    rw [active] at writes
    exact .inr ⟨_, records.active_close true, leaves_of_writes start accounts writes rfl⟩

/-- **What a call does to the entries.** It leaves them as they were, or it leaves one changed; and
if that is open, the call is the flag that has opened it. -/
theorem entries (called : Called) (sound : called.before.Sound called.call.program) :
    called.Spares ∨
      ∃ key entry, (entry.active = true → called.Opens key entry) ∧ called.Leaves key entry := by
  rcases called.failed_or_done with
    ⟨_, same⟩ | ⟨instruction, begun, after, did, performed, start, _, accounts, _⟩
  · left
    rw [Spares, same]
  · by_cases others : Recorded.kind LiquidationEntry ∉ instruction.touches
    · left
      rw [← start] at sound
      have spared := Program.held_of_perform others sound performed
      rw [Spares, accounts, ← start]
      exact spared
    -- Four instructions are left that write entries.
    · cases instruction
      case flagAccount =>
        obtain ⟨key, entry, opens, leaves⟩ := flag_eq sound did
        exact .inr ⟨key, entry, fun _ => opens, leaves⟩
      case removeFlag =>
        rcases removeFlag_eq sound did with spares | ⟨key, entry, closed, leaves⟩
        · exact .inl spares
        · exact .inr ⟨key, entry, fun active => absurd active (Bool.eq_false_iff.mp closed), leaves⟩
      case liquidateAccount =>
        obtain ⟨_, key, _, left, _, _, _, _, _, closed, leaves⟩ := liquidateAccount_eq sound did
        exact .inr ⟨key, left, fun active => absurd active (Bool.eq_false_iff.mp closed), leaves⟩
      case liquidateSelf =>
        obtain ⟨_, key, _, _, ⟨spares, _⟩ | ⟨left, closed, leaves⟩⟩ := liquidateSelf_eq sound did
        · exact .inl spares
        · exact .inr ⟨key, left, fun active => absurd active (Bool.eq_false_iff.mp closed), leaves⟩
      all_goals
        refine absurd ?_ others
        show Kind.liquidationEntry ∉ _
        simp [Instruction.touches]

theorem closed_of_leaves {closed : LiquidationEntry} (leaves : called.Leaves key closed)
    (inactive : closed.active = false)
    (left : called.report.accounts.held called.call.program key = some entry) :
    entry.active = false := by
  rw [leaves, Function.update_self] at left
  obtain rfl := Option.some.inj left
  exact inactive

/-- What has settled an account leaves its entry closed. -/
theorem closed_of_settles (sound : called.before.Sound called.call.program)
    (settles : called.Settles account)
    (placed : (Place.entry account).key? called.call.program = some key)
    (left : called.report.accounts.held called.call.program key = some entry) :
    entry.active = false := by
  obtain ⟨about, liquidated | liquidated | ⟨_, unflagged⟩⟩ := settles
  · obtain ⟨other, place, _, closed, lies, _, _, _, liquidates, inactive, leaves⟩ :=
      liquidateAccount_eq sound liquidated
    obtain rfl := Option.some.inj (liquidates.about.symm.trans about)
    obtain rfl := Option.some.inj (lies.symm.trans placed)
    exact closed_of_leaves leaves inactive left
  · obtain ⟨other, place, concerns, lies, settled⟩ := liquidateSelf_eq sound liquidated
    obtain rfl := Option.some.inj (concerns.symm.trans about)
    obtain rfl := Option.some.inj (lies.symm.trans placed)
    rcases settled with ⟨spares, found⟩ | ⟨closed, inactive, leaves⟩
    · rw [spares] at left
      exact found entry left
    · exact closed_of_leaves leaves inactive left
  · by_contra active
    rw [Bool.not_eq_false] at active
    exact unflagged ⟨entry, ⟨key, placed, left⟩, active⟩

end Called

end FeeTreasury
