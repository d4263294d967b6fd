import FeeTreasury.Proofs.Program.Backing
import FeeTreasury.Proofs.Program.Touches
import FeeTreasury.Proofs.Wire.Length

/-!
# What is stored is loaded again

A value can be stored in the room of its type, whatever the account held before, and the program
loads the same value from the account again. This holds of all values that have a header of their
type and, in case of a staker, a log that changes of shares have made
(`FeeTreasury.Storable`): such a log has six entries at most, and the account of a staker has room
for six. Whatever is called, the accounts of the program hold no other values
(`FeeTreasury.Accounts.Evolves.loads_what_was_stored`).
-/

namespace FeeTreasury

open Stateful

/-! ## Logs that the program can make -/

/-- A log that changes of shares have made, starting without entries. -/
inductive OwnershipLog.Built : OwnershipLog → Prop
  | empty : Built empty
  | recordChange {log after : OwnershipLog} {now : Int64} {openPeriod : FeePeriod}
      {index : UInt128} {shares supply : UInt64} (built : Built log)
      (recorded : log.recordChange now openPeriod index shares supply = .ok after) : Built after

theorem OwnershipLog.Built.length_le {log : OwnershipLog} (built : log.Built) :
    log.entries.length ≤ ownershipDepth := by
  induction built with
  | empty => exact Nat.zero_le _
  | recordChange _ recorded ih =>
    exact Nat.le_trans (length_recordChange_le recorded) (Nat.max_le.mpr ⟨ih, Nat.le_refl _⟩)

/-- A value that an account of its type may hold: it has the header of the type, and a staker has a
log that the program can make. All of its other fields are arbitrary. -/
structure Storable {α : Type} [Stored α] [Recorded α] (value : α) : Prop where
  header : ∃ bump, Stored.header value = Header.fresh (Stored.tag α) bump
  log : ∀ staker, record value = .staker staker → staker.ownership.Built

/-! ## The room of an account -/

theorem Codec.decode?_encode {α : Type} {codec : Codec α} {value : α}
    (canonical : codec.Canonical value) : codec.decode? (codec.encode value) = some value := by
  have read := codec.decode_encode value [] canonical
  rw [List.append_nil] at read
  exact decode?_eq_some.mpr ⟨[], read⟩

namespace Record

/-- The written form of a record. -/
def encode : Record → Bytes
  | config value => Config.codec.encode value
  | statusBoard value => StatusBoard.codec.encode value
  | periodLedger value => PeriodLedger.codec.encode value
  | shareRegistry value => ShareRegistry.codec.encode value
  | rewardPool value => RewardPool.codec.encode value
  | liquidationBook value => LiquidationBook.codec.encode value
  | liquidationEntry value => LiquidationEntry.codec.encode value
  | staker value => Staker.codec.encode value
  | rateFeed value => RateFeed.codec.encode value
  | approval value => Approval.codec.encode value

/-- The log of a staker has no more entries than its account has room for. -/
def Fits (record : Record) : Prop :=
  ∀ staker, record = .staker staker → staker.ownership.entries.length ≤ ownershipDepth

variable {record : Record}

theorem length_encode_le (fits : record.Fits) : record.encode.length ≤ record.kind.size := by
  cases record with
  | staker value =>
    have few := fits value rfl
    simp only [encode, Staker.length_encode, kind, Kind.size, Stored.size]
    omega
  | _ =>
    simp [encode, kind, Kind.size, Stored.size, Config.length_encode, StatusBoard.length_encode,
      PeriodLedger.length_encode, ShareRegistry.length_encode, RewardPool.length_encode,
      LiquidationBook.length_encode, LiquidationEntry.length_encode, RateFeed.length_encode,
      Approval.length_encode, periodCount]

theorem read?_encode (fits : record.Fits) : record.kind.read? record.encode = some record := by
  have reads {α : Type} [Stored α] (make : α → Record) (value : α)
      (canonical : (Stored.codec : Codec α).Canonical value) :
      ((Stored.codec : Codec α).decode? (Stored.codec.encode value)).map make =
        some (make value) :=
    congrArg (Option.map make) (Codec.decode?_encode canonical)
  cases record with
  | config value => exact reads _ _ value.canonical
  | statusBoard value => exact reads _ _ value.canonical
  | periodLedger value => exact reads _ _ value.canonical
  | shareRegistry value => exact reads _ _ value.canonical
  | rewardPool value => exact reads _ _ value.canonical
  | liquidationBook value => exact reads _ _ value.canonical
  | liquidationEntry value => exact reads _ _ value.canonical
  | staker value =>
    exact reads _ _ (Staker.canonical_iff.mpr (Nat.lt_of_le_of_lt (fits value rfl) (by decide)))
  | rateFeed value => exact reads _ _ value.canonical
  | approval value => exact reads _ _ value.canonical

end Record

section Recorded

variable {α : Type} [Stored α] [Recorded α] {value : α}

theorem Storable.fits (storable : Storable value) : (record value).Fits :=
  fun staker same => (storable.log staker same).length_le

theorem Storable.validate (storable : Storable value) : Stored.validate value = .ok () := by
  obtain ⟨_, header⟩ := storable.header
  rw [Stored.validate_eq_ok, header]
  exact ⟨rfl, rfl⟩

/-- A storable value has a written form, and the account of its type has room for it. -/
theorem Storable.canonical_and_length_le (storable : Storable value) :
    Stored.codec.Canonical value ∧
      ((Stored.codec : Codec α).encode value).length ≤ Stored.size α := by
  have reads := (record value).read?_encode storable.fits
  have room := (record value).length_encode_le storable.fits
  rw [Recorded.kind_record] at reads room
  rw [Recorded.read?_kind] at reads
  obtain ⟨other, read, same⟩ := Option.map_eq_some_iff.mp reads
  obtain rfl := Recorded.record_injective same
  obtain ⟨rest, read⟩ := Codec.decode?_eq_some.mp read
  obtain ⟨canonical, written⟩ := Stored.codec.of_decode _ _ _ read
  rw [written, List.length_append, Recorded.size_kind] at room
  exact ⟨canonical, Nat.le_of_add_right_le room⟩

end Recorded

namespace Exec

variable {α : Type} [Stored α] [Recorded α] {value : α} {key : Key} {run : Run}

omit [Recorded α] in
/-- A value that fits is stored, whatever was there before. -/
theorem exists_store
    (fits : ((Stored.codec : Codec α).encode value).length ≤
      (run.accounts.get key).data.length) :
    ∃ written, (run.accounts.get key).overwrite? (Stored.codec.encode value) = some written ∧
      store key value run = .ok () { run with accounts := run.accounts.set key written } := by
  refine ⟨_, if_pos fits, ?_⟩
  simp only [store, bind_eq_ok, account_eq_ok, and_assoc, exists_and_left, exists_eq_left',
    Account.overwrite?, if_pos fits, setAccount, modify_eq_ok]

/-- **What is stored is loaded.** -/
theorem load_of_store (storable : Storable value)
    (room : Stored.size α ≤ (run.accounts.get key).data.length) :
    ∃ after, store key value run = .ok () after ∧
      ∀ env : Env, (run.accounts.get key).owner = env.program →
        load env key after = .ok value after := by
  obtain ⟨canonical, length⟩ := storable.canonical_and_length_le
  obtain ⟨written, wrote, stored⟩ := exists_store (Nat.le_trans length room)
  refine ⟨_, stored, fun env owned => load_eq_ok.mpr ⟨Accounts.held_eq_some.mpr ?_, rfl⟩⟩
  rw [Accounts.get_set_self]
  exact (record?_of_overwrite? owned storable.validate canonical wrote).1

end Exec

/-! ## What the accounts of the program hold -/

/-- The logs of all stakers are logs that the program can make. -/
def Accounts.LogsBuilt (accounts : Accounts) (program : Key) : Prop :=
  ∀ (key : Key) (staker : Staker), accounts.held program key = some staker → staker.ownership.Built

theorem Accounts.LogsBuilt.congr {accounts after : Accounts} {program : Key}
    (built : accounts.LogsBuilt program)
    (same : after.held program = (accounts.held program : Key → Option Staker)) :
    after.LogsBuilt program :=
  All.congr built same

/-- Where one staker was written, its log is the only one that is new. -/
theorem Run.Writes.logsBuilt {program key : Key} {before after : Run} {puts : List (Key × Record)}
    {calls : List OutsideCall} {staker : Staker} (writes : before.Writes program after puts calls)
    (one : valuesOf Staker puts = [(key, staker)]) (built : before.accounts.LogsBuilt program)
    (log : staker.ownership.Built) : after.accounts.LogsBuilt program :=
  Accounts.All.update built (writes.held_one one) log

theorem ShareBooks.built_setShares {books after : ShareBooks} {pool : RewardPool}
    {balance : UInt64} {now : Int64} (changed : books.setShares pool balance now = .ok after)
    (built : books.staker.ownership.Built) : after.staker.ownership.Built :=
  built.recordChange (setShares_eq_ok changed).2.1

theorem ShareBooks.built_liquidate {books after : ShareBooks} {pool left : RewardPool}
    {plan : LiquidationPlan} {now : Int64}
    (liquidated : books.liquidate pool plan now = .ok (after, left))
    (built : books.staker.ownership.Built) : after.staker.ownership.Built := by
  obtain ⟨_, _, changed⟩ := liquidate_eq_ok liquidated
  exact built_setShares changed built

namespace Program

variable {env : Env} {run after : Run} {u : Unit} {keys : List Key} {instruction : Instruction}

/-- A claim leaves the log of the staker as it was. -/
theorem logsBuilt_payClaim {r : ClaimRoster} {owner : Key}
    {claim : ClaimTerms → Claiming Entitlement} (sound : run.accounts.Sound env.program)
    (ran : payClaim env r owner claim run = .ok u after)
    (settles : ∀ terms books claimed after, claim terms books = .ok claimed after →
      Claiming.Settles books after)
    (built : run.accounts.LogsBuilt env.program) : after.accounts.LogsBuilt env.program := by
  obtain ⟨_, _, _, books, left, _, _, _, _, _, found, _, _, _, answered, writes⟩ :=
    payClaim_writes sound ran settles
  obtain ⟨_, staker⟩ := (settles _ _ _ _ answered).staker
  have log := built _ _ found
  exact writes.logsBuilt rfl built (staker ▸ log)

/-- Whatever is asked, a log only changes by a change of shares. -/
theorem logsBuilt_of_perform (sound : run.accounts.Sound env.program)
    (built : run.accounts.LogsBuilt env.program)
    (performed : perform env keys instruction run = .ok u after) :
    after.accounts.LogsBuilt env.program := by
  by_cases others : Recorded.kind Staker ∉ instruction.touches
  · exact built.congr (held_of_perform others sound performed)
  · cases instruction
    case createStaker =>
      obtain ⟨_, _, ran⟩ := Exec.withRoster_eq_ok.mp performed
      obtain ⟨_, _, _, _, _, writes⟩ := createStaker_writes sound ran
      exact writes.logsBuilt rfl built .empty
    case recordShares =>
      obtain ⟨_, _, ran⟩ := Exec.withRoster_eq_ok.mp performed
      obtain ⟨_, _, _, _, _, _, _, _, found, answered, writes⟩ := recordShares_writes sound ran
      exact writes.logsBuilt rfl built (ShareBooks.built_setShares answered (built _ _ found))
    case claimFees =>
      obtain ⟨_, _, _, _, _, _, ran⟩ := Program.claimFees_eq_ok.mp performed
      exact logsBuilt_payClaim sound ran (fun _ _ _ _ => Claiming.settles_of_claim) built
    case claimOnBehalf =>
      obtain ⟨_, _, _, _, _, _, _, _, _, ran⟩ := Program.claimOnBehalf_eq_ok.mp performed
      exact logsBuilt_payClaim sound ran (fun _ _ _ _ => Claiming.settles_of_claimOnBehalf) built
    case depositCollateral =>
      obtain ⟨_, _, ran⟩ := Exec.withRoster_eq_ok.mp performed
      obtain ⟨_, _, _, _, _, found, _, _, writes⟩ := depositCollateral_writes sound ran
      have log := built _ _ found
      exact writes.logsBuilt rfl built log
    case withdrawCollateral =>
      obtain ⟨_, _, ran⟩ := Exec.withRoster_eq_ok.mp performed
      obtain ⟨_, _, _, _, _, _, _, _, _, _, _, _, _, found, _, _, _, _, writes⟩ :=
        withdrawCollateral_writes sound ran
      have log := built _ _ found
      exact writes.logsBuilt rfl built log
    case takeReward =>
      obtain ⟨_, _, ran⟩ := Exec.withRoster_eq_ok.mp performed
      obtain ⟨_, _, _, _, _, _, _, _, _, found, _, _, _, ⟨_, writes⟩ | ⟨_, writes⟩⟩ :=
        takeReward_writes sound ran
      · exact built.congr (writes.held_eq rfl)
      · have log := built _ _ found
        exact writes.logsBuilt rfl built log
    case liquidateAccount =>
      obtain ⟨_, _, ran⟩ := Exec.withRoster_eq_ok.mp performed
      obtain ⟨_, _, _, _, _, _, _, _, _, _, _, _, _, ⟨_, _, _, _, found⟩, _, _, _,
        ⟨_, _, liquidated⟩, writes⟩ := liquidateAccount_writes sound ran
      exact writes.logsBuilt rfl built (ShareBooks.built_liquidate liquidated (built _ _ found))
    case liquidateSelf =>
      obtain ⟨_, _, ran⟩ := Exec.withRoster_eq_ok.mp performed
      obtain ⟨_, _, _, _, _, _, _, _, _, _, _, _, _, ⟨_, _, _, _, found, _⟩, _, _,
        ⟨_, _, liquidated⟩, writes⟩ := liquidateSelf_writes sound ran
      exact writes.logsBuilt (valuesOf_optional rfl) built
        (ShareBooks.built_liquidate liquidated (built _ _ found))
    all_goals
      refine absurd ?_ others
      show Kind.staker ∉ _
      simp [Instruction.touches]

end Program

namespace Accounts.Evolves

variable {program : Key} {start accounts : Accounts} {history : List Called}

theorem logsBuilt (fresh : start.Uninitialised program)
    (evolves : start.Evolves program history accounts) : accounts.LogsBuilt program := by
  -- By induction on the life of the program; the accounts that a call meets are sound.
  induction evolves with
  | start =>
    intro key staker found
    exact nomatch (held_of_vacant (fresh key)).symm.trans found
  | @call _ accounts evolves call now own ih =>
    subst own
    rcases Called.failed_or_done ⟨call, accounts, now⟩ with
      ⟨_, same⟩ | ⟨_, begun, after, _, performed, begins, _, ends, _⟩
    · rw [same]
      exact ih
    · rw [ends]
      exact Program.logsBuilt_of_perform (begins ▸ evolves.sound fresh.sound) (begins ▸ ih)
        performed
  | others _ spares ih => exact ih.congr (held_of_spares spares)

/-- Whatever is called, what an account of the program holds is storable. -/
theorem storable {α : Type} [Stored α] [Recorded α] {value : α} {key : Key}
    (fresh : start.Uninitialised program) (evolves : start.Evolves program history accounts)
    (held : accounts.held program key = some value) : Storable value where
  header := by
    obtain ⟨_, _, valid⟩ := record?_eq_some.mp (held_eq_some.mp held)
    obtain ⟨tagged, initialized⟩ := Stored.validate_eq_ok.mp valid
    exact ⟨(Stored.header value).bump, by rw [Header.fresh, ← tagged, ← initialized]⟩
  log staker same := evolves.logsBuilt fresh key staker
    (held_eq_some.mpr ((held_eq_some.mp held).trans (congrArg some same)))

/-- **What is stored is loaded again.** Whatever was called, the accounts of the program are blank
or hold a value in the room of its type, and all values that they hold are storable. A storable
value of any type, of which every field but the header and the log is arbitrary, is stored in an
account with the room of its type, whatever the account held before; and if the account is the
program's, the same value is loaded from it. -/
theorem loads_what_was_stored {α : Type} [Stored α] [Recorded α]
    (fresh : start.Uninitialised program) (evolves : start.Evolves program history accounts) :
    (accounts.Sound program ∧
      ∀ (key : Key) (value : α), accounts.held program key = some value → Storable value) ∧
    ∀ value : α, Storable value → ∀ (run : Run) (key : Key),
      Stored.size α ≤ (run.accounts.get key).data.length →
        ∃ after, Exec.store key value run = .ok () after ∧
          ∀ env : Env, (run.accounts.get key).owner = env.program →
            Exec.load env key after = .ok value after :=
  ⟨⟨evolves.sound fresh.sound, fun _ _ => evolves.storable fresh⟩,
    fun _ storable _ _ => Exec.load_of_store storable⟩

end Accounts.Evolves

namespace FirstDeposit

/-- The staker's account is the program's, and none of its bytes is zero. -/
def filled : Run := .start ⟨[(staker, ⟨program, List.replicate (Stored.size Staker) 255⟩)]⟩

theorem loads_what_was_stored_firstDeposit :
    ∃ after, Exec.store staker (Staker.new (key 9) 254 1) filled = .ok () after ∧
      Exec.load ⟨program, 2, []⟩ staker after = .ok (Staker.new (key 9) 254 1) after := by
  have lies : filled.accounts.get staker = ⟨program, List.replicate (Stored.size Staker) 255⟩ :=
    Accounts.get_set_self ⟨[]⟩ staker _
  obtain ⟨after, stored, loads⟩ :=
    (Accounts.Evolves.loads_what_was_stored uninitialised evolves).2
      (Staker.new (key 9) 254 1) ⟨⟨254, rfl⟩, fun _ same => by cases same; exact .empty⟩
      filled staker (by rw [lies, List.length_replicate])
  exact ⟨after, stored, loads ⟨program, 2, []⟩ (by rw [lies])⟩

end FirstDeposit

end FeeTreasury
