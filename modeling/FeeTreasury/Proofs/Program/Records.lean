import FeeTreasury.Program.Run
import FeeTreasury.Proofs.Wire.Canonical

/-!
# The records of the program

An account of the program holds a record of one of ten kinds, or it is blank. What the program reads
from an account is a function of the account alone (`FeeTreasury.Account.record?`), whatever type it
asks for, since the header comes first in every written form and names the kind. The accounts of the
chain are sound if each of the program's is blank, or holds a record in the room of its kind at the
address of its place (`FeeTreasury.Accounts.Sound`). Such accounts are no token accounts.
-/

namespace FeeTreasury

open Outcome

/-! ## Kinds and records -/

/-- The types of accounts. -/
inductive Kind where
  | config
  | statusBoard
  | periodLedger
  | shareRegistry
  | rewardPool
  | liquidationBook
  | liquidationEntry
  | staker
  | rateFeed
  | approval
  deriving DecidableEq, Repr

/-- A value of one of the types. -/
inductive Record where
  | config (value : Config)
  | statusBoard (value : StatusBoard)
  | periodLedger (value : PeriodLedger)
  | shareRegistry (value : ShareRegistry)
  | rewardPool (value : RewardPool)
  | liquidationBook (value : LiquidationBook)
  | liquidationEntry (value : LiquidationEntry)
  | staker (value : Staker)
  | rateFeed (value : RateFeed)
  | approval (value : Approval)
  deriving DecidableEq, Repr

namespace Record

/-- Where a record lies: the accounts of which there is one at addresses of their own, the others at
the address of what they are about. -/
def place : Record → Place
  | config _ => .config
  | statusBoard _ => .statusBoard
  | periodLedger _ => .periodLedger
  | shareRegistry _ => .shareRegistry
  | rewardPool _ => .rewardPool
  | liquidationBook _ => .liquidationBook
  | liquidationEntry value => .entry value.account
  | staker value => .staker value.owner
  | rateFeed value => .feed value.asset
  | approval value => .approval value.authoriser value.delegate

/-- The type of a record. -/
def kind : Record → Kind
  | config _ => .config
  | statusBoard _ => .statusBoard
  | periodLedger _ => .periodLedger
  | shareRegistry _ => .shareRegistry
  | rewardPool _ => .rewardPool
  | liquidationBook _ => .liquidationBook
  | liquidationEntry _ => .liquidationEntry
  | staker _ => .staker
  | rateFeed _ => .rateFeed
  | approval _ => .approval

end Record

namespace Kind

/-- The tag that names a kind. -/
def tag : Kind → Tag
  | config => Stored.tag Config
  | statusBoard => Stored.tag StatusBoard
  | periodLedger => Stored.tag PeriodLedger
  | shareRegistry => Stored.tag ShareRegistry
  | rewardPool => Stored.tag RewardPool
  | liquidationBook => Stored.tag LiquidationBook
  | liquidationEntry => Stored.tag LiquidationEntry
  | staker => Stored.tag Staker
  | rateFeed => Stored.tag RateFeed
  | approval => Stored.tag Approval

/-- Length of the data of an account of a kind. -/
def size : Kind → Nat
  | config => Stored.size Config
  | statusBoard => Stored.size StatusBoard
  | periodLedger => Stored.size PeriodLedger
  | shareRegistry => Stored.size ShareRegistry
  | rewardPool => Stored.size RewardPool
  | liquidationBook => Stored.size LiquidationBook
  | liquidationEntry => Stored.size LiquidationEntry
  | staker => Stored.size Staker
  | rateFeed => Stored.size RateFeed
  | approval => Stored.size Approval

/-- The record of a kind that bytes open with. -/
def read? : Kind → Bytes → Option Record
  | config, data => (Config.codec.decode? data).map .config
  | statusBoard, data => (StatusBoard.codec.decode? data).map .statusBoard
  | periodLedger, data => (PeriodLedger.codec.decode? data).map .periodLedger
  | shareRegistry, data => (ShareRegistry.codec.decode? data).map .shareRegistry
  | rewardPool, data => (RewardPool.codec.decode? data).map .rewardPool
  | liquidationBook, data => (LiquidationBook.codec.decode? data).map .liquidationBook
  | liquidationEntry, data => (LiquidationEntry.codec.decode? data).map .liquidationEntry
  | staker, data => (Staker.codec.decode? data).map .staker
  | rateFeed, data => (RateFeed.codec.decode? data).map .rateFeed
  | approval, data => (Approval.codec.decode? data).map .approval

/-- All kinds. -/
def all : List Kind :=
  [config, statusBoard, periodLedger, shareRegistry, rewardPool, liquidationBook, liquidationEntry,
    staker, rateFeed, approval]

/-- The kind that a tag names. -/
def ofTag? (tag : Tag) : Option Kind := all.find? fun kind => kind.tag = tag

theorem ofTag?_tag (kind : Kind) : ofTag? kind.tag = some kind := by
  cases kind <;> decide +kernel

theorem tag_of_ofTag? {tag : Tag} {kind : Kind} (named : ofTag? tag = some kind) :
    kind.tag = tag := by
  unfold ofTag? at named
  simpa only [decide_eq_true_eq] using List.find?_some named

/-- No kind is named by zeros. -/
theorem tag_ne_zeros (kind : Kind) : kind.tag ≠ ⟨Vector.replicate 8 0⟩ := by
  cases kind <;> decide +kernel

/-- No kind has the length of a token account. -/
theorem size_ne_token (kind : Kind) : kind.size ≠ TokenAccount.size := by
  cases kind <;> decide +kernel

theorem kind_of_read? {kind : Kind} {data : Bytes} {record : Record}
    (reads : kind.read? data = some record) : record.kind = kind := by
  cases kind <;>
  · obtain ⟨_, _, rfl⟩ := Option.map_eq_some_iff.mp reads
    rfl

end Kind

/-- A type of records. Its written form opens with the header. An instance gives the kind, the
constructor and the reader; the laws are then proved by cases over the records, or hold by
definition. -/
class Recorded (α : Type) [Stored α] where
  kind : Kind
  record : α → Record
  value? : Record → Option α
  kind_record : ∀ value, (record value).kind = kind := by exact fun _ => rfl
  value?_eq_some : ∀ held value, value? held = some value ↔ held = record value := by
    intro held value
    cases held <;> simp
  exists_value : ∀ held : Record, held.kind = kind → ∃ value, held = record value := by
    intro held
    cases held <;> simp [Record.kind]
  tag_kind : kind.tag = Stored.tag α := by rfl
  size_kind : kind.size = Stored.size α := by rfl
  read?_kind : ∀ data,
      kind.read? data = ((Stored.codec : Codec α).decode? data).map record := by
    exact fun _ => rfl
  header_first : ∀ value : α, ∃ tail,
      Stored.codec.encode value = Header.codec.encode (Stored.header value) ++ tail := by
    exact fun _ => ⟨_, rfl⟩

instance : Recorded Config where
  kind := .config
  record := .config
  value?
    | .config value => some value
    | _ => none

instance : Recorded StatusBoard where
  kind := .statusBoard
  record := .statusBoard
  value?
    | .statusBoard value => some value
    | _ => none

instance : Recorded PeriodLedger where
  kind := .periodLedger
  record := .periodLedger
  value?
    | .periodLedger value => some value
    | _ => none

instance : Recorded ShareRegistry where
  kind := .shareRegistry
  record := .shareRegistry
  value?
    | .shareRegistry value => some value
    | _ => none

instance : Recorded RewardPool where
  kind := .rewardPool
  record := .rewardPool
  value?
    | .rewardPool value => some value
    | _ => none

instance : Recorded LiquidationBook where
  kind := .liquidationBook
  record := .liquidationBook
  value?
    | .liquidationBook value => some value
    | _ => none

instance : Recorded LiquidationEntry where
  kind := .liquidationEntry
  record := .liquidationEntry
  value?
    | .liquidationEntry value => some value
    | _ => none

instance : Recorded Staker where
  kind := .staker
  record := .staker
  value?
    | .staker value => some value
    | _ => none

instance : Recorded RateFeed where
  kind := .rateFeed
  record := .rateFeed
  value?
    | .rateFeed value => some value
    | _ => none

instance : Recorded Approval where
  kind := .approval
  record := .approval
  value?
    | .approval value => some value
    | _ => none

export Recorded (record)

theorem Recorded.value?_record {α : Type} [Stored α] [Recorded α] (value : α) :
    Recorded.value? (record value) = some value :=
  (Recorded.value?_eq_some _ _).mpr rfl

theorem Recorded.record_injective {α : Type} [Stored α] [Recorded α] {value other : α}
    (same : record value = record other) : value = other := by
  have read := Recorded.value?_record value
  rw [same, Recorded.value?_record] at read
  exact (Option.some.inj read).symm

/-- A record is not a value of a type of another kind. -/
theorem Recorded.value?_eq_none {α β : Type} [Stored α] [Recorded α] [Stored β] [Recorded β]
    {value : α} :
    Recorded.value? (record value) = (none : Option β) ↔ Recorded.kind α ≠ Recorded.kind β := by
  constructor
  · intro unread same
    obtain ⟨other, equal⟩ := Recorded.exists_value (α := β) (record value)
      ((Recorded.kind_record value).trans same)
    rw [equal, Recorded.value?_record] at unread
    exact nomatch unread
  · intro different
    by_contra read
    obtain ⟨other, read⟩ := Option.ne_none_iff_exists'.mp read
    apply different
    rw [← Recorded.kind_record value, (Recorded.value?_eq_some _ _).mp read, Recorded.kind_record]

/-! ## What the program reads from an account -/

/-- The record that an account of the program holds: the one of the kind that the header names, if
the header says that the account was set up. -/
def Account.record? (program : Key) (account : Account) : Option Record :=
  if account.owner = program then
    match Header.codec.decode? account.data with
    | none => none
    | some header =>
      if header.initialized then (Kind.ofTag? header.tag).bind fun kind => kind.read? account.data
      else none
  else none

theorem Codec.decode?_eq_some {α : Type} {codec : Codec α} {data : Bytes} {value : α} :
    codec.decode? data = some value ↔ ∃ rest, codec.decode data = .ok (value, rest) := by
  unfold decode?
  cases codec.decode data with
  | error cause => simp only [reduceCtorEq, exists_false]
  | ok decoded =>
    obtain ⟨read, rest⟩ := decoded
    simp only [Option.some.injEq, Except.ok.injEq, Prod.mk.injEq, exists_and_left, exists_eq',
      and_true]

theorem Stored.validate_eq_ok {α : Type} [Stored α] {value : α} {u : Unit} :
    validate value = .ok u ↔
      (header value).tag = tag α ∧ (header value).initialized = true := by
  simp only [validate, Header.validate, bind_eq_ok, require_eq_ok, decide_eq_true_eq,
    exists_const]

section Recorded

variable {α : Type} [Stored α] [Recorded α] {program : Key} {account : Account} {value : α}

/-- Bytes that open with a written value open with its header. -/
theorem header_of_decode? {data : Bytes}
    (read : (Stored.codec : Codec α).decode? data = some value) :
    Header.codec.decode? data = some (Stored.header value) := by
  obtain ⟨rest, read⟩ := Codec.decode?_eq_some.mp read
  obtain ⟨_, written⟩ := Stored.codec.of_decode _ _ _ read
  obtain ⟨tail, opens⟩ := Recorded.header_first value
  rw [opens, List.append_assoc] at written
  exact Codec.decode?_eq_some.mpr
    ⟨_, written ▸ Header.codec.decode_encode _ _ (Header.canonical _)⟩

/-- The record of an account is a value of a type exactly if the account is the program's, reads as
the value, and the value passes for its type. -/
theorem record?_eq_some :
    account.record? program = some (record value) ↔
      account.owner = program ∧ (Stored.codec : Codec α).decode? account.data = some value ∧
        Stored.validate value = .ok () := by
  unfold Account.record?
  constructor
  · intro held
    split at held
    · rename_i owned
      split at held
      · exact nomatch held
      · rename_i header opens
        split at held
        · rename_i initialized
          obtain ⟨kind, named, reads⟩ := Option.bind_eq_some_iff.mp held
          -- Only the kind of the header is read, and the value is of that kind.
          have same : kind = Recorded.kind α :=
            (Kind.kind_of_read? reads).symm.trans (Recorded.kind_record value)
          rw [same, Recorded.read?_kind] at reads
          obtain ⟨other, read, equal⟩ := Option.map_eq_some_iff.mp reads
          obtain rfl := Recorded.record_injective equal
          obtain rfl := Option.some.inj ((header_of_decode? read).symm.trans opens)
          refine ⟨owned, read, Stored.validate_eq_ok.mpr ⟨?_, initialized⟩⟩
          rw [← Kind.tag_of_ofTag? named, same, Recorded.tag_kind]
        · exact nomatch held
    · exact nomatch held
  · rintro ⟨owned, read, valid⟩
    obtain ⟨tagged, initialized⟩ := Stored.validate_eq_ok.mp valid
    rw [if_pos owned, header_of_decode? read]
    simp only [initialized, ↓reduceIte, tagged, ← Recorded.tag_kind, Kind.ofTag?_tag,
      Option.bind_some, Recorded.read?_kind, read, Option.map_some]

/-- What was read can be written. -/
theorem canonical_of_record? (held : account.record? program = some (record value)) :
    Stored.codec.Canonical value := by
  obtain ⟨_, read, _⟩ := record?_eq_some.mp held
  obtain ⟨rest, read⟩ := Codec.decode?_eq_some.mp read
  exact (Stored.codec.of_decode _ _ _ read).1

/-- A value that was written over an account of the program is the record of the account. -/
theorem record?_of_overwrite? {written : Account} (owned : account.owner = program)
    (valid : Stored.validate value = .ok ()) (canonical : Stored.codec.Canonical value)
    (wrote : account.overwrite? (Stored.codec.encode value) = some written) :
    written.record? program = some (record value) ∧ written.owner = program ∧
      written.data.length = account.data.length := by
  unfold Account.overwrite? at wrote
  split at wrote
  · rename_i fits
    obtain rfl := Option.some.inj wrote
    refine ⟨record?_eq_some.mpr ⟨owned, ?_, valid⟩, owned, ?_⟩
    · exact Codec.decode?_eq_some.mpr ⟨_, Stored.codec.decode_encode _ _ canonical⟩
    · simp only [List.length_append, List.length_drop]
      omega
  · exact nomatch wrote

end Recorded

/-! ## Blank accounts and sound accounts -/

namespace Account

variable {program key : Key} {account : Account}

/-- An account whose data holds nothing but zeros. -/
def Blank (account : Account) : Prop := ∀ byte ∈ account.data, byte = 0

theorem blank_of_isEmpty (empty : account.data.isEmpty = true) : account.Blank := by
  intro byte member
  rw [List.isEmpty_iff.mp empty] at member
  exact absurd member List.not_mem_nil

/-- A blank account holds no record: no kind is named by zeros. -/
theorem record?_of_blank (blank : account.Blank) : account.record? program = none := by
  unfold record?
  split
  · split
    · rfl
    · rename_i header opens
      split
      · obtain ⟨rest, read⟩ := Codec.decode?_eq_some.mp opens
        obtain ⟨_, written⟩ := Header.codec.of_decode _ _ _ read
        have zeros : header.tag = ⟨Vector.replicate 8 0⟩ := by
          have tagged : header.tag.bytes = Vector.replicate 8 0 := by
            rw [Vector.eq_replicate_iff]
            intro byte member
            refine blank byte (written ▸ List.mem_append_left _ (List.mem_append_left _ ?_))
            exact Vector.mem_toList_iff.mpr member
          obtain ⟨⟨bytes⟩, _, _⟩ := header
          exact congrArg Tag.mk tagged
        have unnamed : Kind.ofTag? header.tag = none := by
          cases named : Kind.ofTag? header.tag with
          | none => rfl
          | some kind => exact absurd ((Kind.tag_of_ofTag? named).trans zeros) kind.tag_ne_zeros
        rw [unnamed]
        rfl
      · rfl
  · rfl

/-- An account that is not the program's, or is blank. -/
def Vacant (program : Key) (account : Account) : Prop := account.owner = program → account.Blank

theorem record?_of_vacant (vacant : account.Vacant program) : account.record? program = none := by
  by_cases owned : account.owner = program
  · exact record?_of_blank (vacant owned)
  · rw [record?, if_neg owned]

/-- The account of a key is sound if, in case it is the program's, it is blank, or it holds a record
in the room of its kind, at the address of its place. -/
def Sound (program key : Key) (account : Account) : Prop :=
  account.owner = program → account.Blank ∨
    ∃ record, account.record? program = some record ∧ account.data.length = record.kind.size ∧
      record.place.key? program = some key

theorem Sound.of_vacant (vacant : account.Vacant program) : account.Sound program key :=
  fun owned => .inl (vacant owned)

/-- What a sound account holds is in the room of its kind, at the address of its place. -/
theorem Sound.of_record? (sound : account.Sound program key) {record : Record}
    (held : account.record? program = some record) :
    account.owner = program ∧ account.data.length = record.kind.size ∧
      record.place.key? program = some key := by
  have owned : account.owner = program := by
    by_contra foreign
    rw [record?_of_vacant fun owned => absurd owned foreign] at held
    exact nomatch held
  obtain blank | ⟨other, found, placed⟩ := sound owned
  · rw [record?_of_blank blank] at held
    exact nomatch held
  · obtain rfl := Option.some.inj (held.symm.trans found)
    exact ⟨owned, placed⟩

/-- A token account that can be read is not the program's: it is not blank, and it has a length of
its own. -/
theorem Sound.owner_ne_of_read (sound : account.Sound program key) {token : TokenAccount}
    (read : TokenAccount.read account.data = .ok token) : account.owner ≠ program := by
  intro owned
  unfold TokenAccount.read at read
  split at read
  · exact nomatch read
  · rename_i sized
    split at read
    · exact nomatch read
    · split at read
      · exact nomatch read
      -- The byte at 108 is the state of a token account, which is not zero.
      · obtain blank | ⟨record, _, room, _⟩ := sound owned
        · have zero : account.data.getD 108 0 = 0 := by
            rw [List.getD_eq_getElem?_getD]
            cases found : account.data[108]? with
            | none => rfl
            | some byte => exact blank byte (List.mem_of_getElem? found)
          rw [zero] at read
          exact nomatch read
        · exact sized (by rw [room]; exact fun same => record.kind.size_ne_token same)

end Account

namespace Accounts

/-- The accounts of the chain are sound if each of them is. -/
def Sound (accounts : Accounts) (program : Key) : Prop :=
  ∀ key, (accounts.get key).Sound program key

/-- The value of a type that the account of a key holds. -/
def held {α : Type} [Stored α] [Recorded α] (accounts : Accounts) (program key : Key) : Option α :=
  ((accounts.get key).record? program).bind Recorded.value?

variable {α : Type} [Stored α] [Recorded α] {accounts : Accounts} {program key : Key} {value : α}

theorem held_eq_some :
    accounts.held program key = some value ↔
      (accounts.get key).record? program = some (record value) := by
  simp only [held, Option.bind_eq_some_iff, Recorded.value?_eq_some, exists_eq_right]

theorem held_of_vacant (vacant : (accounts.get key).Vacant program) :
    accounts.held program key = (none : Option α) := by
  rw [held, Account.record?_of_vacant vacant, Option.bind_none]

/-- What an account holds depends on the account only. -/
theorem held_congr {other : Accounts} (same : other.get key = accounts.get key) :
    other.held program key = (accounts.held program key : Option α) := by
  rw [held, same, held]

end Accounts

end FeeTreasury
