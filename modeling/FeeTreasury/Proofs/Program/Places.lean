import FeeTreasury.Proofs.Program.Consent
import FeeTreasury.Proofs.Program.Delegation

/-!
# What is stored lies where it belongs

An account of the program that reads as a value of some type, and passes for it, lies at the address
of the value: the one address of its type, or the address of the owner, the asset, the pair or the
account that the value names. No later call changes what the address depends on, whatever accounts
it lists and however often (`FeeTreasury.Accounts.Evolves.lies_at_place`). So it is safe to load an
account by its type alone.
-/

namespace FeeTreasury

/-! ## Places and kinds -/

/-- The kind of the records that lie at a place. The owner of the vaults holds none. -/
def Place.kind? : Place → Option Kind
  | config => some .config
  | statusBoard => some .statusBoard
  | periodLedger => some .periodLedger
  | shareRegistry => some .shareRegistry
  | rewardPool => some .rewardPool
  | liquidationBook => some .liquidationBook
  | vaultAuthority => none
  | entry _ => some .liquidationEntry
  | staker _ => some .staker
  | feed _ => some .rateFeed
  | approval .. => some .approval

theorem Record.kind?_place (record : Record) : record.place.kind? = some record.kind := by
  cases record <;> rfl

/-- Two values that lie at the same place. -/
def SamePlace {α : Type} [Stored α] [Recorded α] (old kept : α) : Prop :=
  (record kept).place = (record old).place

section SamePlace

variable {α : Type} [Stored α] [Recorded α] {accounts after : Accounts} {program key : Key}

theorem SamePlace.refl (value : α) : SamePlace value value := rfl

/-- Where the values of a type keep their places, so do the records. -/
theorem Accounts.Carries.record {value : α}
    (carries : accounts.Carries program after (SamePlace (α := α)))
    (holds : (accounts.get key).record? program = some (record value)) :
    ∃ kept, (after.get key).record? program = some kept ∧
      kept.place = (FeeTreasury.record value).place := by
  obtain ⟨kept, found, same⟩ := carries key value (held_eq_some.mpr holds)
  exact ⟨_, held_eq_some.mp found, same⟩

end SamePlace

/-! ## What an instruction does -/

/-- Where something was held of a type, something is held after more was written. -/
theorem exists_putAll {α : Type} {held : Key → Option α} {key : Key} {old : α}
    (found : held key = some old) (values : List (Key × α)) :
    ∃ kept, putAll held values key = some kept := by
  induction values using List.reverseRecOn with
  | nil => exact ⟨old, found⟩
  | append_singleton rest put ih =>
    obtain ⟨kept, holds⟩ := ih
    rw [putAll_append]
    show ∃ kept, Function.update (putAll held rest) put.1 (some put.2) key = some kept
    by_cases same : key = put.1
    · exact ⟨put.2, by rw [same, Function.update_self]⟩
    · exact ⟨kept, by rw [Function.update_of_ne same, holds]⟩

namespace Program

variable {env : Env} {run after : Run} {u : Unit} {keys : List Key} {instruction : Instruction}

/-- Values of a type of which there is one keep their place. -/
theorem single_keeps_place {α : Type} [Stored α] [Recorded α] {place : Place}
    (single : ∀ value : α, (record value).place = place) (sound : run.accounts.Sound env.program)
    (performed : perform env keys instruction run = .ok u after) :
    run.accounts.Carries env.program after.accounts (SamePlace (α := α)) := by
  obtain ⟨puts, _, writes, _⟩ := writes_of_perform sound performed
  intro key old found
  obtain ⟨kept, holds⟩ := exists_putAll found (valuesOf α puts)
  exact ⟨kept, (congrFun (writes.held α) key).trans holds,
    (single kept).trans (single old).symm⟩

theorem feed_keeps_place (sound : run.accounts.Sound env.program)
    (performed : perform env keys instruction run = .ok u after) :
    run.accounts.Carries env.program after.accounts (SamePlace (α := RateFeed)) := by
  by_cases others : Recorded.kind RateFeed ∉ instruction.touches
  · exact Accounts.carries_of_eq (held_of_perform others sound performed) SamePlace.refl
  · cases instruction
    case createFeed =>
      obtain ⟨r, _, ran⟩ := Exec.withRoster_eq_ok.mp performed
      obtain ⟨_, _, _, empty, writes⟩ := createFeed_writes sound ran
      apply writes.carries (rfl : valuesOf RateFeed _ = [(r.feed, _)]) SamePlace.refl
      intro old found
      exact nomatch (Exec.held_of_isEmpty empty).symm.trans found
    case submitRate =>
      obtain ⟨r, _, ran⟩ := Exec.withRoster_eq_ok.mp performed
      obtain ⟨_, _, submitted, _, found, accepted, writes⟩ := submitRate_writes sound ran
      apply writes.carries (rfl : valuesOf RateFeed _ = [(r.feed, _)]) SamePlace.refl
      intro old held
      obtain rfl := Option.some.inj (found.symm.trans held)
      exact (RateFeed.follows_submit accepted).place
    all_goals
      refine absurd ?_ others
      show Kind.rateFeed ∉ _
      simp [Instruction.touches]

theorem entry_keeps_place (sound : run.accounts.Sound env.program)
    (performed : perform env keys instruction run = .ok u after) :
    run.accounts.Carries env.program after.accounts (SamePlace (α := LiquidationEntry)) := by
  by_cases others : Recorded.kind LiquidationEntry ∉ instruction.touches
  · exact Accounts.carries_of_eq (held_of_perform others sound performed) SamePlace.refl
  · cases instruction
    case flagAccount =>
      obtain ⟨r, _, ran⟩ := Exec.withRoster_eq_ok.mp performed
      obtain ⟨_, _, _, _, _, _, _, _, _, _, _, _, _, _, _, _, _, _, seen, flagged, _, writes⟩ :=
        flagAccount_writes sound ran
      apply writes.carries (rfl : valuesOf LiquidationEntry _ = [(r.entry, _)]) SamePlace.refl
      intro old held
      obtain rfl := seen.eq_of_held held
      exact (LiquidationRecords.follow_flag flagged).entry.place
    case removeFlag =>
      obtain ⟨r, _, ran⟩ := Exec.withRoster_eq_ok.mp performed
      obtain ⟨_, _, _, _, _, _, _, _, removed, _, _, _, _, _, _, _, seen, answered, writes⟩ :=
        removeFlag_writes sound ran
      cases removed with
      | false => exact Accounts.carries_of_eq (writes.held_eq rfl) SamePlace.refl
      | true =>
        apply writes.carries (rfl : valuesOf LiquidationEntry _ = [(r.entry, _)]) SamePlace.refl
        intro old held
        obtain rfl := seen.eq_of_held held
        exact (LiquidationRecords.follow_removeIfHealthy answered).entry.place
    case liquidateAccount =>
      obtain ⟨r, _, ran⟩ := Exec.withRoster_eq_ok.mp performed
      obtain ⟨_, _, _, _, _, _, records, _, _, _, _, _, _, _, _, ⟨seen, _⟩, _, _, writes⟩ :=
        liquidateAccount_writes sound ran
      apply writes.carries (rfl : valuesOf LiquidationEntry _ = [(r.common.entry, _)])
        SamePlace.refl
      intro old held
      obtain rfl := seen.eq_of_held held
      exact (records.follow_close true).entry.place
    case liquidateSelf =>
      obtain ⟨r, _, ran⟩ := Exec.withRoster_eq_ok.mp performed
      obtain ⟨_, _, _, _, _, _, records, _, _, _, _, _, _, _, _, ⟨seen, _⟩, _, writes⟩ :=
        liquidateSelf_writes sound ran
      cases active : records.entry.active with
      | false =>
        rw [active] at writes
        exact Accounts.carries_of_eq (writes.held_eq rfl) SamePlace.refl
      | true =>
        rw [active] at writes
        apply writes.carries (rfl : valuesOf LiquidationEntry _ = [(r.entry, _)]) SamePlace.refl
        intro old held
        obtain rfl := seen.eq_of_held held
        exact (records.follow_close true).entry.place
    all_goals
      refine absurd ?_ others
      show Kind.liquidationEntry ∉ _
      simp [Instruction.touches]

end Program

/-! ## What a call does -/

namespace Called

variable {called : Called}

/-- What every instruction does to the values of a type, a call does. -/
theorem keeps_place_of_perform {α : Type} [Stored α] [Recorded α]
    (sound : called.before.Sound called.call.program)
    (kept : ∀ {instruction : Instruction} {begun after : Run},
      begun.accounts.Sound called.env.program →
        Program.perform called.env called.keys instruction begun = .ok () after →
          begun.accounts.Carries called.env.program after.accounts (SamePlace (α := α))) :
    called.before.Carries called.call.program called.report.accounts (SamePlace (α := α)) := by
  rcases called.failed_or_done with
    ⟨_, same⟩ | ⟨_, begun, after, _, performed, start, _, accounts, _⟩
  · rw [same]
    exact Accounts.carries_of_eq rfl SamePlace.refl
  · have carries := kept (start ▸ sound) performed
    rw [start] at carries
    rw [accounts]
    exact carries

theorem approval_keeps_place (sound : called.before.Sound called.call.program) :
    called.before.Carries called.call.program called.report.accounts
      (SamePlace (α := Approval)) := by
  rcases called.approvals sound with unmarked | ⟨place, approval, marks⟩
  · exact Accounts.carries_of_eq unmarked.spares SamePlace.refl
  · intro key old found
    by_cases same : key = place
    · subst same
      obtain ⟨authoriser, delegate⟩ := marks.keeps old found
      exact ⟨approval, (congrFun marks.leaves key).trans (Function.update_self ..),
        congrArg₂ Place.approval authoriser delegate⟩
    · exact ⟨old, ((congrFun marks.leaves key).trans (Function.update_of_ne same ..)).trans found,
        rfl⟩

/-- **A call moves nothing.** What an account of the program holds keeps the place where it lies. -/
theorem keeps_place (sound : called.before.Sound called.call.program) {key : Key} {old : Record}
    (holds : (called.before.get key).record? called.call.program = some old) :
    ∃ kept, (called.report.accounts.get key).record? called.call.program = some kept ∧
      kept.place = old.place := by
  have single (α : Type) [Stored α] [Recorded α] {place : Place}
      (single : ∀ value : α, (record value).place = place) :
      called.before.Carries called.call.program called.report.accounts (SamePlace (α := α)) :=
    keeps_place_of_perform sound (Program.single_keeps_place single)
  cases old with
  | config value => exact (single Config fun _ => rfl).record holds
  | statusBoard value => exact (single StatusBoard fun _ => rfl).record holds
  | periodLedger value => exact (single PeriodLedger fun _ => rfl).record holds
  | shareRegistry value => exact (single ShareRegistry fun _ => rfl).record holds
  | rewardPool value => exact (single RewardPool fun _ => rfl).record holds
  | liquidationBook value => exact (single LiquidationBook fun _ => rfl).record holds
  | liquidationEntry value =>
    exact (keeps_place_of_perform sound Program.entry_keeps_place).record holds
  | staker value =>
    have stakers : called.before.Carries called.call.program called.report.accounts
        (SamePlace (α := Staker)) :=
      (called.respects sound).mono fun _ _ respects => congrArg Place.staker respects.1
    exact stakers.record holds
  | rateFeed value => exact (keeps_place_of_perform sound Program.feed_keeps_place).record holds
  | approval value => exact (approval_keeps_place sound).record holds

end Called

/-! ## The life of the program -/

namespace Accounts.Evolves

variable {program key : Key} {start accounts : Accounts} {history : List Called}

theorem keeps_place {old : Record} (sound : start.Sound program)
    (evolves : start.Evolves program history accounts)
    (holds : (start.get key).record? program = some old) :
    ∃ kept, (accounts.get key).record? program = some kept ∧ kept.place = old.place := by
  -- By induction on the life of the program; the accounts that a call meets are sound.
  induction evolves with
  | start => exact ⟨old, holds, rfl⟩
  | @call _ accounts evolves call now own ih =>
    subst own
    obtain ⟨met, found, same⟩ := ih
    obtain ⟨kept, left, stays⟩ : ∃ kept, ((Called.report ⟨call, accounts, now⟩).accounts.get
        key).record? call.program = some kept ∧ kept.place = met.place :=
      Called.keeps_place (evolves.sound sound) found
    exact ⟨kept, left, stays.trans same⟩
  | others _ spares ih =>
    obtain ⟨met, found, same⟩ := ih
    rcases spares key with unchanged | ⟨vacant, _⟩
    · exact ⟨met, unchanged ▸ found, same⟩
    · exact nomatch (Account.record?_of_vacant vacant).symm.trans found

/-- **What is stored lies where it belongs.** Whoever calls the program, with whatever accounts: an
account of the program that reads as a value of a type, and passes for it, lies at the address of
the value. After any more calls it still reads as a value of the type that passes for it, and that
one has the same place. -/
theorem lies_at_place {α : Type} [Stored α] [Recorded α] {value : α}
    (fresh : start.Uninitialised program) (evolves : start.Evolves program history accounts)
    (owned : (accounts.get key).owner = program)
    (reads : (Stored.codec : Codec α).decode? (accounts.get key).data = some value)
    (passes : Stored.validate value = .ok ()) :
    (record value).place.key? program = some key ∧
      ∀ {more : List Called} {later : Accounts}, accounts.Evolves program more later →
        ∃ kept : α, (later.get key).owner = program ∧
          (Stored.codec : Codec α).decode? (later.get key).data = some kept ∧
          Stored.validate kept = .ok () ∧ (record kept).place = (record value).place := by
  have sound := evolves.sound fresh.sound
  have holds : (accounts.get key).record? program = some (record value) :=
    record?_eq_some.mpr ⟨owned, reads, passes⟩
  refine ⟨((sound key).of_record? holds).2.2, fun on => ?_⟩
  obtain ⟨kept, found, same⟩ := on.keeps_place sound holds
  -- A record at the place of a value is of the type of the value.
  have kind : kept.kind = Recorded.kind α := by
    have kinds := kept.kind?_place
    rw [same, Record.kind?_place, Recorded.kind_record] at kinds
    exact (Option.some.inj kinds).symm
  obtain ⟨other, rfl⟩ := Recorded.exists_value kept kind
  obtain ⟨owned, reads, passes⟩ := record?_eq_some.mp found
  exact ⟨other, owned, reads, passes, same⟩

end Accounts.Evolves

namespace FirstDeposit

/-- The staker account before the deposit, and after it. -/
theorem lies_at_place_firstDeposit :
    ∃ value kept : Staker,
      ((deposit.before.get staker).owner = program ∧
          (Stored.codec : Codec Staker).decode? (deposit.before.get staker).data = some value ∧
          Stored.validate value = .ok ()) ∧
        (Place.staker value.owner).key? program = some staker ∧
        (Stored.codec : Codec Staker).decode? (deposit.report.accounts.get staker).data =
            some kept ∧
        kept.owner = value.owner := by
  obtain ⟨past, _⟩ := evolves.upTo (rfl : _ = [setUp, create] ++ deposit :: [])
  have sound := past.sound uninitialised.sound
  obtain ⟨r, _, _, listed, ran, met, begun, _⟩ :=
    Called.ran_of_done (fun env r => Program.depositCollateral env r 500) (fun _ _ => rfl) sound
      all_done.2.2
  obtain ⟨_, _, value, _, _, found, _⟩ := Program.depositCollateral_writes begun ran
  obtain rfl : _ = r := Option.some.inj ((rfl : _ = some _).symm.trans listed)
  rw [Run.Holds, met] at found
  obtain ⟨owned, reads, passes⟩ := record?_eq_some.mp (Accounts.held_eq_some.mp found)
  obtain ⟨placed, stays⟩ :=
    Accounts.Evolves.lies_at_place uninitialised past owned reads passes
  obtain ⟨kept, _, left, _, same⟩ := stays (Accounts.Evolves.start.next deposit rfl)
  exact ⟨value, kept, ⟨owned, reads, passes⟩, placed, left, Place.staker.inj same⟩

end FirstDeposit

end FeeTreasury
