import FeeTreasury.Proofs.Program.Flagging

/-!
# Collateral leaves with consent, or because a liquidation is due

Whatever is called, every staker account stays the account of its owner. Its collateral only
shrinks when the owner withdraws it from a healthy account that is not flagged, when the owner
liquidates the account, or when others liquidate it after the deadline of an open entry
(`FeeTreasury.Accounts.Evolves.collateral_leaves_with_consent`). Those who call choose the accounts
that a call lists; the staker that a call changes is known from what the accounts hold.
-/

namespace FeeTreasury

/-! ## Ways to take collateral from a staker -/

namespace Called

/-- The ratio of a staker is above the issuance ratio in force, at the market of the feeds. -/
def Unhealthy (called : Called) (account : Key) : Prop :=
  ∃ settings market position limit,
    called.before.Standing called.call.program called.now account settings market position ∧
      settings.requireIssuanceRatio = .ok limit ∧ limit < position.ratio

/-- A withdrawal that the owner has signed while the entry was not open. What is left has a ratio at
or below the issuance ratio in force, at the market that the feeds make. -/
structure Withdraws (called : Called) (owner : Key) : Prop where
  done : ∃ amount, called.done? = some (.withdrawCollateral amount)
  named : (Roster.ofKeys? called.keys).map WithdrawRoster.owner = some owner
  signed : owner ∈ called.call.signers
  unflagged : ¬ called.before.Flagged called.call.program owner
  healthy : ∃ settings market left limit,
    called.report.accounts.Standing called.call.program called.now owner settings market left ∧
      settings.requireIssuanceRatio = .ok limit ∧ left.ratio ≤ limit

/-- A liquidation that the owner has signed. -/
structure LiquidatesOwn (called : Called) (owner : Key) : Prop where
  done : called.done? = some .liquidateSelf
  about : called.about? = some owner
  signed : owner ∈ called.call.signers
  unhealthy : called.Unhealthy owner

/-- A liquidation by others, after the deadline of an open entry. -/
structure LiquidatesDue (called : Called) (account : Key) : Prop where
  done : called.done? = some .liquidateAccount
  about : called.about? = some account
  due : ∃ entry : LiquidationEntry,
    called.before.At called.call.program (.entry account) entry ∧ entry.active = true ∧
      entry.deadline ≤ called.now
  unhealthy : called.Unhealthy account

/-- What a call may do to a staker account: it stays the owner's, and keeps its collateral unless
the call is one of those that may take some. -/
def Respects (called : Called) (old kept : Staker) : Prop :=
  kept.owner = old.owner ∧
    (old.collateral ≤ kept.collateral ∨ called.Withdraws old.owner ∨
      called.LiquidatesOwn old.owner ∨ called.LiquidatesDue old.owner)

end Called

/-! ## Instructions that take no collateral -/

/-- A staker account that is still the owner's, with all of its collateral. -/
def Staker.Retains (old kept : Staker) : Prop :=
  kept.owner = old.owner ∧ old.collateral ≤ kept.collateral

theorem Staker.retains_refl (staker : Staker) : staker.Retains staker := ⟨rfl, UInt64.le_refl _⟩

namespace Program

variable {env : Env} {run after : Run} {u : Unit}

theorem retains_createStaker {r : NewStakerRoster} (sound : run.accounts.Sound env.program)
    (ran : createStaker env r run = .ok u after) :
    run.accounts.Carries env.program after.accounts Staker.Retains := by
  obtain ⟨_, _, _, empty, _, writes⟩ := createStaker_writes sound ran
  apply writes.carries (rfl : valuesOf Staker _ = [(r.staker, _)]) Staker.retains_refl
  -- The account was empty, so there was no staker.
  intro old found
  exact nomatch (Exec.held_of_isEmpty empty).symm.trans found

theorem retains_recordShares {r : SharesRoster} {shares : UInt64}
    (sound : run.accounts.Sound env.program)
    (ran : recordShares env r shares run = .ok u after) :
    run.accounts.Carries env.program after.accounts Staker.Retains := by
  obtain ⟨_, books, changed, _, _, _, _, _, found, answered, writes⟩ :=
    recordShares_writes sound ran
  obtain ⟨_, _, _, staker⟩ := ShareBooks.setShares_staker answered
  apply writes.carries rfl Staker.retains_refl
  intro old held
  obtain rfl := Option.some.inj (found.symm.trans held)
  rw [staker]
  exact ⟨rfl, UInt64.le_refl _⟩

theorem retains_payClaim {r : ClaimRoster} {owner : Key} {claim : ClaimTerms → Claiming Entitlement}
    (sound : run.accounts.Sound env.program)
    (ran : payClaim env r owner claim run = .ok u after)
    (settles : ∀ terms books claimed after, claim terms books = .ok claimed after →
      Claiming.Settles books after) :
    run.accounts.Carries env.program after.accounts Staker.Retains := by
  obtain ⟨_, _, _, books, _, _, _, _, _, _, found, _, _, _, answered, writes⟩ :=
    payClaim_writes sound ran settles
  obtain ⟨_, staker⟩ := (settles _ _ _ _ answered).staker
  apply writes.carries rfl Staker.retains_refl
  intro old held
  obtain rfl := Option.some.inj (found.symm.trans held)
  rw [staker]
  exact ⟨rfl, UInt64.le_refl _⟩

theorem retains_depositCollateral {r : DepositRoster} {amount : UInt64}
    (sound : run.accounts.Sound env.program)
    (ran : depositCollateral env r amount run = .ok u after) :
    run.accounts.Carries env.program after.accounts Staker.Retains := by
  obtain ⟨_, _, staker, collateral, _, found, _, summed, writes⟩ :=
    depositCollateral_writes sound ran
  apply writes.carries (rfl : valuesOf Staker _ = [(r.staker, _)]) Staker.retains_refl
  intro old held
  obtain rfl := Option.some.inj (found.symm.trans held)
  refine ⟨rfl, UInt64.le_iff_toNat_le.mpr ?_⟩
  show staker.collateral.toNat ≤ collateral.toNat
  omega

theorem retains_takeReward {r : RewardRoster} (sound : run.accounts.Sound env.program)
    (ran : takeReward env r run = .ok u after) :
    run.accounts.Carries env.program after.accounts Staker.Retains := by
  obtain ⟨_, _, _, _, staker, rewards, _, _, _, found, _, _, _, ⟨_, writes⟩ | ⟨_, writes⟩⟩ :=
    takeReward_writes sound ran
  · exact Accounts.carries_of_eq (writes.held_eq rfl) Staker.retains_refl
  · apply writes.carries (rfl : valuesOf Staker _ = [(r.staker, _)]) Staker.retains_refl
    intro old held
    obtain rfl := Option.some.inj (found.symm.trans held)
    exact ⟨rfl, UInt64.le_refl _⟩

end Program

/-! ## Instructions that take collateral -/

/-- Where no feed was written, an oracle is what it was. -/
theorem Run.Writes.oracleAt {before after : Run} {env : Env} {settings : Settings}
    {puts : List (Key × Record)} {calls : List OutsideCall} {collateralFeed debtFeed : Key}
    {oracle : Oracle} (writes : before.Writes env.program after puts calls)
    (rates : before.OracleAt env settings collateralFeed debtFeed oracle)
    (others : valuesOf RateFeed puts = []) :
    after.OracleAt env settings collateralFeed debtFeed oracle := by
  obtain ⟨collateral, totalDebt, collateralFound, debtFound, seen⟩ := rates
  exact ⟨collateral, totalDebt, writes.holds collateralFound others, writes.holds debtFound others,
    seen⟩

/-- A staker whose entry was seen closed is not flagged. -/
theorem Run.EntryAt.not_flagged {run : Run} {program key of : Key} {entry : LiquidationEntry}
    (seen : run.EntryAt program key of entry) (closed : entry.active = false) :
    ¬ run.accounts.Flagged program of := by
  rintro ⟨stored, ⟨place, lies, held⟩, active⟩
  obtain ⟨bump, placed, seen⟩ := seen
  obtain rfl := Option.some.inj (lies.symm.trans (Place.key?_of_address? placed))
  rcases seen with ⟨empty, _⟩ | ⟨_, found⟩
  · exact nomatch (Exec.held_of_isEmpty empty).symm.trans held
  · obtain rfl := Option.some.inj (found.symm.trans held)
    exact nomatch closed.symm.trans active

theorem Settings.checkSelfLiquidatable_eq_ok {settings : Settings} {position : Position}
    {u : Unit} :
    settings.checkSelfLiquidatable position = .ok u ↔
      ∃ limit, settings.requireIssuanceRatio = .ok limit ∧ limit < position.ratio := by
  simp only [checkSelfLiquidatable, Outcome.bind_eq_ok, require_eq_ok, decide_eq_true_eq]

namespace Called

variable {called : Called}

theorem respects_refl (called : Called) (staker : Staker) : called.Respects staker staker :=
  ⟨rfl, .inl (UInt64.le_refl _)⟩

theorem respects_of_retains {old kept : Staker} (retains : old.Retains kept) :
    called.Respects old kept := by
  obtain ⟨owner, collateral⟩ := retains
  exact ⟨owner, .inl collateral⟩

theorem respects_withdrawCollateral {amount : UInt64}
    (sound : called.before.Sound called.call.program)
    (did : called.done? = some (.withdrawCollateral amount)) :
    called.before.Carries called.call.program called.report.accounts called.Respects := by
  obtain ⟨r, begun, after, listed, ran, start, sound, _, accounts, _⟩ :=
    ran_of_done (fun env r => Program.withdrawCollateral env r amount) (fun _ _ => rfl) sound did
  obtain ⟨config, _, registry, entry, staker, oracle, market, left, limit, ⟨signed, _, known, _, _⟩,
    counted, seen, closed, found, owned, rates, ⟨fresh, _, valued, limited, healthy⟩, _, writes⟩ :=
    Program.withdrawCollateral_writes sound ran
  have unflagged := seen.not_flagged closed
  -- What is left is what the accounts show after the call.
  have taken : after.Holds called.env.program r.staker
      { staker with collateral := staker.collateral - amount } := by
    exact (congrFun (writes.held Staker) r.staker).trans (Function.update_self ..)
  have standing := Run.standing writes.sound (writes.holds known rfl) (writes.holds counted rfl)
    taken (writes.oracleAt rates rfl) fresh valued
  rw [← start, accounts]
  refine writes.carries (rfl : valuesOf Staker _ = [(r.staker, _)]) called.respects_refl
    fun old held => ?_
  obtain rfl := Option.some.inj (found.symm.trans held)
  refine ⟨rfl, .inr (.inl ⟨⟨amount, did⟩, ?_, owned ▸ signed, ?_, ?_⟩)⟩
  · rw [listed, Option.map_some, owned]
  · rw [← start, owned]
    exact unflagged
  · rw [accounts]
    exact ⟨config.settings, market, left, limit, standing, limited, healthy⟩

theorem respects_liquidateSelf (sound : called.before.Sound called.call.program)
    (did : called.done? = some .liquidateSelf) :
    called.before.Carries called.call.program called.report.accounts called.Respects := by
  obtain ⟨r, begun, after, listed, ran, start, sound, _, accounts, _⟩ :=
    ran_of_done Program.liquidateSelf (fun _ _ => rfl) sound did
  obtain ⟨config, _, books, taken, _, _, records, oracle, market, position, _, _,
    ⟨signed, known, _, _⟩, ⟨_, counted, _, _, found, owned⟩, ⟨rates, fresh, valued⟩, ⟨_, due⟩,
    ⟨_, _, liquidated⟩, writes⟩ := Program.liquidateSelf_writes sound ran
  obtain ⟨limit, limited, above⟩ := Settings.checkSelfLiquidatable_eq_ok.mp due
  have standing := Run.standing sound known counted found rates fresh valued
  obtain ⟨⟨_, _, follows⟩, _⟩ := ShareBooks.follow_liquidate liquidated
  rw [← start, accounts]
  refine writes.carries (valuesOf_optional rfl) called.respects_refl fun old held => ?_
  obtain rfl := Option.some.inj (found.symm.trans held)
  refine ⟨Place.staker.inj follows.place, .inr (.inr (.inl ⟨did, ?_, owned ▸ signed, ?_⟩))⟩
  · exact about?_eq_some (subject?_of_liquidateSelf did listed) (start ▸ found)
  · rw [start] at standing
    exact ⟨config.settings, market, position, limit, standing, limited, above⟩

theorem respects_liquidateAccount (sound : called.before.Sound called.call.program)
    (did : called.done? = some .liquidateAccount) :
    called.before.Carries called.call.program called.report.accounts called.Respects := by
  obtain ⟨r, begun, after, listed, ran, start, sound, _, accounts, _⟩ :=
    ran_of_done Program.liquidateAccount (fun _ _ => rfl) sound did
  obtain ⟨config, _, books, taken, _, _, records, oracle, market, position, _, _,
    ⟨_, known, _, _⟩, ⟨_, counted, _, _, found⟩, ⟨rates, fresh, valued⟩, ⟨seen, due⟩, _,
    ⟨_, _, liquidated⟩, writes⟩ := Program.liquidateAccount_writes sound ran
  obtain ⟨limit, limited, active, passed, above⟩ := LiquidationEntry.checkLiquidatable_eq_ok.mp due
  have opened := seen.holds active
  obtain ⟨bump, lies, _⟩ := seen
  have standing := Run.standing sound known counted found rates fresh valued
  obtain ⟨⟨_, _, follows⟩, _⟩ := ShareBooks.follow_liquidate liquidated
  rw [← start, accounts]
  refine writes.carries (rfl : valuesOf Staker _ = [(r.common.staker, _)]) called.respects_refl
    fun old held => ?_
  obtain rfl := Option.some.inj (found.symm.trans held)
  refine ⟨Place.staker.inj follows.place, .inr (.inr (.inr ⟨did, ?_, ?_, ?_⟩))⟩
  · exact about?_eq_some (subject?_of_liquidateAccount did listed) (start ▸ found)
  · rw [← start]
    exact ⟨records.entry, ⟨r.common.entry, Place.key?_of_address? lies, opened⟩, active, passed⟩
  · rw [start] at standing
    exact ⟨config.settings, market, position, limit, standing, limited, above⟩

/-- **What a call does to the stakers.** Every staker account stays the owner's, and its collateral
shrinks only in a call that may take some. -/
theorem respects (called : Called) (sound : called.before.Sound called.call.program) :
    called.before.Carries called.call.program called.report.accounts called.Respects := by
  rcases called.failed_or_done with
    ⟨_, same⟩ | ⟨instruction, begun, after, did, performed, start, _, accounts, _⟩
  · rw [same]
    exact Accounts.carries_of_eq rfl called.respects_refl
  · -- An instruction that takes no collateral gives every owner what a call may give.
    have retained (retains :
        begun.accounts.Carries called.call.program after.accounts Staker.Retains) :
        called.before.Carries called.call.program called.report.accounts called.Respects := by
      rw [accounts, ← start]
      exact retains.mono fun _ _ => respects_of_retains
    have begunSound : begun.accounts.Sound called.env.program := start ▸ sound
    by_cases others : Recorded.kind Staker ∉ instruction.touches
    · exact retained (Accounts.carries_of_eq
        (Program.held_of_perform others begunSound performed) Staker.retains_refl)
    · cases instruction
      case createStaker =>
        obtain ⟨_, _, ran⟩ := Exec.withRoster_eq_ok.mp performed
        exact retained (Program.retains_createStaker begunSound ran)
      case recordShares =>
        obtain ⟨_, _, ran⟩ := Exec.withRoster_eq_ok.mp performed
        exact retained (Program.retains_recordShares begunSound ran)
      case claimFees =>
        obtain ⟨_, _, _, _, _, _, ran⟩ := Program.claimFees_eq_ok.mp performed
        exact retained (Program.retains_payClaim begunSound ran
          fun _ _ _ _ => Claiming.settles_of_claim)
      case claimOnBehalf =>
        obtain ⟨_, _, _, _, _, _, _, _, _, ran⟩ := Program.claimOnBehalf_eq_ok.mp performed
        exact retained (Program.retains_payClaim begunSound ran
          fun _ _ _ _ => Claiming.settles_of_claimOnBehalf)
      case depositCollateral =>
        obtain ⟨_, _, ran⟩ := Exec.withRoster_eq_ok.mp performed
        exact retained (Program.retains_depositCollateral begunSound ran)
      case takeReward =>
        obtain ⟨_, _, ran⟩ := Exec.withRoster_eq_ok.mp performed
        exact retained (Program.retains_takeReward begunSound ran)
      case withdrawCollateral => exact respects_withdrawCollateral sound did
      case liquidateAccount => exact respects_liquidateAccount sound did
      case liquidateSelf => exact respects_liquidateSelf sound did
      all_goals
        refine absurd ?_ others
        show Kind.staker ∉ _
        simp [Instruction.touches]

end Called

/-! ## Consent -/

/-- **Collateral leaves with consent, or because a liquidation is due.** Whoever calls the program,
with whatever accounts and signers: a staker account stays the account of its owner. If its
collateral shrinks, then the owner has signed a withdrawal or a liquidation of it, or others
liquidate it after the deadline of its open entry. -/
theorem Accounts.Evolves.collateral_leaves_with_consent {program key : Key}
    {start accounts : Accounts} {history : List Called} {called : Called} {staker : Staker}
    (fresh : start.Uninitialised program) (evolves : start.Evolves program history accounts)
    (own : called.call.program = program) (met : called.before = accounts)
    (held : accounts.held program key = some staker) :
    ∃ kept : Staker, called.report.accounts.held program key = some kept ∧
      kept.owner = staker.owner ∧
        (staker.collateral ≤ kept.collateral ∨ called.Withdraws staker.owner ∨
          called.LiquidatesOwn staker.owner ∨ called.LiquidatesDue staker.owner) := by
  subst own met
  exact called.respects (evolves.sound fresh.sound) key staker held

namespace FirstLiquidation

open FirstDeposit (program key staker)

/-- The liquidation lists the staker account at nines. -/
theorem exists_liquidated : ∃ before : Staker,
    liquidate.before.held program staker = some before ∧ before.owner = key 9 := by
  obtain ⟨did, about⟩ : liquidate.done? = some .liquidateAccount ∧
      liquidate.about? = some (key 9) := by
    have last := congrArg List.getLast? all_done
    simp only [List.map_append, List.map_singleton, List.getLast?_concat, List.getLast?_cons_cons,
      List.getLast?_singleton, Option.some.injEq, Prod.mk.injEq] at last
    exact last
  rw [Called.about?, Called.subject?_of_liquidateAccount did rfl, Option.bind_some,
    Option.map_eq_some_iff] at about
  exact about

theorem collateral_leaves_with_consent_firstLiquidation :
    ∃ before after : Staker, liquidate.before.held program staker = some before ∧
      liquidate.report.accounts.held program staker = some after ∧
        (before.owner = key 9 ∧ after.owner = key 9) ∧
        (before.collateral ≤ after.collateral ∨ liquidate.Withdraws (key 9) ∨
          liquidate.LiquidatesOwn (key 9) ∨ liquidate.LiquidatesDue (key 9)) := by
  obtain ⟨past, own⟩ := evolves.upTo rfl
  obtain ⟨before, found, owned⟩ := exists_liquidated
  obtain ⟨after, kept, owner, taken⟩ :=
    Accounts.Evolves.collateral_leaves_with_consent uninitialised past own rfl found
  rw [owned] at owner taken
  exact ⟨before, after, found, kept, ⟨owned, owner⟩, taken⟩

end FirstLiquidation

end FeeTreasury
