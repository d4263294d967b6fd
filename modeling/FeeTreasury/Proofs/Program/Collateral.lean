import FeeTreasury.Proofs.Program.Follows
import FeeTreasury.Proofs.Program.Steps

/-!
# What custody and liquidations do

For each instruction that looks at collateral: what it has seen when it succeeds, what it has
written, and which calls it has made. A liquidation by others pays the flagger and the liquidator
out of the vault; the reward pool pays a holder; everything else stays in the vault.
-/

namespace FeeTreasury.Program

open Exec Stateful

variable {env : Env} {run after : Run} {u : Unit}

/-! ## Custody -/

theorem depositCollateral_writes {r : DepositRoster} {amount : UInt64}
    (sound : run.accounts.Sound env.program)
    (ran : depositCollateral env r amount run = .ok u after) :
    ∃ (config : Config) (board : StatusBoard) (staker : Staker) (collateral : UInt64),
      (r.owner ∈ env.signers ∧ amount ≠ 0 ∧ run.Holds env.program r.config config ∧
        run.Holds env.program r.statusBoard board ∧ board.requireActive [.system] = .ok ()) ∧
      run.Holds env.program r.staker staker ∧ staker.owner = r.owner ∧
      collateral.toNat = staker.collateral.toNat + amount.toNat ∧
      run.Writes env.program after [(r.staker, .staker { staker with collateral })]
        [.transfer r.source r.collateralVault r.owner amount] := by
  simp only [depositCollateral, bind_eq_ok, requireSigner_eq_ok, check_eq_ok, decide_eq_true_eq,
    loadWhileActive_eq_ok, loadStakerOf_eq_ok, requireVault_eq_ok, requireTokenProgram_eq_ok,
    rule_eq_ok, checkedAdd_eq_ok, and_assoc, exists_and_left, exists_eq_left', exists_unit] at ran
  obtain ⟨signed, nonzero, config, known, ⟨board, shown, active⟩, staker, found, owned, _, _,
    collateral, summed, _, stored, _, moved, said⟩ := ran
  have stores := writes_of_store sound found stored
    (Staker.follows_of_ownership rfl rfl (Nat.le_max_left ..))
  have moves := stores.trans (writes_of_transfer stores.sound moved)
  exact ⟨config, board, staker, collateral, ⟨signed, nonzero, known, shown, active⟩, found, owned,
    summed, moves.say said⟩

theorem withdrawCollateral_writes {r : WithdrawRoster} {amount : UInt64}
    (sound : run.accounts.Sound env.program)
    (ran : withdrawCollateral env r amount run = .ok u after) :
    ∃ (config : Config) (board : StatusBoard) (registry : ShareRegistry) (entry : LiquidationEntry)
        (staker : Staker) (oracle : Oracle) (market : Market) (left : Position) (limit : UInt64),
      (r.owner ∈ env.signers ∧ amount ≠ 0 ∧ run.Holds env.program r.config config ∧
        run.Holds env.program r.statusBoard board ∧ board.requireActive [.system] = .ok ()) ∧
      run.Holds env.program r.shareRegistry registry ∧
      run.EntryAt env.program r.entry r.owner entry ∧ entry.active = false ∧
      run.Holds env.program r.staker staker ∧ staker.owner = r.owner ∧
      run.OracleAt env config.settings r.collateralFeed r.debtFeed oracle ∧
      (oracle.market = .ok market ∧ amount ≤ staker.collateral ∧
        Position.of staker.shares (staker.collateral - amount) registry.supply market = .ok left ∧
        config.settings.requireIssuanceRatio = .ok limit ∧ left.ratio ≤ limit) ∧
      run.accounts.TokensOf r.destination r.owner ∧
      run.Writes env.program after
        [(r.staker, .staker { staker with collateral := staker.collateral - amount })]
        (payment r.collateralVault r.destination r.vaultAuthority amount) := by
  simp only [withdrawCollateral, bind_eq_ok, requireSigner_eq_ok, check_eq_ok, decide_eq_true_eq,
    loadWhileActive_eq_ok, load_eq_ok, loadEntry_eq_ok, loadStakerOf_eq_ok, loadOracle_eq_ok,
    requireVault_eq_ok, requireTokenOwner_eq_ok, checkVaultAuthority_eq_ok,
    requireTokenProgram_eq_ok, rule_eq_ok, Bool.not_eq_true', and_assoc, exists_and_left,
    exists_eq_left', exists_unit] at ran
  obtain ⟨signed, nonzero, config, known, ⟨board, shown, active⟩, registry, counted, entry, seen,
    staker, found, owned, oracle, rates, _, tokens, _, _, closed, enough, market, fresh, left,
    valued, limit, limited, healthy, _, stored, _, paid, said⟩ := ran
  have stores := writes_of_store sound found stored
    (Staker.follows_of_ownership rfl rfl (Nat.le_max_left ..))
  have pays := stores.pay paid
  exact ⟨config, board, registry, entry, staker, oracle, market, left, limit,
    ⟨signed, nonzero, known, shown, active⟩, counted, seen, closed, found, owned, rates,
    ⟨fresh, enough, valued, limited, healthy⟩, tokens, pays.say said⟩

/-- The pool pays what it owes, if it owes something; nothing is written otherwise. -/
theorem takeReward_writes {r : RewardRoster} (sound : run.accounts.Sound env.program)
    (ran : takeReward env r run = .ok u after) :
    ∃ (config : Config) (board : StatusBoard) (pool left : RewardPool) (staker : Staker)
        (rewards : Checkpoint) (amount : UInt64),
      (r.owner ∈ env.signers ∧ run.Holds env.program r.config config ∧
        run.Holds env.program r.statusBoard board ∧ board.requireActive [.system] = .ok ()) ∧
      run.Holds env.program r.rewardPool pool ∧
      run.Holds env.program r.staker staker ∧ staker.owner = r.owner ∧
      pool.takeReward staker.rewards staker.shares = .ok (left, rewards, amount) ∧
      run.accounts.TokensOf r.destination r.owner ∧
      (amount = 0 ∧ run.Writes env.program after [] [] ∨
        amount ≠ 0 ∧ run.Writes env.program after
          [(r.rewardPool, .rewardPool left), (r.staker, .staker { staker with rewards })]
          (payment r.collateralVault r.destination r.vaultAuthority amount)) := by
  simp only [takeReward, bind_eq_ok, requireSigner_eq_ok, loadWhileActive_eq_ok, load_eq_ok,
    loadStakerOf_eq_ok, requireVault_eq_ok, requireTokenOwner_eq_ok, checkVaultAuthority_eq_ok,
    requireTokenProgram_eq_ok, rule_eq_ok, and_assoc, exists_and_left, exists_eq_left',
    exists_unit, Prod.exists] at ran
  obtain ⟨signed, config, known, ⟨board, shown, active⟩, pool, poolFound, staker, found, owned, _,
    tokens, _, _, left, rewards, amount, taken, ran⟩ := ran
  refine ⟨config, board, pool, left, staker, rewards, amount, ⟨signed, known, shown, active⟩,
    poolFound, found, owned, taken, tokens, ?_⟩
  by_cases nothing : amount = 0
  · simp only [nothing, ↓reduceIte] at ran
    exact .inl ⟨nothing, writes_of_say sound ran⟩
  · simp only [nothing, ↓reduceIte, bind_eq_ok, exists_unit] at ran
    obtain ⟨_, first, _, second, _, paid, emitted⟩ := ran
    have first := writes_of_store sound poolFound first (RewardPool.follows_takeReward taken)
    have second := first.store found rfl second
      (Staker.follows_of_ownership rfl rfl (Nat.le_max_left ..))
    have pays := second.pay paid
    exact .inr ⟨nothing, pays.emit emitted⟩

/-! ## Flags -/

/-- An account is flagged in a new entry or in the stored one. -/
theorem flagAccount_writes {r : FlagRoster} (sound : run.accounts.Sound env.program)
    (ran : flagAccount env r run = .ok u after) :
    ∃ (config : Config) (board : StatusBoard) (registry : ShareRegistry) (staker : Staker)
        (oracle : Oracle) (market : Market) (position : Position)
        (records flagged : LiquidationRecords) (deadline : Int64) (calls : List OutsideCall),
      (r.flagger ∈ env.signers ∧ run.Holds env.program r.config config ∧
        run.Holds env.program r.statusBoard board ∧ board.requireActive [.system] = .ok ()) ∧
      run.Holds env.program r.shareRegistry registry ∧
      run.Holds env.program r.liquidationBook records.book ∧
      run.Holds env.program r.staker staker ∧
      run.OracleAt env config.settings r.collateralFeed r.debtFeed oracle ∧
      oracle.market = .ok market ∧ staker.position registry.supply market = .ok position ∧
      run.EntryAt env.program r.entry staker.owner records.entry ∧
      records.flag config.settings r.flagger position env.now = .ok (flagged, deadline) ∧
      ((run.accounts.get r.entry).data.isEmpty = true ∧
          calls = [creation LiquidationEntry env r.flagger r.entry] ∨
        (run.accounts.get r.entry).data.isEmpty = false ∧ calls = []) ∧
      run.Writes env.program after [(r.entry, .liquidationEntry flagged.entry),
        (r.liquidationBook, .liquidationBook flagged.book)] calls := by
  simp only [flagAccount, bind_eq_ok, requireSigner_eq_ok, loadWhileActive_eq_ok, load_eq_ok,
    loadOracle_eq_ok, loadEntry_eq_ok, rule_eq_ok, account_eq_ok, and_assoc, exists_and_left,
    exists_eq_left', exists_unit, Prod.exists] at ran
  obtain ⟨signed, config, known, ⟨board, shown, active⟩, registry, counted, book, bookFound,
    staker, found, oracle, rates, market, fresh, position, valued, entry, seen, flagged, deadline,
    answered, ran⟩ := ran
  have follow := LiquidationRecords.follow_flag answered
  -- A new entry is created first; either way the entry is written, and the book after it.
  have entered : ∃ middle calls, ((run.accounts.get r.entry).data.isEmpty = true ∧
        calls = [creation LiquidationEntry env r.flagger r.entry] ∨
      (run.accounts.get r.entry).data.isEmpty = false ∧ calls = []) ∧
      run.Writes env.program middle [(r.entry, .liquidationEntry flagged.entry)] calls ∧
      ∃ last, store r.liquidationBook flagged.book middle = .ok () last ∧
        emit (.accountFlagged staker.owner deadline) last = .ok u after := by
    obtain ⟨bump, lies, ⟨empty, rfl⟩ | ⟨full, held⟩⟩ := seen
    · simp only [empty, ↓reduceIte, bind_eq_ok, exists_unit] at ran
      obtain ⟨_, created, middle, stored, rest⟩ := ran
      have begins : Begins env.program r.entry (LiquidationEntry.new staker.owner bump) :=
        begins_of_fresh lies rfl rfl (LiquidationEntry.canonical _)
      exact ⟨middle, _, .inl ⟨empty, rfl⟩,
        writes_of_create_store sound created stored (begins.follow follow.entry), rest⟩
    · simp only [full, Bool.false_eq_true, ↓reduceIte, bind_eq_ok, exists_unit] at ran
      obtain ⟨middle, stored, rest⟩ := ran
      exact ⟨middle, _, .inr ⟨full, rfl⟩, writes_of_store sound held stored follow.entry, rest⟩
  obtain ⟨middle, calls, called, first, _, second, emitted⟩ := entered
  have second := first.store bookFound rfl second follow.book
  exact ⟨config, board, registry, staker, oracle, market, position, ⟨book, entry⟩, flagged,
    deadline, calls, ⟨signed, known, shown, active⟩, counted, bookFound, found, rates, fresh,
    valued, seen, answered, called, second.emit emitted⟩

theorem removeFlag_writes {r : RemoveRoster} (sound : run.accounts.Sound env.program)
    (ran : removeFlag env r run = .ok u after) :
    ∃ (config : Config) (registry : ShareRegistry) (staker : Staker) (oracle : Oracle)
        (market : Market) (position : Position) (records left : LiquidationRecords)
        (removed : Bool),
      (r.caller ∈ env.signers ∧ run.Holds env.program r.config config) ∧
      run.Holds env.program r.shareRegistry registry ∧
      run.Holds env.program r.liquidationBook records.book ∧
      run.Holds env.program r.staker staker ∧
      run.OracleAt env config.settings r.collateralFeed r.debtFeed oracle ∧
      oracle.market = .ok market ∧ staker.position registry.supply market = .ok position ∧
      run.EntryAt env.program r.entry staker.owner records.entry ∧
      records.removeIfHealthy config.settings position = .ok (left, removed) ∧
      run.Writes env.program after
        (if removed then [(r.entry, .liquidationEntry left.entry),
          (r.liquidationBook, .liquidationBook left.book)] else []) [] := by
  simp only [removeFlag, bind_eq_ok, requireSigner_eq_ok, load_eq_ok, loadOracle_eq_ok,
    loadEntry_eq_ok, rule_eq_ok, and_assoc, exists_and_left, exists_eq_left', exists_unit,
    Prod.exists] at ran
  obtain ⟨signed, config, known, registry, counted, book, bookFound, staker, found, oracle, rates,
    market, fresh, position, valued, entry, seen, left, removed, answered, ran⟩ := ran
  refine ⟨config, registry, staker, oracle, market, position, ⟨book, entry⟩, left, removed,
    ⟨signed, known⟩, counted, bookFound, found, rates, fresh, valued, seen, answered, ?_⟩
  cases removed with
  | false =>
    simp only [Bool.false_eq_true, ↓reduceIte] at ran ⊢
    exact writes_of_say sound ran
  | true =>
    simp only [↓reduceIte, bind_eq_ok, exists_unit] at ran ⊢
    obtain ⟨_, first, _, second, emitted⟩ := ran
    have follow := LiquidationRecords.follow_removeIfHealthy answered
    have held := seen.holds (LiquidationRecords.active_of_removeIfHealthy answered)
    have first := writes_of_store sound held first follow.entry
    have second := first.store bookFound rfl second follow.book
    exact second.emit emitted

/-! ## Liquidations -/

theorem writes_of_announce {account liquidator : Key} {plan : LiquidationPlan} {bySelf : Bool}
    (sound : run.accounts.Sound env.program)
    (ran : announce account plan liquidator bySelf run = .ok u after) :
    run.Writes env.program after [] [] := by
  simp only [announce, bind_eq_ok, exists_unit] at ran
  obtain ⟨_, emitted, ran⟩ := ran
  have first := writes_of_emit sound emitted
  by_cases nothing : plan.poolDeposit = 0
  · simp only [nothing, ne_eq, not_true_eq_false, ↓reduceIte, pure_eq_ok] at ran
    obtain ⟨_, rfl⟩ := ran
    exact first
  · simp only [nothing, ne_eq, not_false_eq_true, ↓reduceIte] at ran
    exact first.emit ran

/-- A liquidation by others writes all six accounts, and pays flagger and liquidator. -/
theorem liquidateAccount_writes {roster : DelinquentRoster}
    (sound : run.accounts.Sound env.program)
    (ran : liquidateAccount env roster run = .ok u after) :
    ∃ (config : Config) (board : StatusBoard) (books left : ShareBooks) (pool fed : RewardPool)
        (records : LiquidationRecords) (oracle : Oracle) (market : Market) (position : Position)
        (terms : LiquidationTerms) (plan : LiquidationPlan),
      (roster.common.signer ∈ env.signers ∧ run.Holds env.program roster.common.config config ∧
        run.Holds env.program roster.common.statusBoard board ∧
        board.requireActive [.system] = .ok ()) ∧
      (run.Holds env.program roster.common.periodLedger books.ledger ∧
        run.Holds env.program roster.common.shareRegistry books.registry ∧
        run.Holds env.program roster.common.rewardPool pool ∧
        run.Holds env.program roster.common.liquidationBook records.book ∧
        run.Holds env.program roster.common.staker books.staker) ∧
      (run.OracleAt env config.settings roster.common.collateralFeed roster.common.debtFeed oracle ∧
        oracle.market = .ok market ∧
        books.staker.position books.registry.supply market = .ok position) ∧
      (run.EntryAt env.program roster.common.entry books.staker.owner records.entry ∧
        records.entry.checkLiquidatable config.settings position env.now = .ok ()) ∧
      (run.accounts.TokensOf roster.flaggerDestination records.entry.flagger ∧
        run.accounts.TokensOf roster.liquidatorDestination roster.common.signer) ∧
      (config.settings.termsForOthers market.price = .ok terms ∧ position.plan terms = .ok plan ∧
        books.liquidate pool plan env.now = .ok (left, fed)) ∧
      run.Writes env.program after
        [(roster.common.periodLedger, .periodLedger left.ledger),
          (roster.common.shareRegistry, .shareRegistry left.registry),
          (roster.common.rewardPool, .rewardPool fed),
          (roster.common.liquidationBook, .liquidationBook (records.close true).1.book),
          (roster.common.entry, .liquidationEntry (records.close true).1.entry),
          (roster.common.staker, .staker left.staker)]
        (payment roster.collateralVault roster.flaggerDestination roster.vaultAuthority
            plan.flagReward ++
          payment roster.collateralVault roster.liquidatorDestination roster.vaultAuthority
            plan.liquidateReward) := by
  simp only [liquidateAccount, bind_eq_ok, requireSigner_eq_ok, loadWhileActive_eq_ok, load_eq_ok,
    loadOracle_eq_ok, loadEntry_eq_ok, requireVault_eq_ok, requireTokenOwner_eq_ok,
    checkVaultAuthority_eq_ok, requireTokenProgram_eq_ok, rule_eq_ok, and_assoc, exists_and_left,
    exists_eq_left', exists_unit, Prod.exists] at ran
  obtain ⟨signed, config, known, ⟨board, shown, active⟩, ledger, ledgerFound, registry,
    registryFound, pool, poolFound, book, bookFound, staker, stakerFound, oracle, rates, _, _, _,
    market, fresh, position, valued, entry, seen, due, flaggerTokens, liquidatorTokens, terms,
    agreed, plan, planned, left, fed, liquidated, _, ledgerStored, _, registryStored, _, poolStored,
    _, bookStored, _, entryStored, _, stakerStored, _, flaggerPaid, _, liquidatorPaid, _, said,
    announced⟩ := ran
  obtain ⟨follow, poolFollows⟩ := ShareBooks.follow_liquidate liquidated
  have close := LiquidationRecords.follow_close ⟨book, entry⟩ true
  have held := seen.holds (LiquidationEntry.active_of_checkLiquidatable due)
  have writes := writes_of_store sound ledgerFound ledgerStored follow.ledger
  have writes := writes.store registryFound rfl registryStored follow.registry
  have writes := writes.store poolFound rfl poolStored poolFollows
  have writes := writes.store bookFound rfl bookStored close.book
  have writes := writes.store held rfl entryStored close.entry
  have writes := writes.store stakerFound rfl stakerStored follow.staker
  have writes := ((writes.pay flaggerPaid).pay liquidatorPaid).say said
  exact ⟨config, board, ⟨ledger, registry, staker⟩, left, pool, fed, ⟨book, entry⟩, oracle, market,
    position, terms, plan, ⟨signed, known, shown, active⟩,
    ⟨ledgerFound, registryFound, poolFound, bookFound, stakerFound⟩, ⟨rates, fresh, valued⟩,
    ⟨seen, due⟩, ⟨flaggerTokens, liquidatorTokens⟩, ⟨agreed, planned, liquidated⟩,
    writes.trans_still (writes_of_announce writes.sound announced)⟩

/-- A liquidation by the owner pays nobody. Book and entry are written if the account was
flagged. -/
theorem liquidateSelf_writes {r : LiquidationRoster} (sound : run.accounts.Sound env.program)
    (ran : liquidateSelf env r run = .ok u after) :
    ∃ (config : Config) (board : StatusBoard) (books left : ShareBooks) (pool fed : RewardPool)
        (records : LiquidationRecords) (oracle : Oracle) (market : Market) (position : Position)
        (terms : LiquidationTerms) (plan : LiquidationPlan),
      (r.signer ∈ env.signers ∧ run.Holds env.program r.config config ∧
        run.Holds env.program r.statusBoard board ∧ board.requireActive [.system] = .ok ()) ∧
      (run.Holds env.program r.periodLedger books.ledger ∧
        run.Holds env.program r.shareRegistry books.registry ∧
        run.Holds env.program r.rewardPool pool ∧
        run.Holds env.program r.liquidationBook records.book ∧
        run.Holds env.program r.staker books.staker ∧ books.staker.owner = r.signer) ∧
      (run.OracleAt env config.settings r.collateralFeed r.debtFeed oracle ∧
        oracle.market = .ok market ∧
        books.staker.position books.registry.supply market = .ok position) ∧
      (run.EntryAt env.program r.entry r.signer records.entry ∧
        config.settings.checkSelfLiquidatable position = .ok ()) ∧
      (config.settings.termsForSelf market.price = .ok terms ∧ position.plan terms = .ok plan ∧
        books.liquidate pool plan env.now = .ok (left, fed)) ∧
      run.Writes env.program after
        ([(r.periodLedger, .periodLedger left.ledger),
            (r.shareRegistry, .shareRegistry left.registry), (r.rewardPool, .rewardPool fed)] ++
          (if records.entry.active then
            [(r.liquidationBook, .liquidationBook (records.close true).1.book),
              (r.entry, .liquidationEntry (records.close true).1.entry)] else []) ++
          [(r.staker, .staker left.staker)]) [] := by
  simp only [liquidateSelf, bind_eq_ok, requireSigner_eq_ok, loadWhileActive_eq_ok, load_eq_ok,
    loadStakerOf_eq_ok, loadOracle_eq_ok, loadEntry_eq_ok, rule_eq_ok, and_assoc, exists_and_left,
    exists_eq_left', exists_unit, Prod.exists, LiquidationRecords.close_snd] at ran
  obtain ⟨signed, config, known, ⟨board, shown, active⟩, ledger, ledgerFound, registry,
    registryFound, pool, poolFound, book, bookFound, entry, seen, staker, stakerFound, owned,
    oracle, rates, market, fresh, position, valued, due, terms, agreed, plan, planned, left, fed,
    liquidated, _, ledgerStored, _, registryStored, _, poolStored, ran⟩ := ran
  obtain ⟨follow, poolFollows⟩ := ShareBooks.follow_liquidate liquidated
  have close := LiquidationRecords.follow_close ⟨book, entry⟩ true
  have writes := writes_of_store sound ledgerFound ledgerStored follow.ledger
  have writes := writes.store registryFound rfl registryStored follow.registry
  have writes := writes.store poolFound rfl poolStored poolFollows
  refine ⟨config, board, ⟨ledger, registry, staker⟩, left, pool, fed, ⟨book, entry⟩, oracle, market,
    position, terms, plan, ⟨signed, known, shown, active⟩,
    ⟨ledgerFound, registryFound, poolFound, bookFound, stakerFound, owned⟩, ⟨rates, fresh, valued⟩,
    ⟨seen, due⟩, ⟨agreed, planned, liquidated⟩, ?_⟩
  cases flagged : entry.active with
  | false =>
    simp only [flagged, Bool.false_eq_true, ↓reduceIte, bind_eq_ok, exists_unit] at ran ⊢
    obtain ⟨_, stakerStored, announced⟩ := ran
    have writes := writes.store stakerFound rfl stakerStored follow.staker
    exact writes.trans_still (writes_of_announce writes.sound announced)
  | true =>
    simp only [flagged, ↓reduceIte, bind_eq_ok, exists_unit] at ran ⊢
    obtain ⟨_, bookStored, _, entryStored, _, stakerStored, announced⟩ := ran
    have writes := writes.store bookFound rfl bookStored close.book
    have writes := writes.store (seen.holds flagged) rfl entryStored close.entry
    have writes := writes.store stakerFound rfl stakerStored follow.staker
    exact writes.trans_still (writes_of_announce writes.sound announced)

end FeeTreasury.Program
