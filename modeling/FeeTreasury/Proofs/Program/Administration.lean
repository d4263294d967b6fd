import FeeTreasury.Proofs.Program.Follows
import FeeTreasury.Proofs.Program.Steps

/-!
# What administration, reports and claims do

For each instruction that moves no collateral: what it has seen when it succeeds, what it has
written, and which calls it has made. The instructions that do are in
`FeeTreasury.Proofs.Program.Collateral`.
-/

namespace FeeTreasury.Program

open Exec Stateful

variable {env : Env} {run after : Run} {u : Unit}

/-! ## Administration -/

theorem createSingle_writes {α : Type} [Stored α] [Recorded α] {payer target : Key} {place : Place}
    {first : UInt8 → α} (sound : run.accounts.Sound env.program)
    (ran : createSingle env payer target place first run = .ok u after)
    (begins : ∀ bump, place.address? env.program = some ⟨target, bump⟩ →
      Begins env.program target (first bump)) :
    ∃ bump, place.address? env.program = some ⟨target, bump⟩ ∧
      (run.accounts.get target).data.isEmpty = true ∧
      run.Writes env.program after [(target, record (first bump))]
        [creation α env payer target] := by
  simp only [createSingle, bind_eq_ok, checkPlace_eq_ok, and_assoc, exists_and_left,
    exists_eq_left', exists_unit] at ran
  obtain ⟨bump, lies, middle, created, stored⟩ := ran
  exact ⟨bump, lies, (create_eq_ok.mp created).1.1,
    writes_of_create_store sound created stored (begins bump lies)⟩

/-- The set-up writes the first value of every account of which there is one, where there was
none. -/
theorem setUp_writes {r : SetUpRoster} {settings : Settings}
    (sound : run.accounts.Sound env.program) (ran : setUp env r settings run = .ok u after) :
    ∃ vaultBump bump₁ bump₂ bump₃ bump₄ bump₅ bump₆,
      (r.authority ∈ env.signers ∧ settings.validate = .ok () ∧
        Place.vaultAuthority.address? env.program = some ⟨r.vaultAuthority, vaultBump⟩) ∧
      (run.accounts.held env.program r.statusBoard = (none : Option StatusBoard) ∧
        run.accounts.held env.program r.rewardPool = (none : Option RewardPool) ∧
        run.accounts.held env.program r.liquidationBook = (none : Option LiquidationBook)) ∧
      run.Writes env.program after
        [(r.config, .config (Config.new r.authority bump₁
            ⟨r.feeVault, r.rewardVault, r.collateralVault⟩ vaultBump settings env.now)),
          (r.statusBoard, .statusBoard (StatusBoard.new bump₂)),
          (r.periodLedger, .periodLedger (PeriodLedger.new env.now bump₃)),
          (r.shareRegistry, .shareRegistry (ShareRegistry.new bump₄)),
          (r.rewardPool, .rewardPool (RewardPool.new bump₅)),
          (r.liquidationBook, .liquidationBook (LiquidationBook.new bump₆))]
        [creation Config env r.authority r.config,
          creation StatusBoard env r.authority r.statusBoard,
          creation PeriodLedger env r.authority r.periodLedger,
          creation ShareRegistry env r.authority r.shareRegistry,
          creation RewardPool env r.authority r.rewardPool,
          creation LiquidationBook env r.authority r.liquidationBook] := by
  simp only [setUp, bind_eq_ok, requireSigner_eq_ok, rule_eq_ok, checkPlace_eq_ok,
    requireTokenOwner_eq_ok, and_assoc, exists_and_left, exists_eq_left', exists_unit] at ran
  obtain ⟨signed, valid, vaultBump, vaults, _, _, _, run₁, ran₁, run₂, ran₂, run₃, ran₃, run₄, ran₄,
    run₅, ran₅, run₆, ran₆, said⟩ := ran
  obtain ⟨bump₁, _, _, first⟩ := createSingle_writes sound ran₁
    fun _ lies => begins_of_fresh lies rfl rfl (Config.canonical _)
  obtain ⟨bump₂, _, noBoard, second⟩ := createSingle_writes first.sound ran₂
    fun _ lies => begins_of_fresh lies rfl rfl (StatusBoard.canonical _)
  obtain ⟨bump₃, _, _, third⟩ := createSingle_writes second.sound ran₃
    fun _ lies => begins_of_fresh lies rfl rfl (PeriodLedger.canonical _)
  obtain ⟨bump₄, _, _, fourth⟩ := createSingle_writes third.sound ran₄
    fun _ lies => begins_of_fresh lies rfl rfl (ShareRegistry.canonical _)
  obtain ⟨bump₅, _, noPool, fifth⟩ := createSingle_writes fourth.sound ran₅
    fun _ lies => begins_of_fresh lies rfl rfl (RewardPool.canonical _)
  obtain ⟨bump₆, _, noBook, sixth⟩ := createSingle_writes fifth.sound ran₆
    fun _ lies => begins_of_fresh lies rfl rfl (LiquidationBook.canonical _)
  have four := ((first.trans second).trans third).trans fourth
  have five := four.trans fifth
  refine ⟨vaultBump, bump₁, bump₂, bump₃, bump₄, bump₅, bump₆, ⟨signed, valid, vaults⟩,
    ⟨?_, ?_, ?_⟩, (five.trans sixth).say said⟩
  · rw [← first.held_eq rfl]
    exact held_of_isEmpty noBoard
  · rw [← four.held_eq rfl]
    exact held_of_isEmpty noPool
  · rw [← five.held_eq rfl]
    exact held_of_isEmpty noBook

theorem loadForAuthority_eq_ok {authority key : Key} {config : Config} :
    loadForAuthority env authority key run = .ok config after ↔
      (authority ∈ env.signers ∧ run.Holds env.program key config ∧
        config.authority = authority) ∧ run = after := by
  simp only [loadForAuthority, Config.requireAuthority, bind_eq_ok, requireSigner_eq_ok, load_eq_ok,
    rule_eq_ok, require_eq_ok, decide_eq_true_eq, pure_eq_ok, and_assoc, exists_and_left,
    exists_eq_left', exists_unit]
  constructor
  · rintro ⟨signed, _, known, authorised, rfl, same⟩
    exact ⟨signed, known, authorised, same⟩
  · rintro ⟨signed, known, authorised, same⟩
    exact ⟨signed, _, known, authorised, rfl, same⟩

theorem updateSettings_writes {r : ConfigRoster} {update : SettingsUpdate}
    (sound : run.accounts.Sound env.program)
    (ran : updateSettings env r update run = .ok u after) :
    ∃ config : Config, r.authority ∈ env.signers ∧ run.Holds env.program r.config config ∧
      config.authority = r.authority ∧ (update.apply config.settings).validate = .ok () ∧
      run.Writes env.program after
        [(r.config, .config { config with
          settings := update.apply config.settings, lastUpdate := env.now })] [] := by
  simp only [updateSettings, bind_eq_ok, loadForAuthority_eq_ok, rule_eq_ok, and_assoc,
    exists_and_left, exists_eq_left', exists_unit] at ran
  obtain ⟨signed, config, known, authorised, valid, _, stored, said⟩ := ran
  have writes := writes_of_store sound known stored ⟨rfl, rfl, fun _ => Config.canonical _⟩
  exact ⟨config, signed, known, authorised, valid, writes.say said⟩

theorem updateRoles_writes {r : ConfigRoster} {update : RolesUpdate}
    (sound : run.accounts.Sound env.program)
    (ran : updateRoles env r update run = .ok u after) :
    ∃ config : Config, r.authority ∈ env.signers ∧ run.Holds env.program r.config config ∧
      config.authority = r.authority ∧
      run.Writes env.program after
        [(r.config, .config { update.apply config with lastUpdate := env.now })] [] := by
  simp only [updateRoles, bind_eq_ok, loadForAuthority_eq_ok, and_assoc, exists_and_left,
    exists_eq_left'] at ran
  obtain ⟨signed, config, known, authorised, ran⟩ := ran
  -- Whether the log mentions a new authority or not, nothing was written before the configuration.
  have split : ∃ middle, run.Writes env.program middle [] [] ∧
      store r.config { update.apply config with lastUpdate := env.now } middle = .ok u after := by
    cases given : update.authority with
    | none =>
      simp only [given] at ran
      exact ⟨run, .refl sound, ran⟩
    | some key =>
      simp only [given, bind_eq_ok, exists_unit] at ran
      obtain ⟨middle, said, stored⟩ := ran
      exact ⟨middle, writes_of_say sound said, stored⟩
  obtain ⟨middle, logged, stored⟩ := split
  exact ⟨config, signed, known, authorised, logged.trans (writes_of_store logged.sound
    (logged.holds known rfl) stored ⟨rfl, rfl, fun _ => Config.canonical _⟩)⟩

theorem setSuspension_writes {r : SuspensionRoster} {number : UInt8} {suspended : Bool}
    {reason : UInt16} (sound : run.accounts.Sound env.program)
    (ran : setSuspension env r number suspended reason run = .ok u after) :
    ∃ (config : Config) (board : StatusBoard) (part : Section),
      (r.authority ∈ env.signers ∧ run.Holds env.program r.config config ∧
        config.authority = r.authority) ∧
      run.Holds env.program r.statusBoard board ∧ Section.ofNumber number = .ok part ∧
      run.Writes env.program after
        [(r.statusBoard, .statusBoard (board.setSuspension part suspended reason env.now))] [] := by
  simp only [setSuspension, bind_eq_ok, loadForAuthority_eq_ok, rule_eq_ok, load_eq_ok, and_assoc,
    exists_and_left, exists_eq_left', exists_unit] at ran
  obtain ⟨signed, config, known, authorised, part, named, board, shown, _, stored, said⟩ := ran
  have writes := writes_of_store sound shown stored ⟨rfl, rfl, fun _ => StatusBoard.canonical _⟩
  exact ⟨config, board, part, ⟨signed, known, authorised⟩, shown, named, writes.say said⟩

theorem createFeed_writes {r : NewFeedRoster} {asset : AssetKey}
    (sound : run.accounts.Sound env.program)
    (ran : createFeed env r asset run = .ok u after) :
    ∃ (config : Config) (bump : UInt8),
      (r.authority ∈ env.signers ∧ run.Holds env.program r.config config ∧
        config.authority = r.authority) ∧
      (run.accounts.get r.feed).data.isEmpty = true ∧
      run.Writes env.program after [(r.feed, .rateFeed (RateFeed.new asset bump))]
        [creation RateFeed env r.authority r.feed] := by
  simp only [createFeed, bind_eq_ok, loadForAuthority_eq_ok, checkPlace_eq_ok, and_assoc,
    exists_and_left, exists_eq_left', exists_unit] at ran
  obtain ⟨signed, config, known, authorised, bump, lies, _, created, _, stored, said⟩ := ran
  have writes := writes_of_create_store sound created stored
    (begins_of_fresh lies rfl rfl (RateFeed.canonical _))
  exact ⟨config, bump, ⟨signed, known, authorised⟩, (create_eq_ok.mp created).1.1, writes.say said⟩

theorem submitRate_writes {r : RateRoster} {rate : UInt64}
    (sound : run.accounts.Sound env.program)
    (ran : submitRate env r rate run = .ok u after) :
    ∃ (config : Config) (feed submitted : RateFeed),
      (r.oracleAuthority ∈ env.signers ∧ run.Holds env.program r.config config ∧
        config.oracleAuthority = r.oracleAuthority) ∧
      run.Holds env.program r.feed feed ∧ feed.submit rate env.now = .ok submitted ∧
      run.Writes env.program after [(r.feed, .rateFeed submitted)] [] := by
  simp only [submitRate, bind_eq_ok, requireSigner_eq_ok, load_eq_ok, check_eq_ok,
    decide_eq_true_eq, rule_eq_ok, and_assoc, exists_and_left, exists_eq_left', exists_unit] at ran
  obtain ⟨signed, config, known, authorised, feed, found, submitted, accepted, _, stored, said⟩ :=
    ran
  have writes := writes_of_store sound found stored (RateFeed.follows_submit accepted)
  exact ⟨config, feed, submitted, ⟨signed, known, authorised⟩, found, accepted, writes.say said⟩

theorem createStaker_writes {r : NewStakerRoster} (sound : run.accounts.Sound env.program)
    (ran : createStaker env r run = .ok u after) :
    ∃ (bump : UInt8) (registry : ShareRegistry),
      r.payer ∈ env.signers ∧ (run.accounts.get r.staker).data.isEmpty = true ∧
      run.Holds env.program r.shareRegistry registry ∧
      run.Writes env.program after
        [(r.staker, .staker (Staker.new r.owner bump env.now)),
          (r.shareRegistry, .shareRegistry
            { registry with stakerCount := saturatingSucc registry.stakerCount })]
        [creation Staker env r.payer r.staker] := by
  simp only [createStaker, bind_eq_ok, requireSigner_eq_ok, checkPlace_eq_ok, load_eq_ok,
    and_assoc, exists_and_left, exists_eq_left', exists_unit] at ran
  obtain ⟨signed, bump, lies, _, created, middle, stored, registry, found, _, counted, said⟩ := ran
  have first := writes_of_create_store sound created stored
    (begins_of_fresh lies rfl rfl (Staker.canonical_iff.mpr (show 0 < UInt32.size by decide)))
  have second := writes_of_store first.sound found counted
    ⟨rfl, rfl, fun _ => ShareRegistry.canonical _⟩
  refine ⟨bump, registry, signed, (create_eq_ok.mp created).1.1, ?_,
    (first.trans second).say said⟩
  rw [Run.Holds, ← first.held_eq rfl, found]

/-! ## Reports and closes -/

theorem recordShares_writes {r : SharesRoster} {shares : UInt64}
    (sound : run.accounts.Sound env.program)
    (ran : recordShares env r shares run = .ok u after) :
    ∃ (config : Config) (books changed : ShareBooks) (pool : RewardPool),
      (r.issuer ∈ env.signers ∧ run.Holds env.program r.config config ∧
        config.issuer = r.issuer) ∧
      run.Holds env.program r.periodLedger books.ledger ∧
      run.Holds env.program r.shareRegistry books.registry ∧
      run.Holds env.program r.rewardPool pool ∧ run.Holds env.program r.staker books.staker ∧
      books.setShares pool shares env.now = .ok changed ∧
      run.Writes env.program after
        [(r.periodLedger, .periodLedger changed.ledger),
          (r.shareRegistry, .shareRegistry changed.registry),
          (r.staker, .staker changed.staker)] [] := by
  simp only [recordShares, bind_eq_ok, requireSigner_eq_ok, load_eq_ok, check_eq_ok,
    decide_eq_true_eq, rule_eq_ok, and_assoc, exists_and_left, exists_eq_left', exists_unit] at ran
  obtain ⟨signed, config, known, authorised, ledger, ledgerFound, registry, registryFound, pool,
    poolFound, staker, stakerFound, changed, answered, _, first, _, second, _, third, said⟩ := ran
  have follow := ShareBooks.follow_setShares answered
  have first := writes_of_store sound ledgerFound first follow.ledger
  have second := first.store registryFound rfl second follow.registry
  have third := second.store stakerFound rfl third follow.staker
  exact ⟨config, ⟨ledger, registry, staker⟩, changed, pool, ⟨signed, known, authorised⟩,
    ledgerFound, registryFound, poolFound, stakerFound, answered, third.say said⟩

theorem recordIncome_writes {r : LedgerRoster} {add : PeriodLedger → Outcome PeriodLedger}
    (sound : run.accounts.Sound env.program)
    (ran : recordIncome env r add run = .ok u after)
    (follows : ∀ ledger added, add ledger = .ok added → Follows ledger added) :
    ∃ (config : Config) (ledger added : PeriodLedger),
      (r.signer ∈ env.signers ∧ run.Holds env.program r.config config ∧
        config.feeRecorder = r.signer) ∧
      run.Holds env.program r.periodLedger ledger ∧ add ledger = .ok added ∧
      run.Writes env.program after [(r.periodLedger, .periodLedger added)] [] := by
  simp only [recordIncome, bind_eq_ok, requireSigner_eq_ok, load_eq_ok, check_eq_ok,
    decide_eq_true_eq, rule_eq_ok, and_assoc, exists_and_left, exists_eq_left', exists_unit] at ran
  obtain ⟨signed, config, known, authorised, ledger, found, added, answered, _, stored, said⟩ := ran
  have writes := writes_of_store sound found stored (follows _ _ answered)
  exact ⟨config, ledger, added, ⟨signed, known, authorised⟩, found, answered, writes.say said⟩

theorem closeBy_writes {r : CloseRoster}
    {close : PeriodLedger → UInt64 → Outcome (PeriodLedger × UInt64)}
    (sound : run.accounts.Sound env.program) (ran : closeBy env r close run = .ok u after)
    (follows : ∀ ledger supply closed id, close ledger supply = .ok (closed, id) →
      Follows ledger closed) :
    ∃ (board : StatusBoard) (ledger closed : PeriodLedger) (registry : ShareRegistry) (id : UInt64),
      run.Holds env.program r.statusBoard board ∧
      board.requireActive closeSections = .ok () ∧
      run.Holds env.program r.periodLedger ledger ∧
      run.Holds env.program r.shareRegistry registry ∧
      close ledger registry.supply = .ok (closed, id) ∧
      run.Writes env.program after [(r.periodLedger, .periodLedger closed)] [] := by
  simp only [closeBy, bind_eq_ok, load_eq_ok, rule_eq_ok, and_assoc, exists_and_left,
    exists_eq_left', exists_unit, Prod.exists] at ran
  obtain ⟨board, shown, active, ledger, found, registry, counted, closed, id, answered, _, stored,
    emitted⟩ := ran
  have writes := writes_of_store sound found stored (follows _ _ _ _ answered)
  exact ⟨board, ledger, closed, registry, id, shown, active, found, counted, answered,
    writes.emit emitted⟩

theorem importPeriod_writes {r : LedgerRoster} {index : UInt8} {history : PeriodImport}
    (sound : run.accounts.Sound env.program)
    (ran : importPeriod env r index history run = .ok u after) :
    ∃ (config : Config) (ledger imported : PeriodLedger),
      (r.signer ∈ env.signers ∧ run.Holds env.program r.config config ∧
        config.authority = r.signer) ∧
      run.Holds env.program r.periodLedger ledger ∧
      ledger.importPeriod env.now index.toNat history = .ok imported ∧
      run.Writes env.program after [(r.periodLedger, .periodLedger imported)] [] := by
  simp only [importPeriod, bind_eq_ok, loadForAuthority_eq_ok, load_eq_ok, rule_eq_ok, and_assoc,
    exists_and_left, exists_eq_left', exists_unit] at ran
  obtain ⟨signed, config, known, authorised, ledger, found, imported, answered, _, stored,
    emitted⟩ := ran
  have writes := writes_of_store sound found stored (PeriodLedger.follows_importPeriod answered)
  exact ⟨config, ledger, imported, ⟨signed, known, authorised⟩, found, answered,
    writes.emit emitted⟩

theorem closePeriod_writes {r : CloseRoster} (sound : run.accounts.Sound env.program)
    (ran : closePeriod env r run = .ok u after) :
    ∃ (config : Config) (board : StatusBoard) (ledger closed : PeriodLedger)
        (registry : ShareRegistry) (id : UInt64),
      r.signer ∈ env.signers ∧ run.Holds env.program r.config config ∧
      (run.Holds env.program r.statusBoard board ∧
        board.requireActive closeSections = .ok ()) ∧
      run.Holds env.program r.periodLedger ledger ∧
      run.Holds env.program r.shareRegistry registry ∧
      ledger.closeCurrent env.now config.settings.periodDuration registry.supply =
        .ok (closed, id) ∧
      run.Writes env.program after [(r.periodLedger, .periodLedger closed)] [] := by
  simp only [closePeriod, bind_eq_ok, requireSigner_eq_ok, load_eq_ok, and_assoc, exists_and_left,
    exists_eq_left', exists_unit] at ran
  obtain ⟨signed, config, known, ran⟩ := ran
  obtain ⟨board, ledger, closed, registry, id, shown, active, found, counted, answered, writes⟩ :=
    closeBy_writes sound ran fun _ _ _ _ => PeriodLedger.follows_closeCurrent
  exact ⟨config, board, ledger, closed, registry, id, signed, known, ⟨shown, active⟩, found,
    counted, answered, writes⟩

theorem closeSecondary_writes {r : CloseRoster} {given : UInt64} {duration : Int64}
    (sound : run.accounts.Sound env.program)
    (ran : closeSecondary env r given duration run = .ok u after) :
    ∃ (config : Config) (board : StatusBoard) (ledger closed : PeriodLedger)
        (registry : ShareRegistry) (id : UInt64),
      (r.signer ∈ env.signers ∧ run.Holds env.program r.config config ∧
        config.relayer = r.signer) ∧
      (run.Holds env.program r.statusBoard board ∧
        board.requireActive closeSections = .ok ()) ∧
      run.Holds env.program r.periodLedger ledger ∧
      run.Holds env.program r.shareRegistry registry ∧
      ledger.closeFromRelayer env.now given duration config.settings.periodDuration
        registry.supply = .ok (closed, id) ∧
      run.Writes env.program after [(r.periodLedger, .periodLedger closed)] [] := by
  simp only [closeSecondary, bind_eq_ok, requireSigner_eq_ok, load_eq_ok, check_eq_ok,
    decide_eq_true_eq, and_assoc, exists_and_left, exists_eq_left', exists_unit] at ran
  obtain ⟨signed, config, known, authorised, ran⟩ := ran
  obtain ⟨board, ledger, closed, registry, id, shown, active, found, counted, answered, writes⟩ :=
    closeBy_writes sound ran fun _ _ _ _ => PeriodLedger.follows_closeFromRelayer
  exact ⟨config, board, ledger, closed, registry, id, ⟨signed, known, authorised⟩,
    ⟨shown, active⟩, found, counted, answered, writes⟩

/-! ## Approvals and claims -/

/-- An approval is created, or the stored one gets a new mark. -/
theorem setApproval_writes {r : ApprovalRoster} {delegate : Key} {canClaim : Bool}
    (sound : run.accounts.Sound env.program)
    (ran : setApproval env r delegate canClaim run = .ok u after) :
    ∃ (approval : Approval) (calls : List OutsideCall), r.authoriser ∈ env.signers ∧
      (Place.approval r.authoriser delegate).key? env.program = some r.approval ∧
      ((∃ bump, (run.accounts.get r.approval).data.isEmpty = true ∧
          calls = [creation Approval env r.authoriser r.approval] ∧
          approval = Approval.new r.authoriser delegate canClaim bump) ∨
        (∃ old : Approval, run.Holds env.program r.approval old ∧ calls = [] ∧
          approval = { old with canClaim })) ∧
      run.Writes env.program after [(r.approval, .approval approval)] calls := by
  simp only [setApproval, approvalFor, bind_eq_ok, requireSigner_eq_ok, checkPlace_eq_ok,
    account_eq_ok, and_assoc, exists_and_left, exists_eq_left', exists_unit] at ran
  obtain ⟨signed, bump, lies, approval, middle, given, last, stored, said⟩ := ran
  cases empty : (run.accounts.get r.approval).data.isEmpty with
  | true =>
    simp only [empty, ↓reduceIte, bind_eq_ok, pure_eq_ok, exists_unit] at given
    obtain ⟨_, created, rfl, rfl⟩ := given
    have writes := writes_of_create_store sound created stored
      (begins_of_fresh lies rfl rfl (Approval.canonical _))
    exact ⟨_, _, signed, Place.key?_of_address? lies, .inl ⟨bump, rfl, rfl, rfl⟩, writes.say said⟩
  | false =>
    simp only [empty, Bool.false_eq_true, ↓reduceIte, bind_eq_ok, load_eq_ok, pure_eq_ok,
      and_assoc, exists_and_left, exists_eq_left'] at given
    obtain ⟨old, found, rfl, rfl⟩ := given
    have writes := writes_of_store sound found stored
      ⟨rfl, rfl, fun _ => Approval.canonical _⟩
    exact ⟨_, _, signed, Place.key?_of_address? lies, .inr ⟨old, found, rfl, rfl⟩, writes.say said⟩

theorem settle_eq_ok {claim : Claiming Entitlement} {books left : ClaimBooks}
    {claimed : Entitlement} :
    settle claim books run = .ok (claimed, left) after ↔
      claim books = .ok claimed left ∧ run = after := by
  unfold settle EStateM.run
  cases claim books with
  | error fault books => simp only [throw_ne_ok, reduceCtorEq, false_and]
  | ok claimed books =>
    simp only [pure_eq_ok, Prod.mk.injEq, EStateM.Result.ok.injEq]

/-- A claim is paid to token accounts of the owner of the staker account. -/
theorem payClaim_writes {r : ClaimRoster} {owner : Key}
    {claim : ClaimTerms → Claiming Entitlement} (sound : run.accounts.Sound env.program)
    (ran : payClaim env r owner claim run = .ok u after)
    (settles : ∀ terms books claimed after, claim terms books = .ok claimed after →
      Claiming.Settles books after) :
    ∃ (config : Config) (terms : ClaimTerms) (registry : ShareRegistry) (books left : ClaimBooks)
        (claimed : Entitlement),
      run.Holds env.program r.config config ∧ run.Holds env.program r.statusBoard terms.board ∧
      run.Holds env.program r.periodLedger books.ledger ∧
      run.Holds env.program r.shareRegistry registry ∧
      run.Holds env.program r.staker books.staker ∧ books.staker.owner = owner ∧
      (run.OracleAt env config.settings r.collateralFeed r.debtFeed terms.oracle ∧
        terms.settings = config.settings ∧ terms.supply = registry.supply) ∧
      (run.accounts.TokensOf r.tokens.feeDestination owner ∧
        run.accounts.TokensOf r.tokens.rewardDestination owner) ∧
      claim terms books = .ok claimed left ∧
      run.Writes env.program after
        [(r.periodLedger, .periodLedger left.ledger), (r.staker, .staker left.staker)]
        (payment r.tokens.feeVault r.tokens.feeDestination r.vaultAuthority claimed.fees ++
          payment r.tokens.rewardVault r.tokens.rewardDestination r.vaultAuthority
            claimed.rewards) := by
  simp only [payClaim, bind_eq_ok, load_eq_ok, loadStakerOf_eq_ok, loadOracle_eq_ok,
    requireVault_eq_ok, requireTokenOwner_eq_ok, checkVaultAuthority_eq_ok,
    requireTokenProgram_eq_ok, settle_eq_ok, and_assoc, exists_and_left, exists_eq_left',
    exists_unit, Prod.exists] at ran
  obtain ⟨config, known, board, shown, ledger, ledgerFound, registry, counted, staker, stakerFound,
    owned, oracle, rates, _, _, feeOwner, rewardOwner, _, _, claimed, left, answered, _, first, _,
    second, _, third, _, fourth, emitted⟩ := ran
  have settled := settles _ _ _ _ answered
  have first := writes_of_store sound ledgerFound first settled.ledger
  have second := first.store stakerFound rfl second settled.follows_staker
  have third := second.pay third
  have fourth := third.pay fourth
  exact ⟨config, ⟨board, oracle, config.settings, registry.supply⟩, registry, ⟨ledger, staker⟩,
    left, claimed, known, shown, ledgerFound, counted, stakerFound, owned, ⟨rates, rfl, rfl⟩,
    ⟨feeOwner, rewardOwner⟩, answered, fourth.emit emitted⟩

theorem claimRoster_eq_ok {keys : List Key} {roster : ClaimRoster} :
    claimRoster keys run = .ok roster after ↔ Roster.ofKeys? keys = some roster ∧ run = after := by
  unfold claimRoster
  cases (Roster.ofKeys? keys : Option ClaimRoster) with
  | none => simp only [throw_ne_ok, reduceCtorEq, false_and]
  | some given => simp only [pure_eq_ok, Option.some.injEq]

theorem claimFees_eq_ok {keys : List Key} :
    claimFees env keys run = .ok u after ↔
      ∃ claimant rest roster, keys = claimant :: rest ∧ claimant ∈ env.signers ∧
        Roster.ofKeys? rest = some roster ∧
        payClaim env roster claimant Claiming.claim run = .ok u after := by
  cases keys with
  | nil => simp only [claimFees, throw_ne_ok, reduceCtorEq, false_and, exists_false]
  | cons claimant rest =>
    simp only [claimFees, bind_eq_ok, requireSigner_eq_ok, claimRoster_eq_ok, and_assoc,
      exists_and_left, exists_eq_left', exists_unit, List.cons.injEq]

theorem claimOnBehalf_eq_ok {keys : List Key} :
    claimOnBehalf env keys run = .ok u after ↔
      ∃ delegate place rest roster, ∃ approval : Approval, keys = delegate :: place :: rest ∧
        delegate ∈ env.signers ∧ run.Holds env.program place approval ∧
        Roster.ofKeys? rest = some roster ∧
        payClaim env roster approval.authoriser (Claiming.claimOnBehalf approval delegate) run =
          .ok u after := by
  match keys with
  | [] | [_] => simp only [claimOnBehalf, throw_ne_ok, reduceCtorEq, List.cons.injEq, and_false,
      false_and, exists_false]
  | delegate :: place :: rest =>
    simp only [claimOnBehalf, bind_eq_ok, requireSigner_eq_ok, load_eq_ok, claimRoster_eq_ok,
      and_assoc, exists_and_left, exists_eq_left', exists_unit, List.cons.injEq]
    constructor
    · rintro ⟨signed, approval, held, roster, given, ran⟩
      exact ⟨signed, roster, approval, held, given, ran⟩
    · rintro ⟨signed, roster, approval, held, given, ran⟩
      exact ⟨signed, approval, held, roster, given, ran⟩

end FeeTreasury.Program
