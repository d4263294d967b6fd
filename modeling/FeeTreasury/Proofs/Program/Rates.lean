import FeeTreasury.Proofs.Crediting
import FeeTreasury.Proofs.Program.Consent

/-!
# Decisions are taken at the latest rates

A call that judges a staker lists two feeds of its choice, and takes a price and a total debt from
them (`FeeTreasury.Called.JudgesAt`). What a feed says was submitted to it, and nothing was
submitted for its asset since (`FeeTreasury.Accounts.Evolves.latestRate_of_held`); a feed without a
submission is stale. So whichever feeds a call lists, it judges at a price that is not zero, and at
a price and a total debt that were submitted last, and no longer ago than the settings in force
allow (`FeeTreasury.Accounts.Evolves.judgement_at_latest_rates`).
-/

namespace FeeTreasury

open Outcome

/-! ## Fresh rates -/

theorem saturateTime_of_le {n : Int} (atLeast : Int64.minValue.toInt ≤ n)
    (atMost : n ≤ Int64.maxValue.toInt) : (saturateTime n).toInt = n := by
  rw [saturateTime, if_neg (Int.not_lt.mpr atLeast), if_neg (Int.not_lt.mpr atMost)]
  exact Int64.toInt_ofInt_of_le atLeast (Int.lt_of_le_of_lt atMost (by decide))

namespace RateFeed

variable {feed : RateFeed} {now period : Int64}

/-- A feed that is not stale has a rate, and the rate is not older than allowed. Times before the
epoch are left out, between which the difference may not fit. -/
theorem age_le_of_fresh (fresh : feed.isStale now period = false) (nonneg : 0 ≤ now.toInt)
    (past : 0 ≤ feed.updatedAt.toInt) :
    now.toInt - feed.updatedAt.toInt ≤ period.toInt := by
  simp only [isStale, decide_eq_false_iff_not, not_or, Int64.not_lt] at fresh
  have age := Int64.le_iff_toInt_le.mp fresh.2
  rwa [saturateTime_of_le] at age
  · have most := feed.updatedAt.toInt_le
    have least : Int64.minValue.toInt + Int64.maxValue.toInt ≤ 0 := by decide
    omega
  · have most := now.toInt_le
    omega

theorem round_ne_zero_of_fresh (fresh : feed.isStale now period = false) : feed.round ≠ 0 := by
  simp only [isStale, decide_eq_false_iff_not, not_or] at fresh
  exact fresh.1

end RateFeed

/-- A market consists of the rates of two fresh feeds, and its price is not zero. -/
theorem Oracle.rates_of_market {oracle : Oracle} {market : Market}
    (answered : oracle.market = .ok market) :
    (market.price ≠ 0 ∧ oracle.collateral.rate = market.price ∧
        oracle.collateral.isStale oracle.now oracle.rateStalePeriod = false) ∧
      oracle.totalDebt.rate = market.totalDebt ∧
        oracle.totalDebt.isStale oracle.now oracle.debtStalePeriod = false := by
  have different : AssetKey.totalDebt ≠ AssetKey.collateral := by decide
  obtain ⟨⟨priced, positive⟩, valued⟩ := market_eq_ok.mp answered
  simp only [rateFor, reading?, ↓reduceIte, different, Option.ite_none_right_eq_some,
    Option.some.injEq, RateReading.mk.injEq] at priced valued
  exact ⟨⟨positive, priced.2⟩, valued.2⟩

/-! ## What a call does to the feeds -/

namespace Called

/-- The feed account that a submission lists, and the rate. -/
def quoted? (called : Called) : Option (Key × UInt64) :=
  match called.done? with
  | some (.submitRate rate) =>
    (Roster.ofKeys? called.keys).map fun roster : RateRoster => (roster.feed, rate)
  | _ => none

/-- A submission of a rate to the feed of an asset. -/
def Submits (called : Called) (asset : AssetKey) (rate : UInt64) : Prop :=
  ∃ key, ∃ feed : RateFeed, called.quoted? = some (key, rate) ∧
    called.before.held called.call.program key = some feed ∧ feed.asset = asset

/-- What a call can do to the feeds: leave them as they were, create one without a rate, or submit a
rate to one. -/
inductive Feeds (called : Called) : Prop
  | spared (quiet : called.quoted? = none)
      (same : called.report.accounts.held called.call.program =
        (called.before.held called.call.program : Key → Option RateFeed))
  | created (key : Key) (feed : RateFeed) (quiet : called.quoted? = none)
      (unrated : feed.round = 0)
      (leaves : called.report.accounts.held called.call.program =
        Function.update (called.before.held called.call.program) key (some feed))
  | submitted (key : Key) (old feed : RateFeed) (quoted : called.quoted? = some (key, feed.rate))
      (found : called.before.held called.call.program key = some old)
      (asset : feed.asset = old.asset) (timed : feed.updatedAt = called.now)
      (leaves : called.report.accounts.held called.call.program =
        Function.update (called.before.held called.call.program) key (some feed))

variable {called : Called}

theorem feeds_of_createFeed {asset : AssetKey} (sound : called.before.Sound called.call.program)
    (did : called.done? = some (.createFeed asset)) : called.Feeds := by
  obtain ⟨r, begun, after, _, ran, start, sound, _, accounts, _⟩ :=
    ran_of_done (fun env r => Program.createFeed env r asset) (fun _ _ => rfl) sound did
  obtain ⟨_, bump, _, _, writes⟩ := Program.createFeed_writes sound ran
  refine .created r.feed (RateFeed.new asset bump) ?_ rfl ?_
  · simp only [quoted?, did]
  · rw [accounts, ← start]
    exact writes.held RateFeed

theorem feeds_of_submitRate {rate : UInt64} (sound : called.before.Sound called.call.program)
    (did : called.done? = some (.submitRate rate)) : called.Feeds := by
  obtain ⟨r, begun, after, listed, ran, start, sound, _, accounts, _⟩ :=
    ran_of_done (fun env r => Program.submitRate env r rate) (fun _ _ => rfl) sound did
  obtain ⟨_, old, feed, _, found, accepted, writes⟩ := Program.submitRate_writes sound ran
  have held : called.report.accounts.held called.call.program =
      Function.update (called.before.held called.call.program) r.feed (some feed) := by
    rw [accounts, ← start]
    exact writes.held RateFeed
  simp only [RateFeed.submit, bind_eq_ok, pure_eq_ok] at accepted
  obtain ⟨round, _, rfl⟩ := accepted
  refine .submitted r.feed old { old with rate, updatedAt := called.now, round } ?_
    (start ▸ found) rfl rfl held
  simp only [quoted?, did, listed, Option.map_some]

/-- **What a call does to the feeds.** -/
theorem feeds (called : Called) (sound : called.before.Sound called.call.program) :
    called.Feeds := by
  rcases called.failed_or_done with
    ⟨failed, same⟩ | ⟨instruction, begun, after, did, performed, start, _, accounts, _⟩
  · exact .spared (by simp only [quoted?, failed]) (by rw [same])
  · by_cases others : Recorded.kind RateFeed ∉ instruction.touches
    · rw [← start] at sound
      refine .spared ?_ ?_
      · cases instruction
        case submitRate => exact absurd (List.mem_singleton_self Kind.rateFeed) others
        all_goals simp only [quoted?, did]
      · rw [accounts, ← start]
        exact Program.held_of_perform others sound performed
    · cases instruction
      case createFeed => exact feeds_of_createFeed sound did
      case submitRate => exact feeds_of_submitRate sound did
      all_goals
        refine absurd ?_ others
        show Kind.rateFeed ∉ _
        simp [Instruction.touches]

end Called

/-! ## Where a rate comes from -/

/-- A rate was submitted for an asset at a time, and no other since. -/
def LatestRate (history : List Called) (asset : AssetKey) (rate : UInt64) (time : Int64) : Prop :=
  ∃ before submission between, history = before ++ submission :: between ∧
    submission.Submits asset rate ∧ submission.now = time ∧
    ∀ call ∈ between, ∀ other, ¬ call.Submits asset other

namespace LatestRate

variable {history : List Called} {asset : AssetKey} {rate : UInt64} {time : Int64} {last : Called}

theorem concat (latest : LatestRate history asset rate time)
    (quiet : ∀ other, ¬ last.Submits asset other) :
    LatestRate (history ++ [last]) asset rate time := by
  obtain ⟨before, submission, between, rfl, submits, timed, since⟩ := latest
  refine ⟨before, submission, between ++ [last], by simp, submits, timed, ?_⟩
  intro call listed
  rcases List.mem_append.mp listed with earlier | latest
  · exact since call earlier
  · obtain rfl := List.mem_singleton.mp latest
    exact quiet

/-- A latest rate is from a call of the history. -/
theorem exists_call (latest : LatestRate history asset rate time) :
    ∃ call ∈ history, call.now = time := by
  obtain ⟨before, submission, between, rfl, _, timed, _⟩ := latest
  exact ⟨submission, List.mem_append_right _ (.head between), timed⟩

end LatestRate

/-- Two feeds of an asset lie in one account. -/
theorem Accounts.Sound.feed_unique {accounts : Accounts} {program key other : Key}
    {feed twin : RateFeed} (sound : accounts.Sound program)
    (found : accounts.held program key = some feed)
    (again : accounts.held program other = some twin) (same : twin.asset = feed.asset) :
    other = key := by
  have here : (Place.feed feed.asset).key? program = some key := (begins_of_held sound found).place
  have there : (Place.feed twin.asset).key? program = some other :=
    (begins_of_held sound again).place
  rw [same, here] at there
  exact (Option.some.inj there).symm

namespace Accounts.Evolves

variable {program key : Key} {start accounts : Accounts} {history : List Called} {feed : RateFeed}

/-- What a feed with a rate says is what was submitted last for its asset. -/
theorem latestRate_of_held (fresh : start.Uninitialised program)
    (evolves : start.Evolves program history accounts)
    (held : accounts.held program key = some feed) (rated : feed.round ≠ 0) :
    LatestRate history feed.asset feed.rate feed.updatedAt := by
  -- By induction on the history. The last call has submitted the rate, or it has met the feed.
  induction evolves with
  | start => exact nomatch (held_of_vacant (fresh key)).symm.trans held
  | @call history accounts evolves call now own ih =>
    subst own
    have sound := evolves.sound fresh.sound
    have extend (quiet : Called.quoted? ⟨call, accounts, now⟩ = none)
        (met : accounts.held call.program key = some feed) :
        LatestRate (history ++ [⟨call, accounts, now⟩]) feed.asset feed.rate feed.updatedAt := by
      refine (ih met).concat fun other => ?_
      rintro ⟨_, _, quoted, _⟩
      exact nomatch quiet.symm.trans quoted
    cases Called.feeds ⟨call, accounts, now⟩ sound with
    | spared quiet same => exact extend quiet ((congrFun same key).symm.trans held)
    | created place added quiet unrated leaves =>
      have found := (congrFun leaves key).symm.trans held
      by_cases same : key = place
      · subst same
        rw [Function.update_self] at found
        obtain rfl := Option.some.inj found
        exact absurd unrated rated
      · rw [Function.update_of_ne same] at found
        exact extend quiet found
    | submitted place old added quoted met asset timed leaves =>
      have found := (congrFun leaves key).symm.trans held
      by_cases same : key = place
      · subst same
        rw [Function.update_self] at found
        obtain rfl := Option.some.inj found
        exact ⟨history, _, [], rfl, ⟨key, old, quoted, met, asset.symm⟩, timed.symm, by simp⟩
      · rw [Function.update_of_ne same] at found
        refine (ih found).concat fun other => ?_
        -- Another feed took the rate, so it is the feed of another asset.
        rintro ⟨_, twin, again, stored, twinned⟩
        obtain ⟨rfl, _⟩ := Prod.mk.inj (Option.some.inj (quoted.symm.trans again))
        exact same (sound.feed_unique stored found twinned.symm)
  | others _ spares ih => exact ih ((congrFun (held_of_spares spares) key).symm.trans held)

end Accounts.Evolves

/-! ## What a call judges by -/

/-- The accounts by which a call judges a staker. -/
structure Evidence where
  config : Key
  shareRegistry : Key
  staker : Key
  collateralFeed : Key
  debtFeed : Key

def ClaimRoster.evidence (r : ClaimRoster) : Evidence :=
  ⟨r.config, r.shareRegistry, r.staker, r.collateralFeed, r.debtFeed⟩

def WithdrawRoster.evidence (r : WithdrawRoster) : Evidence :=
  ⟨r.config, r.shareRegistry, r.staker, r.collateralFeed, r.debtFeed⟩

def FlagRoster.evidence (r : FlagRoster) : Evidence :=
  ⟨r.config, r.shareRegistry, r.staker, r.collateralFeed, r.debtFeed⟩

def RemoveRoster.evidence (r : RemoveRoster) : Evidence :=
  ⟨r.config, r.shareRegistry, r.staker, r.collateralFeed, r.debtFeed⟩

def LiquidationRoster.evidence (r : LiquidationRoster) : Evidence :=
  ⟨r.config, r.shareRegistry, r.staker, r.collateralFeed, r.debtFeed⟩

namespace Instruction

/-- The instructions that judge a staker. -/
def judges : Instruction → Bool
  | claimFees | claimOnBehalf | withdrawCollateral _ | flagAccount | removeFlag | liquidateAccount
  | liquidateSelf => true
  | _ => false

/-- The collateral on which an instruction judges a staker: what a withdrawal leaves, or all. -/
def judged (collateral : UInt64) : Instruction → UInt64
  | withdrawCollateral amount => collateral - amount
  | _ => collateral

/-- What an instruction that is done has found in the position of a staker. A liquidation takes what
its plan says, which is made at the same price. -/
def Finds (settings : Settings) (market : Market) (position : Position) : Instruction → Prop
  | claimFees | claimOnBehalf => position.claimable settings = .ok true
  | withdrawCollateral _ =>
    ∃ limit, settings.requireIssuanceRatio = .ok limit ∧ position.ratio ≤ limit
  | flagAccount => ∃ limit, settings.requireLiquidationRatio = .ok limit ∧ limit < position.ratio
  | removeFlag =>
    ∃ records left, LiquidationRecords.removeIfHealthy records settings position = .ok left
  | liquidateAccount => ∃ limit terms plan,
    settings.requireIssuanceRatio = .ok limit ∧ limit < position.ratio ∧
      settings.termsForOthers market.price = .ok terms ∧ position.plan terms = .ok plan
  | liquidateSelf => ∃ limit terms plan,
    settings.requireIssuanceRatio = .ok limit ∧ limit < position.ratio ∧
      settings.termsForSelf market.price = .ok terms ∧ position.plan terms = .ok plan
  | _ => False

end Instruction

namespace Called

/-- The accounts by which a call that is done has judged a staker. -/
def evidence? (called : Called) : Option Evidence :=
  match called.done? with
  | some .claimFees => (Roster.ofKeys? (called.keys.drop 1)).map ClaimRoster.evidence
  | some .claimOnBehalf => (Roster.ofKeys? (called.keys.drop 2)).map ClaimRoster.evidence
  | some (.withdrawCollateral _) => (Roster.ofKeys? called.keys).map WithdrawRoster.evidence
  | some .flagAccount => (Roster.ofKeys? called.keys).map FlagRoster.evidence
  | some .removeFlag => (Roster.ofKeys? called.keys).map RemoveRoster.evidence
  | some .liquidateAccount =>
    (Roster.ofKeys? called.keys).map fun roster : DelinquentRoster => roster.common.evidence
  | some .liquidateSelf => (Roster.ofKeys? called.keys).map LiquidationRoster.evidence
  | _ => none

/-- A call has judged a staker under some settings and at a market: the settings are those of the
configuration that it lists, the market is made by the two feeds that it lists, and the position at
the market is as the instruction asks. -/
def JudgesAt (called : Called) (settings : Settings) (market : Market) : Prop :=
  ∃ (instruction : Instruction) (evidence : Evidence) (config : Config)
      (collateral totalDebt : RateFeed) (registry : ShareRegistry) (staker : Staker)
      (position : Position),
    (called.done? = some instruction ∧ called.evidence? = some evidence) ∧
    (called.before.held called.call.program evidence.config = some config ∧
      config.settings = settings) ∧
    (called.before.held called.call.program evidence.collateralFeed = some collateral ∧
      called.before.held called.call.program evidence.debtFeed = some totalDebt ∧
      (Oracle.new collateral totalDebt settings called.now).market = .ok market) ∧
    (called.before.held called.call.program evidence.shareRegistry = some registry ∧
      called.before.held called.call.program evidence.staker = some staker ∧
      Position.of staker.shares (instruction.judged staker.collateral) registry.supply market =
        .ok position) ∧
    instruction.Finds settings market position

variable {called : Called} {instruction : Instruction} {begun : Run} {evidence : Evidence}

theorem judgesAt_of_run {config : Config} {oracle : Oracle} {market : Market}
    {registry : ShareRegistry} {staker : Staker} {position : Position}
    (did : called.done? = some instruction) (listed : called.evidence? = some evidence)
    (start : begun.accounts = called.before)
    (known : begun.Holds called.env.program evidence.config config)
    (counted : begun.Holds called.env.program evidence.shareRegistry registry)
    (found : begun.Holds called.env.program evidence.staker staker)
    (rates : begun.OracleAt called.env config.settings evidence.collateralFeed evidence.debtFeed
      oracle) (fresh : oracle.market = .ok market)
    (valued : Position.of staker.shares (instruction.judged staker.collateral) registry.supply
      market = .ok position)
    (finds : instruction.Finds config.settings market position) :
    ∃ settings market, called.JudgesAt settings market := by
  obtain ⟨collateral, totalDebt, collateralFound, debtFound, rfl⟩ := rates
  unfold Run.Holds at known counted found collateralFound debtFound
  rw [start] at known counted found collateralFound debtFound
  exact ⟨config.settings, market, instruction, evidence, config, collateral, totalDebt, registry,
    staker, position, ⟨did, listed⟩, ⟨known, rfl⟩, ⟨collateralFound, debtFound, fresh⟩,
    ⟨counted, found, valued⟩, finds⟩

/-- A claim judges the staker before anything is counted. -/
theorem judgesAt_of_payClaim {r : ClaimRoster} {owner : Key} {after : Run} {u : Unit}
    {claim : ClaimTerms → Claiming Entitlement} (did : called.done? = some instruction)
    (whole : ∀ collateral, instruction.judged collateral = collateral)
    (asks : ∀ settings market position, Position.claimable position settings = .ok true →
      instruction.Finds settings market position)
    (listed : called.evidence? = some r.evidence) (start : begun.accounts = called.before)
    (sound : begun.accounts.Sound called.env.program)
    (ran : Program.payClaim called.env r owner claim begun = .ok u after)
    (settles : ∀ terms books claimed after, claim terms books = .ok claimed after →
      Claiming.Settles books after)
    (admits : ∀ terms books claimed after, claim terms books = .ok claimed after →
      books.Admits terms) : ∃ settings market, called.JudgesAt settings market := by
  obtain ⟨_, _, _, _, _, _, known, _, _, counted, found, _, ⟨rates, settings, supply⟩, _, answered,
    _⟩ := Program.payClaim_writes sound ran settles
  obtain ⟨_, _, _, fresh, valued, claimable⟩ := admits _ _ _ _ answered
  rw [settings] at claimable
  rw [supply, Staker.position, ← whole (Staker.collateral _)] at valued
  exact judgesAt_of_run did listed start known counted found rates fresh valued
    (asks _ _ _ claimable)

/-- Whatever judges a staker does so under the settings and at the market of what it lists. -/
theorem exists_judgesAt (sound : called.before.Sound called.call.program)
    (did : called.done? = some instruction) (judging : instruction.judges = true) :
    ∃ settings market, called.JudgesAt settings market := by
  cases instruction
  case claimFees =>
    obtain ⟨begun, after, performed, start, _⟩ := performed_of_done did
    obtain ⟨_, rest, r, listed, _, given, ran⟩ := Program.claimFees_eq_ok.mp performed
    refine judgesAt_of_payClaim did (fun _ => rfl) (fun _ _ _ => id) ?_ start (start ▸ sound) ran
      (fun _ _ _ _ => Claiming.settles_of_claim) fun _ _ _ _ => Claiming.admits_of_claim
    simp only [evidence?, did, keys, listed, List.drop_succ_cons, List.drop_zero, given,
      Option.map_some]
  case claimOnBehalf =>
    obtain ⟨begun, after, performed, start, _⟩ := performed_of_done did
    obtain ⟨_, _, rest, r, _, listed, _, _, given, ran⟩ :=
      Program.claimOnBehalf_eq_ok.mp performed
    refine judgesAt_of_payClaim did (fun _ => rfl) (fun _ _ _ => id) ?_ start (start ▸ sound) ran
      (fun _ _ _ _ => Claiming.settles_of_claimOnBehalf)
      fun _ _ _ _ => Claiming.admits_of_claimOnBehalf
    simp only [evidence?, did, keys, listed, List.drop_succ_cons, List.drop_zero, given,
      Option.map_some]
  case withdrawCollateral amount =>
    obtain ⟨r, begun, after, listed, ran, start, sound, _⟩ :=
      ran_of_done (fun env r => Program.withdrawCollateral env r amount) (fun _ _ => rfl) sound did
    obtain ⟨_, _, _, _, _, _, _, _, _, ⟨_, _, known, _, _⟩, counted, _, _, found, _, rates,
      ⟨fresh, _, valued, limited, healthy⟩, _⟩ := Program.withdrawCollateral_writes sound ran
    have shown : called.evidence? = some r.evidence := by
      simp only [evidence?, did, listed, Option.map_some]
    exact judgesAt_of_run did shown start known counted found rates fresh valued
      ⟨_, limited, healthy⟩
  case flagAccount =>
    obtain ⟨r, begun, after, listed, ran, start, sound, _⟩ :=
      ran_of_done Program.flagAccount (fun _ _ => rfl) sound did
    obtain ⟨_, _, _, _, _, _, _, _, _, _, _, ⟨_, known, _, _⟩, counted, _, found, rates, fresh,
      valued, _, flagged, _⟩ := Program.flagAccount_writes sound ran
    obtain ⟨above, _⟩ := LiquidationRecords.flag_eq_ok flagged
    have shown : called.evidence? = some r.evidence := by
      simp only [evidence?, did, listed, Option.map_some]
    exact judgesAt_of_run did shown start known counted found rates fresh valued above
  case removeFlag =>
    obtain ⟨r, begun, after, listed, ran, start, sound, _⟩ :=
      ran_of_done Program.removeFlag (fun _ _ => rfl) sound did
    obtain ⟨_, _, _, _, _, _, _, _, _, ⟨_, known⟩, counted, _, found, rates, fresh, valued, _,
      answered, _⟩ := Program.removeFlag_writes sound ran
    have shown : called.evidence? = some r.evidence := by
      simp only [evidence?, did, listed, Option.map_some]
    exact judgesAt_of_run did shown start known counted found rates fresh valued ⟨_, _, answered⟩
  case liquidateAccount =>
    obtain ⟨r, begun, after, listed, ran, start, sound, _⟩ :=
      ran_of_done Program.liquidateAccount (fun _ _ => rfl) sound did
    obtain ⟨_, _, _, _, _, _, _, _, _, _, _, _, ⟨_, known, _, _⟩, ⟨_, counted, _, _, found⟩,
      ⟨rates, fresh, valued⟩, ⟨_, due⟩, _, ⟨agreed, planned, _⟩, _⟩ :=
      Program.liquidateAccount_writes sound ran
    obtain ⟨_, limited, _, _, above⟩ := LiquidationEntry.checkLiquidatable_eq_ok.mp due
    have shown : called.evidence? = some r.common.evidence := by
      simp only [evidence?, did, listed, Option.map_some]
    exact judgesAt_of_run did shown start known counted found rates fresh valued
      ⟨_, _, _, limited, above, agreed, planned⟩
  case liquidateSelf =>
    obtain ⟨r, begun, after, listed, ran, start, sound, _⟩ :=
      ran_of_done Program.liquidateSelf (fun _ _ => rfl) sound did
    obtain ⟨_, _, _, _, _, _, _, _, _, _, _, _, ⟨_, known, _, _⟩, ⟨_, counted, _, _, found, _⟩,
      ⟨rates, fresh, valued⟩, ⟨_, due⟩, ⟨agreed, planned, _⟩, _⟩ :=
      Program.liquidateSelf_writes sound ran
    obtain ⟨_, limited, above⟩ := Settings.checkSelfLiquidatable_eq_ok.mp due
    have shown : called.evidence? = some r.evidence := by
      simp only [evidence?, did, listed, Option.map_some]
    exact judgesAt_of_run did shown start known counted found rates fresh valued
      ⟨_, _, _, limited, above, agreed, planned⟩
  all_goals exact nomatch judging

end Called

/-! ## The life of the program -/

namespace Accounts.Evolves

variable {program key : Key} {start accounts : Accounts} {earlier later : List Called}

/-- What a fresh feed says was submitted last for its asset, no longer ago than allowed. -/
theorem latestRate_of_fresh {feed : RateFeed} {now period : Int64}
    (unset : start.Uninitialised program) (evolves : start.Evolves program earlier accounts)
    (clock : ∀ call ∈ earlier, 0 ≤ call.now.toInt) (nonneg : 0 ≤ now.toInt)
    (held : accounts.held program key = some feed) (fresh : feed.isStale now period = false) :
    ∃ time, LatestRate earlier feed.asset feed.rate time ∧
      now.toInt - time.toInt ≤ period.toInt := by
  have latest := evolves.latestRate_of_held unset held (RateFeed.round_ne_zero_of_fresh fresh)
  obtain ⟨call, member, timed⟩ := latest.exists_call
  exact ⟨feed.updatedAt, latest, RateFeed.age_le_of_fresh fresh nonneg (timed ▸ clock call member)⟩

/-- **Decisions are taken at the latest rates.** Whoever has called the program before, and
whichever feeds a call lists in either position: a claim, a withdrawal, a flag, its removal or a
liquidation judges at the settings in force, at a price that is not zero and is the latest rate
submitted for the collateral, and at the latest total debt submitted. Neither is older than the
settings allow. -/
theorem judgement_at_latest_rates {judgement : Called} {instruction : Instruction}
    (fresh : start.Uninitialised program)
    (evolves : start.Evolves program (earlier ++ judgement :: later) accounts)
    (clock : ∀ call ∈ earlier ++ [judgement], 0 ≤ call.now.toInt)
    (did : judgement.done? = some instruction) (judges : instruction.judges = true) :
    ∃ settings market, judgement.JudgesAt settings market ∧
      (∃ config : Config, judgement.before.At program .config config ∧
        config.settings = settings) ∧
      market.price ≠ 0 ∧
      (∃ time, LatestRate earlier .collateral market.price time ∧
        judgement.now.toInt - time.toInt ≤ settings.rateStalePeriod.toInt) ∧
      ∃ time, LatestRate earlier .totalDebt market.totalDebt time ∧
        judgement.now.toInt - time.toInt ≤ settings.debtStalePeriod.toInt := by
  obtain ⟨past, own⟩ := evolves.upTo rfl
  obtain ⟨_, sound⟩ := evolves.sound_of_mem fresh (List.mem_append_right _ (.head later))
  obtain ⟨settings, market, judged⟩ := Called.exists_judgesAt sound did judges
  refine ⟨settings, market, judged, ?_⟩
  obtain ⟨_, _, config, collateral, totalDebt, _, _, _, _, ⟨known, rfl⟩,
    ⟨collateralFound, debtFound, answered⟩, _⟩ := judged
  rw [own] at sound known collateralFound debtFound
  have times (call : Called) (member : call ∈ earlier) : 0 ≤ call.now.toInt :=
    clock call (List.mem_append_left _ member)
  have nonneg := clock judgement (List.mem_append_right _ (List.mem_singleton_self _))
  -- The feeds are those of the two assets, in their positions.
  obtain ⟨collateralAsset, debtAsset⟩ := Oracle.assets_of_market answered
  obtain ⟨⟨nonzero, price, priceFresh⟩, debt, debtFresh⟩ := Oracle.rates_of_market answered
  have priced := past.latestRate_of_fresh fresh times nonneg collateralFound priceFresh
  have valued := past.latestRate_of_fresh fresh times nonneg debtFound debtFresh
  simp only [Oracle.new] at collateralAsset debtAsset price debt
  rw [collateralAsset, price] at priced
  rw [debtAsset, debt] at valued
  exact ⟨⟨config, sound.at_place known rfl, rfl⟩, nonzero, priced, valued⟩

end Accounts.Evolves

namespace FirstLiquidation

open FirstDeposit (program)

/-- The liquidation takes the price and the total debt that were submitted eight hours before. -/
theorem judgement_at_latest_rates_firstLiquidation :
    (start.Uninitialised program ∧ (∀ call ∈ earlier ++ [liquidate], 0 ≤ call.now.toInt) ∧
        liquidate.done? = some .liquidateAccount ∧ Instruction.liquidateAccount.judges = true) ∧
      ∃ settings market, liquidate.JudgesAt settings market ∧
        (∃ config : Config, liquidate.before.At program .config config ∧
          config.settings = settings) ∧
        market.price ≠ 0 ∧
        (∃ time, LatestRate earlier .collateral market.price time ∧
          liquidate.now.toInt - time.toInt ≤ settings.rateStalePeriod.toInt) ∧
        ∃ time, LatestRate earlier .totalDebt market.totalDebt time ∧
          liquidate.now.toInt - time.toInt ≤ settings.debtStalePeriod.toInt := by
  have did : liquidate.done? = some .liquidateAccount := by
    have last := congrArg List.getLast? all_done
    simp only [List.map_append, List.map_singleton, List.getLast?_concat, List.getLast?_cons_cons,
      List.getLast?_singleton, Option.some.injEq, Prod.mk.injEq] at last
    exact last.1
  have clock : ∀ call ∈ earlier ++ [liquidate], 0 ≤ call.now.toInt := by
    have times : ((earlier ++ [liquidate]).map Called.now).all (fun time => 0 ≤ time.toInt) =
        true := by
      show ([0, 1, 2, 3, 3, 4, 4, 5, 6, 28806] : List Int64).all _ = true
      decide
    intro call member
    exact of_decide_eq_true (List.all_eq_true.mp times call.now (List.mem_map_of_mem member))
  exact ⟨⟨uninitialised, clock, did, rfl⟩,
    Accounts.Evolves.judgement_at_latest_rates uninitialised evolves clock did rfl⟩

end FirstLiquidation

end FeeTreasury
