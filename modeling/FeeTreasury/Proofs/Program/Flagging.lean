import FeeTreasury.Proofs.Program.Backing
import FeeTreasury.Proofs.Program.Entries

/-!
# A liquidation by others follows a flag

An open entry that the accounts hold at some time was opened by an earlier flag, and every call
since has left it as it was (`FeeTreasury.Accounts.Evolves.opened_of_active`). So a liquidation by
others follows the flag that has opened the entry, at least the delay later that was in force at the
flag, and it pays who has signed the flag
(`FeeTreasury.Accounts.Evolves.liquidation_follows_flag`).
-/

namespace FeeTreasury

/-- The stakers that the calls of a history are about have entries at addresses of their own: no two
of them make the hash of the addresses collide. -/
def EntriesApart (program : Key) (history : List Called) : Prop :=
  Set.InjOn (fun account => (Place.entry account).key? program)
    (fun account => ∃ called ∈ history, called.about? = some account)

namespace Accounts.Evolves

variable {program key : Key} {start accounts : Accounts} {history earlier later : List Called}
  {entry : LiquidationEntry}

/-- An open entry was opened by a flag, and every call since has left it as it was. -/
theorem opened_of_active (fresh : start.Uninitialised program)
    (evolves : start.Evolves program history accounts)
    (held : accounts.held program key = some entry) (active : entry.active = true) :
    ∃ before flag between, history = before ++ flag :: between ∧ flag.Opens key entry ∧
      ∀ call ∈ between, call.report.accounts.held program key = some entry := by
  -- By induction on the history. The last call has opened the entry, or it has met it.
  induction evolves with
  | start => exact nomatch (held_of_vacant (fresh key)).symm.trans held
  | @call history accounts evolves call now own ih =>
    subst own
    have sound := evolves.sound fresh.sound
    have extend (met : accounts.held call.program key = some entry) :
        ∃ before flag between, history ++ [⟨call, accounts, now⟩] = before ++ flag :: between ∧
          flag.Opens key entry ∧
          ∀ other ∈ between, other.report.accounts.held call.program key = some entry := by
      obtain ⟨before, flag, between, rfl, opens, since⟩ := ih met
      refine ⟨before, flag, between ++ [⟨call, accounts, now⟩], by simp, opens, ?_⟩
      intro other member
      rcases List.mem_append.mp member with earlier | last
      · exact since other earlier
      · obtain rfl := List.mem_singleton.mp last
        exact held
    rcases Called.entries ⟨call, accounts, now⟩ sound with
      spares | ⟨place, left, opens, leaves⟩
    · exact extend ((congrFun spares key).symm.trans held)
    · have found := (congrFun leaves key).symm.trans held
      by_cases same : key = place
      · subst same
        rw [Function.update_self] at found
        obtain rfl := Option.some.inj found
        exact ⟨history, _, [], rfl, opens active, by simp⟩
      · rw [Function.update_of_ne same] at found
        exact extend found
  | others _ spares ih => exact ih ((congrFun (held_of_spares spares) key).symm.trans held)

/-- **A liquidation by others follows a flag.** Whatever was called, by whom and with which
settings: the account was flagged before, above the liquidation ratio of that time, and was not
settled since. The delay that was in force at the flag has passed, the account is above the issuance
ratio of this time, and the reward for the flag goes to who has signed it. -/
theorem liquidation_follows_flag {liquidation : Called} (fresh : start.Uninitialised program)
    (evolves : start.Evolves program (earlier ++ liquidation :: later) accounts)
    (apart : EntriesApart program (earlier ++ [liquidation]))
    (did : liquidation.done? = some .liquidateAccount) :
    ∃ account flagger settings before flag between,
      earlier = before ++ flag :: between ∧ flag.Flags account flagger settings ∧
        (∀ call ∈ between, ¬ call.Settles account) ∧
        flag.now.toInt + settings.liquidationDelay.toInt ≤ liquidation.now.toInt ∧
        liquidation.Liquidates account flagger := by
  obtain ⟨past, _⟩ := evolves.upTo rfl
  obtain ⟨own, sound⟩ := evolves.sound_of_mem fresh (List.mem_append_right _ (.head later))
  obtain ⟨account, key, entry, _, placed, held, active, passed, liquidates, _⟩ :=
    Called.liquidateAccount_eq sound did
  rw [own] at placed held
  obtain ⟨before, flag, between, rfl, ⟨other, settings, flags, opened, due⟩, since⟩ :=
    past.opened_of_active fresh held active
  have flagged : flag ∈ before ++ flag :: between := List.mem_append_right _ (.head between)
  obtain ⟨flagOwn, _⟩ := past.sound_of_mem fresh flagged
  rw [flagOwn] at opened
  have same : other = account :=
    apart ⟨flag, List.mem_append_left _ flagged, flags.about⟩
      ⟨liquidation, List.mem_append_right _ (.head _), liquidates.about⟩
      (opened.trans placed.symm)
  subst same
  refine ⟨other, entry.flagger, settings, before, flag, between, rfl, flags, ?_, ?_, liquidates⟩
  · intro call member settles
    obtain ⟨callOwn, callSound⟩ :=
      past.sound_of_mem fresh (List.mem_append_right _ (.tail flag member))
    rw [← callOwn] at placed since
    have closed := Called.closed_of_settles callSound settles placed (since call member)
    rw [closed] at active
    exact nomatch active
  · rw [← due]
    exact Int64.le_iff_toInt_le.mp passed

end Accounts.Evolves

/-! ## A first liquidation -/

namespace FirstLiquidation

open FirstDeposit (program key config statusBoard periodLedger shareRegistry rewardPool
  liquidationBook vaultAuthority staker tokens)

def collateralFeed : Key :=
  ⟨#v[207, 138, 20, 15, 205, 124, 33, 206, 154, 116, 251, 23, 78, 163, 107, 31,
    205, 178, 161, 46, 69, 109, 45, 92, 13, 198, 83, 197, 49, 127, 169, 198]⟩

def debtFeed : Key :=
  ⟨#v[140, 24, 224, 39, 60, 80, 198, 105, 198, 118, 189, 35, 164, 202, 250, 61,
    143, 127, 209, 169, 155, 52, 119, 76, 12, 15, 133, 91, 241, 246, 63, 153]⟩

/-- The entry of the staker whose key is nines. -/
def entry : Key :=
  ⟨#v[241, 242, 12, 238, 97, 154, 137, 252, 32, 39, 187, 120, 12, 38, 153, 10,
    249, 183, 227, 225, 204, 115, 86, 247, 82, 156, 158, 144, 141, 155, 242, 174]⟩

/-- What a first deposit needs, and token accounts of a flagger and of a liquidator. -/
def start : Accounts :=
  ⟨FirstDeposit.start.entries ++ [(key 105, tokens (key 8) 0), (key 106, tokens (key 6) 0)]⟩

def setUp : Called := { FirstDeposit.setUp with before := start }

def create : Called := { FirstDeposit.create with before := setUp.report.accounts }

/-- The staker puts in 500 of collateral. -/
def deposit : Called := { FirstDeposit.deposit with before := create.report.accounts }

def createPrice : Called where
  call := .make program (.createFeed .collateral)
    (⟨key 7, config, collateralFeed, systemProgram⟩ : NewFeedRoster)
  before := deposit.report.accounts
  now := 3

def createTotal : Called where
  call := .make program (.createFeed .totalDebt)
    (⟨key 7, config, debtFeed, systemProgram⟩ : NewFeedRoster)
  before := createPrice.report.accounts
  now := 3

/-- Collateral is worth a dollar. -/
def price : Called where
  call := .make program (.submitRate unit) (⟨key 7, config, collateralFeed⟩ : RateRoster)
  before := createTotal.report.accounts
  now := 4

/-- The debt of all stakers is 300 dollars. -/
def total : Called where
  call := .make program (.submitRate 300) (⟨key 7, config, debtFeed⟩ : RateRoster)
  before := price.report.accounts
  now := 4

/-- There is one staker with debt, whose ratio is three fifths. -/
def issue : Called where
  call := .make program (.recordShares 100)
    (⟨key 7, config, periodLedger, shareRegistry, rewardPool, staker⟩ : SharesRoster)
  before := total.report.accounts
  now := 5

def flag : Called where
  call := .make program .flagAccount (⟨key 8, config, statusBoard, shareRegistry, liquidationBook,
    entry, staker, collateralFeed, debtFeed, systemProgram⟩ : FlagRoster)
  before := issue.report.accounts
  now := 6

/-- The liquidation, eight hours after the flag. -/
def liquidate : Called where
  call := .make program .liquidateAccount
    (⟨⟨key 6, config, statusBoard, periodLedger, shareRegistry, rewardPool, liquidationBook, entry,
      staker, collateralFeed, debtFeed⟩, key 103, key 105, key 106, vaultAuthority, tokenProgram⟩ :
      DelinquentRoster)
  before := flag.report.accounts
  now := 28806

/-- The calls before the liquidation. -/
def earlier : List Called :=
  [setUp, create, deposit, createPrice, createTotal, price, total, issue, flag]

theorem evolves : start.Evolves program (earlier ++ [liquidate]) liquidate.report.accounts := by
  have first : start.Evolves program [setUp, create, deposit] deposit.report.accounts :=
    ((Accounts.Evolves.start.call setUp.call 0 rfl).call create.call 1 rfl).call deposit.call 2 rfl
  have feeds := (first.call createPrice.call 3 rfl).call createTotal.call 3 rfl
  have rates := (feeds.call price.call 4 rfl).call total.call 4 rfl
  exact ((rates.call issue.call 5 rfl).call flag.call 6 rfl).call liquidate.call 28806 rfl

theorem uninitialised : start.Uninitialised program :=
  Accounts.uninitialised_of_forall (by decide) (by decide)

theorem all_done :
    ((earlier ++ [liquidate]).map fun called => (called.done?, called.about?)) =
      [(some (.setUp default), none), (some .createStaker, none),
        (some (.depositCollateral 500), none), (some (.createFeed .collateral), none),
        (some (.createFeed .totalDebt), none), (some (.submitRate unit), none),
        (some (.submitRate 300), none), (some (.recordShares 100), none),
        (some .flagAccount, some (key 9)), (some .liquidateAccount, some (key 9))] := by
  show (Called.inTurn Called.report start [(setUp.call, 0), (create.call, 1), (deposit.call, 2),
    (createPrice.call, 3), (createTotal.call, 3), (price.call, 4), (total.call, 4), (issue.call, 5),
    (flag.call, 6), (liquidate.call, 28806)]).map _ = _
  -- In turn, the list says once what a report is. That is unfolded up to the places of addresses,
  -- and these are worked out on numbers.
  delta Called.about? Called.subject? Called.done? Called.report ClientCall.run Program.process
    Program.perform Program.setUp Program.createSingle Program.createStaker Program.createFeed
    Program.flagAccount Program.liquidateAccount Exec.loadEntry Exec.checkVaultAuthority
  rewrite [Exec.checkPlace_eq_fun, Place.address?_eq, Address.derive?_eq]
  decide +kernel

theorem liquidate_done : liquidate.done? = some .liquidateAccount := by
  have last := congrArg List.getLast? all_done
  simp only [List.map_append, List.map_singleton, List.getLast?_concat, List.getLast?_cons_cons,
    List.getLast?_singleton, Option.some.injEq, Prod.mk.injEq] at last
  exact last.1

theorem entriesApart : EntriesApart program (earlier ++ [liquidate]) := by
  have only (account : Key) (concerned : ∃ called ∈ earlier ++ [liquidate],
      called.about? = some account) : account = key 9 := by
    obtain ⟨called, member, about⟩ := concerned
    have listed := List.mem_map_of_mem (f := fun called : Called => (called.done?, called.about?))
      member
    rw [all_done, about] at listed
    obtain ⟨_, same⟩ | ⟨_, same⟩ : called.done? = some .flagAccount ∧ account = key 9 ∨
        called.done? = some .liquidateAccount ∧ account = key 9 := by simpa using listed
    all_goals exact same
  intro account first other second _
  rw [only account first, only other second]

theorem liquidation_follows_flag_firstLiquidation :
    (start.Uninitialised program ∧ EntriesApart program (earlier ++ [liquidate]) ∧
        liquidate.done? = some .liquidateAccount) ∧
      ∃ account flagger settings before flag between,
        earlier = before ++ flag :: between ∧ flag.Flags account flagger settings ∧
          (∀ call ∈ between, ¬ call.Settles account) ∧
          flag.now.toInt + settings.liquidationDelay.toInt ≤ liquidate.now.toInt ∧
          liquidate.Liquidates account flagger := by
  exact ⟨⟨uninitialised, entriesApart, liquidate_done⟩,
    Accounts.Evolves.liquidation_follows_flag uninitialised evolves entriesApart liquidate_done⟩

end FirstLiquidation

end FeeTreasury
