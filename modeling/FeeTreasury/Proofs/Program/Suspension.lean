import FeeTreasury.Proofs.Crediting
import FeeTreasury.Proofs.Program.Flagging

/-!
# A suspended system moves no value

There is one board of suspensions, so whatever account a call lists as the board is that one
(`FeeTreasury.Accounts.Sound.eq_of_place`). Ten instructions ask the board whether the system is
suspended, each at a point of its own and some for more sections, and come to no end if it is
(`FeeTreasury.Program.active_of_perform`). The others neither pay nor touch what a staker has put in
or has claimed (`FeeTreasury.Program.still_of_perform`). So no call moves value while the system is
suspended (`FeeTreasury.Accounts.Evolves.suspension_stops_value`).
-/

namespace FeeTreasury

/-! ## The board -/

namespace StatusBoard

variable {board : StatusBoard} {part : Section} {parts : List Section}

theorem isSuspended_setSuspension (board : StatusBoard) (part : Section) (suspended : Bool)
    (reason : UInt16) (now : Int64) :
    (board.setSuspension part suspended reason now).isSuspended part = suspended := by
  simp only [isSuspended, suspension, setSuspension, Fin.getElem_fin, Vector.getElem_set_self]

end StatusBoard

/-- There is no other value at the place of a value. -/
theorem Accounts.Sound.eq_of_place {accounts : Accounts} {program key : Key} {α : Type} [Stored α]
    [Recorded α] {place : Place} {value other : α} (sound : accounts.Sound program)
    (shown : accounts.At program place value) (found : accounts.held program key = some other)
    (placed : (record other).place = place) : other = value := by
  obtain ⟨lies, same, held⟩ := shown
  obtain ⟨_, again, _⟩ := sound.at_place found placed
  have here := (begins_of_held sound found).place
  rw [placed, same] at here
  obtain rfl := Option.some.inj here
  exact Option.some.inj (found.symm.trans held)

/-! ## What moves no value -/

/-- A staker has put in and has claimed what it had before. -/
def Staker.KeepsValue (old kept : Staker) : Prop :=
  kept.collateral = old.collateral ∧ kept.lastClaimed = old.lastClaimed

/-- No call moves tokens. -/
def TransferFree (calls : List OutsideCall) : Prop :=
  ∀ source destination authority amount,
    .transfer source destination authority amount ∉ calls

theorem transferFree_nil : TransferFree [] := fun _ _ _ _ => List.not_mem_nil

theorem transferFree_creation {α : Type} [Stored α] {env : Env} {payer target : Key} :
    TransferFree [Exec.creation α env payer target] := by
  intro source destination authority amount paid
  exact nomatch List.mem_singleton.mp paid

/-- No value has moved between accounts before and after some calls: no token is transferred, no
staker has other collateral or another last claim, a new staker has put in and claimed nothing, and
the reward pool is what it was. -/
structure Accounts.KeepsValue (accounts : Accounts) (program : Key) (after : Accounts)
    (calls : List OutsideCall) : Prop where
  unpaid : TransferFree calls
  stakers : accounts.Carries program after Staker.KeepsValue
  newcomers : ∀ key (staker : Staker), accounts.held program key = (none : Option Staker) →
    after.held program key = some staker → staker.collateral = 0 ∧ staker.lastClaimed = 0
  pool : after.held program = (accounts.held program : Key → Option RewardPool)

namespace Run.Writes

variable {program key : Key} {before after : Run} {puts : List (Key × Record)}
  {calls : List OutsideCall} {changed : Staker}

theorem keepsValue (writes : before.Writes program after puts calls)
    (stakers : valuesOf Staker puts = []) (pools : valuesOf RewardPool puts = [])
    (unpaid : TransferFree calls) :
    before.accounts.KeepsValue program after.accounts calls where
  unpaid := unpaid
  stakers := Accounts.carries_of_eq (writes.held_eq stakers) fun _ => ⟨rfl, rfl⟩
  newcomers key _ none held :=
    nomatch (none.symm.trans (congrFun (writes.held_eq stakers) key).symm).trans held
  pool := writes.held_eq pools

theorem keepsValue_of_staker (writes : before.Writes program after puts calls)
    (stakers : valuesOf Staker puts = [(key, changed)]) (pools : valuesOf RewardPool puts = [])
    (unpaid : TransferFree calls)
    (keeps : ∀ old, before.Holds program key old → Staker.KeepsValue old changed)
    (begins : before.accounts.held program key = (none : Option Staker) →
      changed.collateral = 0 ∧ changed.lastClaimed = 0) :
    before.accounts.KeepsValue program after.accounts calls where
  unpaid := unpaid
  stakers := writes.carries stakers (fun _ => ⟨rfl, rfl⟩) keeps
  newcomers other staker none held := by
    rw [writes.held_one stakers] at held
    by_cases same : other = key
    · subst same
      rw [Function.update_self] at held
      exact Option.some.inj held ▸ begins none
    · rw [Function.update_of_ne same, none] at held
      exact nomatch held
  pool := writes.held_eq pools

end Run.Writes

/-! ## What instructions ask of the board -/

/-- The instructions that ask whether the system is suspended. A flag can be removed while it is. -/
def Instruction.asksSystem : Instruction → Bool
  | closePeriod | closeSecondary .. | claimFees | claimOnBehalf | depositCollateral _
  | withdrawCollateral _ | flagAccount | liquidateAccount | liquidateSelf | takeReward => true
  | _ => false

namespace Program

open Exec Stateful

variable {env : Env} {run after : Run} {u : Unit} {keys : List Key} {instruction : Instruction}

theorem active_of_payClaim {r : ClaimRoster} {owner : Key}
    {claim : ClaimTerms → Claiming Entitlement} (sound : run.accounts.Sound env.program)
    (ran : payClaim env r owner claim run = .ok u after)
    (settles : ∀ terms books claimed after, claim terms books = .ok claimed after →
      Claiming.Settles books after)
    (admits : ∀ terms books claimed after, claim terms books = .ok claimed after →
      books.Admits terms) :
    ∃ (key : Key) (board : StatusBoard), run.Holds env.program key board ∧
      board.isSuspended .system = false := by
  obtain ⟨_, terms, _, books, _, _, _, shown, _, _, _, _, _, _, answered, _⟩ :=
    payClaim_writes sound ran settles
  obtain ⟨_, _, active, _⟩ := admits _ _ _ _ answered
  exact ⟨_, _, shown, StatusBoard.requireActive_eq_ok.mp active _ (by decide)⟩

/-- An instruction that asks about the system has met a board by which it is not suspended. -/
theorem active_of_perform (asks : instruction.asksSystem = true)
    (sound : run.accounts.Sound env.program)
    (performed : perform env keys instruction run = .ok u after) :
    ∃ (key : Key) (board : StatusBoard), run.Holds env.program key board ∧
      board.isSuspended .system = false := by
  cases instruction
  case closePeriod =>
    obtain ⟨_, _, ran⟩ := withRoster_eq_ok.mp performed
    obtain ⟨_, _, _, _, _, _, _, _, ⟨shown, active⟩, _⟩ := closePeriod_writes sound ran
    exact ⟨_, _, shown, StatusBoard.requireActive_eq_ok.mp active _ (by decide)⟩
  case closeSecondary =>
    obtain ⟨_, _, ran⟩ := withRoster_eq_ok.mp performed
    obtain ⟨_, _, _, _, _, _, _, ⟨shown, active⟩, _⟩ := closeSecondary_writes sound ran
    exact ⟨_, _, shown, StatusBoard.requireActive_eq_ok.mp active _ (by decide)⟩
  case claimFees =>
    obtain ⟨_, _, _, _, _, _, ran⟩ := claimFees_eq_ok.mp performed
    exact active_of_payClaim sound ran (fun _ _ _ _ => Claiming.settles_of_claim)
      fun _ _ _ _ => Claiming.admits_of_claim
  case claimOnBehalf =>
    obtain ⟨_, _, _, _, _, _, _, _, _, ran⟩ := claimOnBehalf_eq_ok.mp performed
    exact active_of_payClaim sound ran (fun _ _ _ _ => Claiming.settles_of_claimOnBehalf)
      fun _ _ _ _ => Claiming.admits_of_claimOnBehalf
  case depositCollateral =>
    obtain ⟨_, _, ran⟩ := withRoster_eq_ok.mp performed
    obtain ⟨_, _, _, _, ⟨_, _, _, shown, active⟩, _⟩ := depositCollateral_writes sound ran
    exact ⟨_, _, shown, StatusBoard.requireActive_eq_ok.mp active _ (by decide)⟩
  case withdrawCollateral =>
    obtain ⟨_, _, ran⟩ := withRoster_eq_ok.mp performed
    obtain ⟨_, _, _, _, _, _, _, _, _, ⟨_, _, _, shown, active⟩, _⟩ :=
      withdrawCollateral_writes sound ran
    exact ⟨_, _, shown, StatusBoard.requireActive_eq_ok.mp active _ (by decide)⟩
  case flagAccount =>
    obtain ⟨_, _, ran⟩ := withRoster_eq_ok.mp performed
    obtain ⟨_, _, _, _, _, _, _, _, _, _, _, ⟨_, _, shown, active⟩, _⟩ :=
      flagAccount_writes sound ran
    exact ⟨_, _, shown, StatusBoard.requireActive_eq_ok.mp active _ (by decide)⟩
  case liquidateAccount =>
    obtain ⟨_, _, ran⟩ := withRoster_eq_ok.mp performed
    obtain ⟨_, _, _, _, _, _, _, _, _, _, _, _, ⟨_, _, shown, active⟩, _⟩ :=
      liquidateAccount_writes sound ran
    exact ⟨_, _, shown, StatusBoard.requireActive_eq_ok.mp active _ (by decide)⟩
  case liquidateSelf =>
    obtain ⟨_, _, ran⟩ := withRoster_eq_ok.mp performed
    obtain ⟨_, _, _, _, _, _, _, _, _, _, _, _, ⟨_, _, shown, active⟩, _⟩ :=
      liquidateSelf_writes sound ran
    exact ⟨_, _, shown, StatusBoard.requireActive_eq_ok.mp active _ (by decide)⟩
  case takeReward =>
    obtain ⟨_, _, ran⟩ := withRoster_eq_ok.mp performed
    obtain ⟨_, _, _, _, _, _, _, ⟨_, _, shown, active⟩, _⟩ := takeReward_writes sound ran
    exact ⟨_, _, shown, StatusBoard.requireActive_eq_ok.mp active _ (by decide)⟩
  all_goals exact nomatch asks

/-! ## What the other instructions do -/

/-- A set-up finds no board. -/
theorem unheld_of_setUp {r : SetUpRoster} {settings : Settings}
    (sound : run.accounts.Sound env.program) (ran : setUp env r settings run = .ok u after) :
    ∃ key, Place.statusBoard.key? env.program = some key ∧
      run.accounts.held env.program key = (none : Option StatusBoard) := by
  obtain ⟨_, _, bump, _, _, _, _, _, ⟨none, _⟩, writes⟩ := setUp_writes sound ran
  have opened : after.Holds env.program r.statusBoard (StatusBoard.new bump) :=
    writes.holds_one rfl
  exact ⟨r.statusBoard, (begins_of_held writes.sound opened).place, none⟩

theorem keepsValue_createStaker {r : NewStakerRoster} (sound : run.accounts.Sound env.program)
    (ran : createStaker env r run = .ok u after) :
    ∃ puts calls, run.Writes env.program after puts calls ∧
      run.accounts.KeepsValue env.program after.accounts calls := by
  obtain ⟨_, _, _, empty, _, writes⟩ := createStaker_writes sound ran
  refine ⟨_, _, writes, writes.keepsValue_of_staker (rfl : valuesOf Staker _ = [(r.staker, _)]) rfl
    transferFree_creation ?_ fun _ => ⟨rfl, rfl⟩⟩
  intro old found
  exact nomatch (held_of_isEmpty empty).symm.trans found

/-- The issuer changes shares, and neither collateral nor the last claim. -/
theorem keepsValue_recordShares {r : SharesRoster} {shares : UInt64}
    (sound : run.accounts.Sound env.program)
    (ran : recordShares env r shares run = .ok u after) :
    ∃ puts calls, run.Writes env.program after puts calls ∧
      run.accounts.KeepsValue env.program after.accounts calls := by
  obtain ⟨_, _, _, _, _, _, _, _, found, answered, writes⟩ := recordShares_writes sound ran
  obtain ⟨_, _, _, staker⟩ := ShareBooks.setShares_staker answered
  refine ⟨_, _, writes, writes.keepsValue_of_staker rfl rfl transferFree_nil ?_ fun none => ?_⟩
  · intro old held
    obtain rfl := Option.some.inj (found.symm.trans held)
    rw [staker]
    exact ⟨rfl, rfl⟩
  · exact nomatch none.symm.trans found

/-- An instruction that does not ask about the system moves no value. -/
theorem still_of_perform (silent : instruction.asksSystem = false)
    {board : StatusBoard} (shown : run.accounts.At env.program .statusBoard board)
    (sound : run.accounts.Sound env.program)
    (performed : perform env keys instruction run = .ok u after) :
    ∃ puts calls, run.Writes env.program after puts calls ∧
      run.accounts.KeepsValue env.program after.accounts calls := by
  cases instruction
  case setUp =>
    obtain ⟨_, _, ran⟩ := withRoster_eq_ok.mp performed
    obtain ⟨key, lies, none⟩ := unheld_of_setUp sound ran
    obtain ⟨_, same, held⟩ := shown
    obtain rfl := Option.some.inj (lies.symm.trans same)
    exact nomatch none.symm.trans held
  case updateSettings =>
    obtain ⟨_, _, ran⟩ := withRoster_eq_ok.mp performed
    obtain ⟨_, _, _, _, _, writes⟩ := updateSettings_writes sound ran
    exact ⟨_, _, writes, writes.keepsValue rfl rfl transferFree_nil⟩
  case updateRoles =>
    obtain ⟨_, _, ran⟩ := withRoster_eq_ok.mp performed
    obtain ⟨_, _, _, _, writes⟩ := updateRoles_writes sound ran
    exact ⟨_, _, writes, writes.keepsValue rfl rfl transferFree_nil⟩
  case setSuspension =>
    obtain ⟨_, _, ran⟩ := withRoster_eq_ok.mp performed
    obtain ⟨_, _, _, _, _, _, writes⟩ := setSuspension_writes sound ran
    exact ⟨_, _, writes, writes.keepsValue rfl rfl transferFree_nil⟩
  case createFeed =>
    obtain ⟨_, _, ran⟩ := withRoster_eq_ok.mp performed
    obtain ⟨_, _, _, _, writes⟩ := createFeed_writes sound ran
    exact ⟨_, _, writes, writes.keepsValue rfl rfl transferFree_creation⟩
  case submitRate =>
    obtain ⟨_, _, ran⟩ := withRoster_eq_ok.mp performed
    obtain ⟨_, _, _, _, _, _, writes⟩ := submitRate_writes sound ran
    exact ⟨_, _, writes, writes.keepsValue rfl rfl transferFree_nil⟩
  case createStaker =>
    obtain ⟨_, _, ran⟩ := withRoster_eq_ok.mp performed
    exact keepsValue_createStaker sound ran
  case recordShares =>
    obtain ⟨_, _, ran⟩ := withRoster_eq_ok.mp performed
    exact keepsValue_recordShares sound ran
  case recordFee =>
    obtain ⟨_, _, ran⟩ := withRoster_eq_ok.mp performed
    obtain ⟨_, _, _, _, _, _, writes⟩ := recordIncome_writes sound ran fun _ _ =>
      PeriodLedger.follows_recordFee
    exact ⟨_, _, writes, writes.keepsValue rfl rfl transferFree_nil⟩
  case recordReward =>
    obtain ⟨_, _, ran⟩ := withRoster_eq_ok.mp performed
    obtain ⟨_, _, _, _, _, _, writes⟩ := recordIncome_writes sound ran fun _ _ =>
      PeriodLedger.follows_recordReward
    exact ⟨_, _, writes, writes.keepsValue rfl rfl transferFree_nil⟩
  case importPeriod =>
    obtain ⟨_, _, ran⟩ := withRoster_eq_ok.mp performed
    obtain ⟨_, _, _, _, _, _, writes⟩ := importPeriod_writes sound ran
    exact ⟨_, _, writes, writes.keepsValue rfl rfl transferFree_nil⟩
  case setApproval =>
    obtain ⟨_, _, ran⟩ := withRoster_eq_ok.mp performed
    obtain ⟨_, calls, _, _, created, writes⟩ := setApproval_writes sound ran
    refine ⟨_, _, writes, writes.keepsValue rfl rfl ?_⟩
    rcases created with ⟨_, _, rfl, _⟩ | ⟨_, _, rfl, _⟩
    · exact transferFree_creation
    · exact transferFree_nil
  case removeFlag =>
    obtain ⟨_, _, ran⟩ := withRoster_eq_ok.mp performed
    obtain ⟨_, _, _, _, _, _, _, _, removed, _, _, _, _, _, _, _, _, _, writes⟩ :=
      removeFlag_writes sound ran
    refine ⟨_, _, writes, writes.keepsValue ?_ ?_ transferFree_nil⟩
    all_goals cases removed <;> rfl
  all_goals exact nomatch silent

end Program

/-! ## What a call does -/

namespace Called

variable {called : Called} {instruction : Instruction} {board : StatusBoard}

/-- A call that is done while the system is suspended moves no value. -/
theorem keepsValue_of_suspended (sound : called.before.Sound called.call.program)
    (shown : called.before.At called.call.program .statusBoard board)
    (suspended : board.isSuspended .system = true) (did : called.done? = some instruction) :
    called.before.KeepsValue called.call.program called.report.accounts called.report.calls := by
  obtain ⟨begun, after, performed, start, silent, accounts, calls⟩ := performed_of_done did
  rw [← start] at sound shown
  have met : begun.accounts.At called.env.program .statusBoard board := shown
  cases asks : instruction.asksSystem with
  | true =>
    obtain ⟨_, _, found, active⟩ := Program.active_of_perform asks sound performed
    obtain rfl := sound.eq_of_place shown found rfl
    exact nomatch active.symm.trans suspended
  | false =>
    obtain ⟨_, made, writes, keeps⟩ := Program.still_of_perform asks met sound performed
    rw [writes.calls, silent, List.nil_append] at calls
    rw [accounts, calls, ← start]
    exact keeps

/-- A suspension of the system shows on the board. -/
theorem suspended_of_setSuspension {reason : UInt16}
    (sound : called.before.Sound called.call.program)
    (did : called.done? = some (.setSuspension 0 true reason)) :
    ∃ board : StatusBoard,
      called.report.accounts.At called.call.program .statusBoard board ∧
        board.isSuspended .system = true := by
  obtain ⟨r, begun, after, _, ran, _, sound, _, accounts, _⟩ :=
    ran_of_done (fun env r => Program.setSuspension env r 0 true reason) (fun _ _ => rfl) sound did
  obtain ⟨_, board, part, _, _, named, writes⟩ := Program.setSuspension_writes sound ran
  obtain rfl : Section.system = part := Except.ok.inj named
  have held : after.Holds called.env.program r.statusBoard
      (board.setSuspension .system true reason called.env.now) :=
    (congrFun (writes.held StatusBoard) r.statusBoard).trans (Function.update_self ..)
  rw [accounts]
  exact ⟨_, writes.sound.at_place held rfl, board.isSuspended_setSuspension ..⟩

end Called

/-- **A suspended system moves no value.** Whoever calls the program, with whatever instruction and
accounts: while the board shows the system suspended, a call that is done transfers no token. No
staker has other collateral or another last claim after it, and the reward pool is what it was. -/
theorem Accounts.Evolves.suspension_stops_value {program : Key} {start : Accounts}
    {history : List Called} {called : Called} {instruction : Instruction} {board : StatusBoard}
    (fresh : start.Uninitialised program)
    (evolves : start.Evolves program history called.before)
    (own : called.call.program = program)
    (shown : called.before.At program .statusBoard board)
    (suspended : board.isSuspended .system = true) (did : called.done? = some instruction) :
    called.before.KeepsValue program called.report.accounts called.report.calls := by
  subst own
  exact Called.keepsValue_of_suspended (evolves.sound fresh.sound) shown suspended did

/-! ## A first suspension -/

namespace FirstSuspension

open FirstDeposit (program key start config statusBoard periodLedger shareRegistry rewardPool staker
  setUp create deposit)

/-- The system is suspended after the first deposit. -/
def suspend : Called where
  call := .make program (.setSuspension 0 true 7) (⟨key 7, config, statusBoard⟩ : SuspensionRoster)
  before := deposit.report.accounts
  now := 3

/-- The issuer still reports shares of the staker who has put in 500. -/
def issue : Called where
  call := .make program (.recordShares 100)
    (⟨key 7, config, periodLedger, shareRegistry, rewardPool, staker⟩ : SharesRoster)
  before := suspend.report.accounts
  now := 4

theorem evolves :
    start.Evolves program [setUp, create, deposit, suspend] suspend.report.accounts :=
  FirstDeposit.evolves.call suspend.call 3 rfl

/-- The accounts of a call are compared by its parts. To compare them with a report as they are
would run the program. -/
private theorem before_mk (call : ClientCall) (before : Accounts) (now : Int64) :
    (⟨call, before, now⟩ : Called).before = before := rfl

theorem before_issue : issue.before = suspend.report.accounts :=
  before_mk issue.call suspend.report.accounts issue.now

theorem all_done : suspend.done? = some (.setSuspension 0 true 7) ∧
    issue.done? = some (.recordShares 100) := by
  have listed : [setUp, create, deposit, suspend, issue].map Called.done? =
      [some (.setUp default), some .createStaker, some (.depositCollateral 500),
        some (.setSuspension 0 true 7), some (.recordShares 100)] := by
    show (Called.inTurn Called.report start [(setUp.call, 0), (create.call, 1), (deposit.call, 2),
      (suspend.call, 3), (issue.call, 4)]).map _ = _
    -- In turn, the list says once what a report is. That is unfolded up to the places of addresses,
    -- and these are worked out on numbers.
    delta Called.done? Called.report ClientCall.run Program.process Program.perform Program.setUp
      Program.createSingle Program.createStaker
    rewrite [Exec.checkPlace_eq_fun, Place.address?_eq]
    decide +kernel
  simp only [List.map_cons, List.map_nil, List.cons.injEq, and_true] at listed
  exact listed.2.2.2

theorem suspension_stops_value_firstSuspension :
    ∃ board : StatusBoard, (start.Uninitialised program ∧ issue.call.program = program ∧
        issue.before.At program .statusBoard board ∧ board.isSuspended .system = true ∧
        issue.done? = some (.recordShares 100)) ∧
      issue.before.KeepsValue program issue.report.accounts issue.report.calls := by
  obtain ⟨suspended, issued⟩ := all_done
  obtain ⟨_, sound⟩ := evolves.sound_of_mem FirstDeposit.uninitialised
    (by simp : suspend ∈ [setUp, create, deposit, suspend])
  obtain ⟨board, shown, stopped⟩ := Called.suspended_of_setSuspension sound suspended
  rw [← before_issue] at shown
  have past := evolves
  rw [← before_issue] at past
  exact ⟨board, ⟨FirstDeposit.uninitialised, rfl, shown, stopped, issued⟩,
    Accounts.Evolves.suspension_stops_value FirstDeposit.uninitialised past rfl shown stopped
      issued⟩

end FirstSuspension

end FeeTreasury
