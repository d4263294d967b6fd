import FeeTreasury.Proofs.Crypto.Sha256
import FeeTreasury.Proofs.Program.Chain

/-!
# What became of the collateral

All collateral that was ever deposited was withdrawn, or was paid as a reward for a liquidation or
out of the reward pool, or it is still accounted for, as collateral of a staker or in the reward
pool (`FeeTreasury.Accounts.Evolves.custody_balances`). That is what the vault has to hold.
-/

namespace FeeTreasury

/-! ## The ways out of the vault -/

namespace Instruction

def withdrawn : Instruction → Nat
  | withdrawCollateral amount => amount.toNat
  | _ => 0

/-- Rewards for flagging and for liquidating, as a liquidation transfers them. -/
def liquidationRewards : Instruction → List OutsideCall → Nat
  | liquidateAccount, calls => transferred calls
  | _, _ => 0

/-- What is transferred to those who take what the reward pool owes them. -/
def poolPayments : Instruction → List OutsideCall → Nat
  | takeReward, calls => transferred calls
  | _, _ => 0

theorem released_eq (instruction : Instruction) (calls : List OutsideCall) :
    instruction.released calls =
      instruction.withdrawn + instruction.liquidationRewards calls +
        instruction.poolPayments calls := by
  cases instruction
  case liquidateAccount => exact (Nat.zero_add (transferred calls)).symm
  case takeReward => exact (Nat.zero_add (transferred calls)).symm
  all_goals rfl

end Instruction

/-- An amount of what was done, over a history of calls. -/
def movedIn (history : List Called) (amount : Instruction → List OutsideCall → Nat) : Nat :=
  (history.map (Called.moved amount)).sum

section MovedIn

variable {history : List Called} {first second : Instruction → List OutsideCall → Nat}

theorem movedIn_concat (called : Called) :
    movedIn (history ++ [called]) first = movedIn history first + called.moved first := by
  simp only [movedIn, List.map_append, List.map_cons, List.map_nil, List.sum_append,
    List.sum_singleton]

theorem moved_add (called : Called) :
    (called.moved fun instruction calls => first instruction calls + second instruction calls) =
      called.moved first + called.moved second := by
  unfold Called.moved
  cases called.done? <;> rfl

theorem movedIn_add :
    (movedIn history fun instruction calls => first instruction calls + second instruction calls) =
      movedIn history first + movedIn history second := by
  induction history using List.reverseRecOn with
  | nil => rfl
  | append_singleton rest called ih =>
    rw [movedIn_concat, movedIn_concat, movedIn_concat, ih, moved_add]
    omega

end MovedIn

namespace Accounts

variable {program : Key} {start accounts : Accounts} {history : List Called}

/-! ## The reward pool -/

/-- The reward pool of a program, if it was set up. -/
def rewardPool? (accounts : Accounts) (program : Key) : Option RewardPool :=
  (Place.rewardPool.key? program).bind (accounts.held program)

/-- There is one reward pool at most. -/
theorem total_rewardPool (sound : accounts.Sound program) (amount : RewardPool → Nat) :
    accounts.total program amount = (accounts.rewardPool? program).elim 0 amount := by
  have placed : ∀ key (pool : RewardPool), accounts.held program key = some pool →
      Place.rewardPool.key? program = some key := fun key pool found =>
    (begins_of_held sound found).place
  unfold rewardPool?
  cases place : Place.rewardPool.key? program with
  | none =>
    apply Finset.sum_eq_zero
    intro key _
    cases found : (accounts.held program key : Option RewardPool) with
    | none => rfl
    | some pool => exact nomatch place.symm.trans (placed key pool found)
  | some key =>
    rw [Option.bind_some, total_eq_sum (Finset.subset_insert key accounts.keys)]
    apply Finset.sum_eq_single_of_mem key (Finset.mem_insert_self key accounts.keys)
    intro other _ different
    cases found : (accounts.held program other : Option RewardPool) with
    | none => rfl
    | some pool =>
      exact absurd (Option.some.inj ((placed other pool found).symm.trans place)) different

/-! ## The balance -/

theorem custody_of_uninitialised (fresh : start.Uninitialised program) :
    start.custody program = 0 := by
  have unheld : ∀ (α : Type) [Stored α] [Recorded α] (amount : α → Nat),
      start.total program amount = 0 := by
    intro α _ _ amount
    apply Finset.sum_eq_zero
    intro key _
    rw [held_of_vacant (fresh key), Option.elim_none]
  rw [custody, unheld, unheld]

namespace Evolves

/-- What entered the custody of the program has left it, or is there. -/
theorem custody_add_released (fresh : start.Uninitialised program)
    (evolves : start.Evolves program history accounts) :
    accounts.custody program + movedIn history Instruction.released =
      movedIn history fun instruction _ => instruction.deposited := by
  -- By induction on the history. A call balances since the accounts that it met are sound.
  induction evolves with
  | start => rw [custody_of_uninitialised fresh]; rfl
  | @call _ accounts evolves call now own ih =>
    subst own
    have step := (Called.custody ⟨call, accounts, now⟩ (evolves.sound fresh.sound)).2
    dsimp only at step
    rw [movedIn_concat, movedIn_concat]
    omega
  | others _ spares ih => rw [custody_of_spares spares, ih]

/-- **Custody of collateral balances.** Whoever has called the program, with whatever instructions,
signers and accounts and at whatever times: what was deposited, less what was withdrawn, the rewards
for liquidations and the payments of the reward pool, is the collateral of all stakers and the
balance of the reward pool. -/
theorem custody_balances (fresh : start.Uninitialised program)
    (evolves : start.Evolves program history accounts) :
    (movedIn history fun instruction _ => instruction.deposited : Int) -
        movedIn history (fun instruction _ => instruction.withdrawn) -
        movedIn history Instruction.liquidationRewards - movedIn history Instruction.poolPayments =
      accounts.total program (fun staker : Staker => staker.collateral.toNat) +
        (accounts.rewardPool? program).elim 0 fun pool => pool.balance.toNat := by
  have balanced := evolves.custody_add_released fresh
  have ways : movedIn history Instruction.released =
      movedIn history (fun instruction _ => instruction.withdrawn) +
        movedIn history Instruction.liquidationRewards +
        movedIn history Instruction.poolPayments := by
    rw [← movedIn_add, ← movedIn_add]
    exact congrArg (movedIn history) (funext₂ Instruction.released_eq)
  rw [custody, total_rewardPool (evolves.sound fresh.sound), ways] at balanced
  omega

end Evolves

end Accounts

/-! ## A first deposit -/

namespace FirstDeposit

def program : Key :=
  ⟨#v[1, 106, 0, 0, 0, 0, 0, 0, 0, 0, 0, 0, 0, 0, 0, 0,
    0, 0, 0, 0, 0, 0, 0, 0, 0, 0, 0, 0, 0, 0, 0, 0]⟩

def key (byte : UInt8) : Key := ⟨Vector.replicate 32 byte⟩

def config : Key :=
  ⟨#v[181, 148, 40, 166, 249, 180, 234, 9, 246, 61, 26, 211, 29, 173, 177, 110,
    146, 8, 79, 185, 59, 193, 80, 65, 6, 182, 75, 173, 226, 178, 7, 84]⟩

def statusBoard : Key :=
  ⟨#v[13, 177, 71, 203, 169, 234, 96, 184, 126, 236, 6, 83, 44, 159, 18, 102,
    228, 212, 69, 177, 252, 182, 247, 236, 246, 28, 82, 219, 92, 109, 92, 3]⟩

def periodLedger : Key :=
  ⟨#v[236, 212, 174, 176, 215, 136, 122, 129, 204, 142, 128, 240, 49, 35, 200, 39,
    231, 112, 19, 20, 227, 57, 28, 136, 144, 190, 18, 124, 166, 146, 189, 28]⟩

def shareRegistry : Key :=
  ⟨#v[123, 53, 118, 16, 132, 28, 94, 230, 136, 167, 251, 214, 53, 122, 183, 181,
    82, 182, 148, 92, 34, 212, 17, 49, 21, 93, 161, 248, 45, 33, 244, 242]⟩

def rewardPool : Key :=
  ⟨#v[254, 223, 31, 23, 30, 185, 126, 184, 192, 10, 252, 183, 9, 37, 18, 31,
    145, 114, 60, 137, 203, 211, 170, 139, 218, 64, 107, 63, 4, 243, 191, 237]⟩

def liquidationBook : Key :=
  ⟨#v[169, 163, 20, 19, 126, 224, 15, 71, 177, 29, 144, 79, 234, 126, 250, 123,
    146, 79, 51, 177, 13, 36, 125, 179, 152, 34, 118, 132, 95, 184, 174, 10]⟩

def vaultAuthority : Key :=
  ⟨#v[72, 244, 230, 196, 157, 61, 99, 226, 174, 81, 51, 20, 22, 217, 90, 133,
    193, 79, 24, 152, 100, 251, 54, 171, 93, 141, 91, 12, 218, 80, 206, 157]⟩

/-- The account of the staker whose key is nines. -/
def staker : Key :=
  ⟨#v[81, 137, 200, 47, 246, 206, 139, 70, 134, 68, 86, 15, 33, 182, 59, 64,
    171, 183, 239, 186, 97, 215, 68, 149, 10, 49, 122, 31, 117, 202, 136, 148]⟩

def tokens (owner : Key) (amount : UInt64) : Account :=
  ⟨tokenProgram, TokenAccount.write ⟨key 50, owner, amount, false⟩⟩

/-- Three empty vaults, and 900 tokens of the staker's. -/
def start : Accounts :=
  ⟨[(key 101, tokens vaultAuthority 0), (key 102, tokens vaultAuthority 0),
    (key 103, tokens vaultAuthority 0), (key 104, tokens (key 9) 900)]⟩

def setUp : Called where
  call := .make program (.setUp default) (⟨key 7, config, statusBoard, periodLedger, shareRegistry,
    rewardPool, liquidationBook, vaultAuthority, key 101, key 102, key 103, systemProgram⟩ :
      SetUpRoster)
  before := start
  now := 0

def create : Called where
  call := .make program .createStaker
    (⟨key 9, key 9, staker, shareRegistry, systemProgram⟩ : NewStakerRoster)
  before := setUp.report.accounts
  now := 1

def deposit : Called where
  call := .make program (.depositCollateral 500)
    (⟨key 9, config, statusBoard, staker, key 104, key 103, tokenProgram⟩ : DepositRoster)
  before := create.report.accounts
  now := 2

theorem evolves : start.Evolves program [setUp, create, deposit] deposit.report.accounts :=
  ((Accounts.Evolves.start.call setUp.call 0 rfl).call create.call 1 rfl).call deposit.call 2 rfl

theorem uninitialised : start.Uninitialised program :=
  Accounts.uninitialised_of_forall (by decide) (by decide)

theorem all_done :
    setUp.done? = some (.setUp default) ∧ create.done? = some .createStaker ∧
      deposit.done? = some (.depositCollateral 500) := by
  have listed : [setUp, create, deposit].map Called.done? =
      [some (.setUp default), some .createStaker, some (.depositCollateral 500)] := by
    show (Called.inTurn Called.report start
      [(setUp.call, 0), (create.call, 1), (deposit.call, 2)]).map _ = _
    -- In turn, the list says once what a report is. That is unfolded up to the places of addresses,
    -- and these are worked out on numbers.
    delta Called.done? Called.report ClientCall.run Program.process Program.perform Program.setUp
      Program.createSingle Program.createStaker
    rewrite [Exec.checkPlace_eq_fun, Place.address?_eq]
    decide +kernel
  simpa only [List.map_cons, List.map_nil, List.cons.injEq, and_true] using listed

theorem custody_balances_firstDeposit :
    (movedIn [setUp, create, deposit] fun instruction _ => instruction.deposited) = 500 ∧
      (500 : Int) =
        deposit.report.accounts.total program (fun staker : Staker => staker.collateral.toNat) +
          (deposit.report.accounts.rewardPool? program).elim 0 fun pool => pool.balance.toNat := by
  obtain ⟨first, second, third⟩ := all_done
  have moves : ∀ amount, movedIn [setUp, create, deposit] amount =
      amount (.setUp default) setUp.report.calls + (amount .createStaker create.report.calls +
        amount (.depositCollateral 500) deposit.report.calls) := by
    intro amount
    rw [movedIn, List.map_cons, List.map_cons, List.map_cons, List.map_nil,
      Called.moved_of_done first, Called.moved_of_done second, Called.moved_of_done third]
    rfl
  have balanced := Accounts.Evolves.custody_balances uninitialised evolves
  rw [moves, moves, moves, moves] at balanced
  refine ⟨?_, ?_⟩
  · rw [moves]
    rfl
  · exact balanced

end FirstDeposit

end FeeTreasury
