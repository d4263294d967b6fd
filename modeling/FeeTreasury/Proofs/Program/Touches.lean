import FeeTreasury.Proofs.Program.Administration
import FeeTreasury.Proofs.Program.Collateral

/-!
# The types of accounts that an instruction writes

Every instruction writes records of some kinds only (`FeeTreasury.Program.writes_of_perform`), so
that it leaves alone what the accounts hold of every other type
(`FeeTreasury.Program.held_of_perform`).
-/

namespace FeeTreasury

/-- The kinds of some records. -/
def kindsOf (puts : List (Key × Record)) : List Kind := puts.map fun put => put.2.kind

/-- Records of other kinds hold no values of a type. -/
theorem valuesOf_eq_nil {α : Type} [Stored α] [Recorded α] {puts : List (Key × Record)}
    (others : Recorded.kind α ∉ kindsOf puts) : valuesOf α puts = [] := by
  refine List.filterMap_eq_nil_iff.mpr fun put member => ?_
  cases read : (Recorded.value? put.2 : Option α) with
  | none => rfl
  | some value =>
    refine absurd (List.mem_map.mpr ⟨put, member, ?_⟩) others
    rw [(Recorded.value?_eq_some _ _).mp read, Recorded.kind_record]

/-- The kinds of records that an instruction may write. -/
def Instruction.touches : Instruction → List Kind
  | setUp _ =>
    [.config, .statusBoard, .periodLedger, .shareRegistry, .rewardPool, .liquidationBook]
  | updateSettings _ | updateRoles _ => [.config]
  | setSuspension .. => [.statusBoard]
  | createFeed _ | submitRate _ => [.rateFeed]
  | createStaker => [.staker, .shareRegistry]
  | recordShares _ => [.periodLedger, .shareRegistry, .staker]
  | recordFee _ | recordReward _ | closePeriod | closeSecondary .. | importPeriod .. =>
    [.periodLedger]
  | setApproval .. => [.approval]
  | claimFees | claimOnBehalf => [.periodLedger, .staker]
  | depositCollateral _ | withdrawCollateral _ => [.staker]
  | flagAccount | removeFlag => [.liquidationEntry, .liquidationBook]
  | liquidateAccount | liquidateSelf =>
    [.periodLedger, .shareRegistry, .rewardPool, .liquidationBook, .liquidationEntry, .staker]
  | takeReward => [.rewardPool, .staker]

namespace Program

open Exec

variable {env : Env} {run after : Run} {u : Unit} {keys : List Key} {instruction : Instruction}

/-- An instruction that comes to its end has written records, all of them of its kinds. -/
theorem writes_of_perform (sound : run.accounts.Sound env.program)
    (performed : perform env keys instruction run = .ok u after) :
    ∃ puts calls, run.Writes env.program after puts calls ∧
      kindsOf puts ⊆ instruction.touches := by
  cases instruction <;> simp only [perform, withRoster_eq_ok] at performed
  case setUp =>
    obtain ⟨_, _, ran⟩ := performed
    obtain ⟨_, _, _, _, _, _, _, _, _, writes⟩ := setUp_writes sound ran
    exact ⟨_, _, writes, List.Subset.refl _⟩
  case updateSettings =>
    obtain ⟨_, _, ran⟩ := performed
    obtain ⟨_, _, _, _, _, writes⟩ := updateSettings_writes sound ran
    exact ⟨_, _, writes, List.Subset.refl _⟩
  case updateRoles =>
    obtain ⟨_, _, ran⟩ := performed
    obtain ⟨_, _, _, _, writes⟩ := updateRoles_writes sound ran
    exact ⟨_, _, writes, List.Subset.refl _⟩
  case setSuspension =>
    obtain ⟨_, _, ran⟩ := performed
    obtain ⟨_, _, _, _, _, _, writes⟩ := setSuspension_writes sound ran
    exact ⟨_, _, writes, List.Subset.refl _⟩
  case createFeed =>
    obtain ⟨_, _, ran⟩ := performed
    obtain ⟨_, _, _, _, writes⟩ := createFeed_writes sound ran
    exact ⟨_, _, writes, List.Subset.refl _⟩
  case submitRate =>
    obtain ⟨_, _, ran⟩ := performed
    obtain ⟨_, _, _, _, _, _, writes⟩ := submitRate_writes sound ran
    exact ⟨_, _, writes, List.Subset.refl _⟩
  case createStaker =>
    obtain ⟨_, _, ran⟩ := performed
    obtain ⟨_, _, _, _, _, writes⟩ := createStaker_writes sound ran
    exact ⟨_, _, writes, List.Subset.refl _⟩
  case recordShares =>
    obtain ⟨_, _, ran⟩ := performed
    obtain ⟨_, _, _, _, _, _, _, _, _, _, writes⟩ := recordShares_writes sound ran
    exact ⟨_, _, writes, List.Subset.refl _⟩
  case recordFee =>
    obtain ⟨_, _, ran⟩ := performed
    obtain ⟨_, _, _, _, _, _, writes⟩ := recordIncome_writes sound ran fun _ _ =>
      PeriodLedger.follows_recordFee
    exact ⟨_, _, writes, List.Subset.refl _⟩
  case recordReward =>
    obtain ⟨_, _, ran⟩ := performed
    obtain ⟨_, _, _, _, _, _, writes⟩ := recordIncome_writes sound ran fun _ _ =>
      PeriodLedger.follows_recordReward
    exact ⟨_, _, writes, List.Subset.refl _⟩
  case closePeriod =>
    obtain ⟨_, _, ran⟩ := performed
    obtain ⟨_, _, _, _, _, _, _, _, _, _, _, _, writes⟩ := closePeriod_writes sound ran
    exact ⟨_, _, writes, List.Subset.refl _⟩
  case closeSecondary =>
    obtain ⟨_, _, ran⟩ := performed
    obtain ⟨_, _, _, _, _, _, _, _, _, _, _, writes⟩ := closeSecondary_writes sound ran
    exact ⟨_, _, writes, List.Subset.refl _⟩
  case importPeriod =>
    obtain ⟨_, _, ran⟩ := performed
    obtain ⟨_, _, _, _, _, _, writes⟩ := importPeriod_writes sound ran
    exact ⟨_, _, writes, List.Subset.refl _⟩
  case setApproval =>
    obtain ⟨_, _, ran⟩ := performed
    obtain ⟨_, _, _, _, _, writes⟩ := setApproval_writes sound ran
    exact ⟨_, _, writes, List.Subset.refl _⟩
  case claimFees =>
    obtain ⟨_, _, _, _, _, _, ran⟩ := claimFees_eq_ok.mp performed
    obtain ⟨_, _, _, _, _, _, _, _, _, _, _, _, _, _, _, writes⟩ :=
      payClaim_writes sound ran fun _ _ _ _ => Claiming.settles_of_claim
    exact ⟨_, _, writes, List.Subset.refl _⟩
  case claimOnBehalf =>
    obtain ⟨_, _, _, _, _, _, _, _, _, ran⟩ := claimOnBehalf_eq_ok.mp performed
    obtain ⟨_, _, _, _, _, _, _, _, _, _, _, _, _, _, _, writes⟩ :=
      payClaim_writes sound ran fun _ _ _ _ => Claiming.settles_of_claimOnBehalf
    exact ⟨_, _, writes, List.Subset.refl _⟩
  case depositCollateral =>
    obtain ⟨_, _, ran⟩ := performed
    obtain ⟨_, _, _, _, _, _, _, _, writes⟩ := depositCollateral_writes sound ran
    exact ⟨_, _, writes, List.Subset.refl _⟩
  case withdrawCollateral =>
    obtain ⟨_, _, ran⟩ := performed
    obtain ⟨_, _, _, _, _, _, _, _, _, _, _, _, _, _, _, _, _, _, writes⟩ :=
      withdrawCollateral_writes sound ran
    exact ⟨_, _, writes, List.Subset.refl _⟩
  case flagAccount =>
    obtain ⟨_, _, ran⟩ := performed
    obtain ⟨_, _, _, _, _, _, _, _, _, _, _, _, _, _, _, _, _, _, _, _, _, writes⟩ :=
      flagAccount_writes sound ran
    exact ⟨_, _, writes, List.Subset.refl _⟩
  case removeFlag =>
    obtain ⟨_, _, ran⟩ := performed
    obtain ⟨_, _, _, _, _, _, _, _, removed, _, _, _, _, _, _, _, _, _, writes⟩ :=
      removeFlag_writes sound ran
    cases removed
    · exact ⟨_, _, writes, List.nil_subset _⟩
    · exact ⟨_, _, writes, List.Subset.refl _⟩
  case liquidateAccount =>
    obtain ⟨_, _, ran⟩ := performed
    obtain ⟨_, _, _, _, _, _, _, _, _, _, _, _, _, _, _, _, _, _, writes⟩ :=
      liquidateAccount_writes sound ran
    exact ⟨_, _, writes, List.Subset.refl _⟩
  case liquidateSelf =>
    obtain ⟨_, _, ran⟩ := performed
    obtain ⟨_, _, _, left, _, fed, records, _, _, _, _, _, _, _, _, _, _, writes⟩ :=
      liquidateSelf_writes sound ran
    refine ⟨_, _, writes, ?_⟩
    cases records.entry.active
    · refine List.cons_subset_cons _ (List.cons_subset_cons _ (List.cons_subset_cons _ ?_))
      exact List.subset_cons_of_subset _ (List.subset_cons_self ..)
    · exact List.Subset.refl _
  case takeReward =>
    obtain ⟨_, _, ran⟩ := performed
    obtain ⟨_, _, _, _, _, _, _, _, _, _, _, _, _, ⟨_, writes⟩ | ⟨_, writes⟩⟩ :=
      takeReward_writes sound ran
    · exact ⟨_, _, writes, List.nil_subset _⟩
    · exact ⟨_, _, writes, List.Subset.refl _⟩

/-- What the accounts hold of a type is the same after an instruction that writes none of it. -/
theorem held_of_perform {α : Type} [Stored α] [Recorded α]
    (others : Recorded.kind α ∉ instruction.touches) (sound : run.accounts.Sound env.program)
    (performed : perform env keys instruction run = .ok u after) :
    after.accounts.held env.program = (run.accounts.held env.program : Key → Option α) := by
  obtain ⟨_, _, writes, kinds⟩ := writes_of_perform sound performed
  exact writes.held_eq (valuesOf_eq_nil fun member => others (kinds member))

end Program

end FeeTreasury
