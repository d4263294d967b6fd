import FeeTreasury.Proofs.Program.Flagging

/-!
# A delegate claims under a standing approval

An approval that the accounts hold at some time names a pair of keys that was named before, and its
mark is the one of the last call that was about the address of the approval
(`FeeTreasury.Accounts.Evolves.approved_of_held`). So a delegate claims for an owner only if the
owner has signed an approval of the delegate, and nothing about the two was called since; whatever
the claim transfers goes to token accounts of the owner
(`FeeTreasury.Accounts.Evolves.delegated_claim_approved`). The approval that a claim lists is chosen
by the delegate; its address is not looked at.
-/

namespace FeeTreasury

/-- What a payment transfers goes to its destination. -/
theorem Exec.destination_of_payment {vault source target destination authority signer : Key}
    {amount paid : UInt64}
    (pays : .transfer source target signer paid ∈ payment vault destination authority amount) :
    target = destination := by
  unfold payment at pays
  split at pays
  · exact absurd pays List.not_mem_nil
  · exact (OutsideCall.transfer.inj (List.mem_singleton.mp pays)).2.1

/-! ## Calls about approvals -/

namespace Called

/-- The authoriser and the delegate whom an approval names, or the withdrawal of one. -/
def pair? (called : Called) : Option (Key × Key) :=
  match called.done? with
  | some (.setApproval delegate _) =>
    (Roster.ofKeys? called.keys).map fun roster : ApprovalRoster => (roster.authoriser, delegate)
  | _ => none

/-- An approval of a delegate that its authoriser has signed, or the withdrawal of one if the mark
is false. -/
structure Approves (called : Called) (authoriser delegate : Key) (canClaim : Bool) : Prop where
  done : called.done? = some (.setApproval delegate canClaim)
  named : called.pair? = some (authoriser, delegate)
  signed : authoriser ∈ called.call.signers

/-- A claim by a delegate, who has signed it, for the owner of the staker account that it lists. -/
structure ClaimsFor (called : Called) (delegate owner : Key) : Prop where
  done : called.done? = some .claimOnBehalf
  named : called.keys.head? = some delegate
  signed : delegate ∈ called.call.signers
  owned : ∃ (roster : ClaimRoster) (staker : Staker),
    Roster.ofKeys? (called.keys.drop 2) = some roster ∧
      called.before.held called.call.program roster.staker = some staker ∧ staker.owner = owner

/-- A call names a pair whose approval lies at a key. -/
def Concerns (called : Called) (key : Key) : Prop :=
  ∃ pair, called.pair? = some pair ∧
    (Place.approval pair.1 pair.2).key? called.call.program = some key

/-- A call has left the approvals as they were, and names no pair. -/
structure Unmarked (called : Called) : Prop where
  names : called.pair? = none
  spares : called.report.accounts.held called.call.program =
    (called.before.held called.call.program : Key → Option Approval)

/-- A call has marked the approval at a key. The approval names the pair that it named before; one
that is new names the pair of the call. -/
structure Marks (called : Called) (key : Key) (approval : Approval) : Prop where
  approves : ∃ authoriser delegate, called.Approves authoriser delegate approval.canClaim ∧
    (Place.approval authoriser delegate).key? called.call.program = some key
  begins : called.before.held called.call.program key = (none : Option Approval) →
    called.pair? = some (approval.authoriser, approval.delegate)
  keeps : ∀ old : Approval, called.before.held called.call.program key = some old →
    approval.authoriser = old.authoriser ∧ approval.delegate = old.delegate
  leaves : called.report.accounts.held called.call.program =
    Function.update (called.before.held called.call.program) key (some approval)

variable {called : Called}

theorem pair?_of_setApproval {roster : ApprovalRoster} {delegate : Key} {canClaim : Bool}
    (did : called.done? = some (.setApproval delegate canClaim))
    (listed : Roster.ofKeys? called.keys = some roster) :
    called.pair? = some (roster.authoriser, delegate) := by
  simp only [pair?, did, listed, Option.map_some]

theorem setApproval_marks {delegate : Key} {canClaim : Bool}
    (sound : called.before.Sound called.call.program)
    (did : called.done? = some (.setApproval delegate canClaim)) :
    ∃ key approval, called.Marks key approval := by
  obtain ⟨r, begun, after, listed, ran, start, sound, _, accounts, _⟩ :=
    ran_of_done (fun env r => Program.setApproval env r delegate canClaim) (fun _ _ => rfl) sound
      did
  obtain ⟨approval, _, signed, placed, given, writes⟩ := Program.setApproval_writes sound ran
  have named := pair?_of_setApproval did listed
  have leaves : called.report.accounts.held called.call.program =
      Function.update (called.before.held called.call.program) r.approval (some approval) := by
    rw [accounts, ← start]
    exact writes.held Approval
  refine ⟨r.approval, approval, ⟨r.authoriser, delegate, ?_, placed⟩, ?_, ?_, leaves⟩
  · rcases given with ⟨_, _, _, rfl⟩ | ⟨_, _, _, rfl⟩ <;> exact ⟨did, named, signed⟩
  · intro unheld
    rw [← start] at unheld
    rcases given with ⟨_, _, _, rfl⟩ | ⟨old, found, _, _⟩
    · exact named
    · exact nomatch unheld.symm.trans found
  · intro old held
    rw [← start] at held
    rcases given with ⟨_, empty, _, _⟩ | ⟨other, found, _, rfl⟩
    · exact nomatch (Exec.held_of_isEmpty empty).symm.trans held
    · obtain rfl := Option.some.inj (found.symm.trans held)
      exact ⟨rfl, rfl⟩

/-- **What a call does to the approvals.** It marks the approval of the pair that it names, or it
names no pair and leaves them all as they were. -/
theorem approvals (called : Called) (sound : called.before.Sound called.call.program) :
    called.Unmarked ∨ ∃ key approval, called.Marks key approval := by
  rcases called.failed_or_done with
    ⟨failed, same⟩ | ⟨instruction, begun, after, did, performed, start, _, accounts, _⟩
  · left
    exact ⟨by simp only [pair?, failed], by rw [same]⟩
  · by_cases others : Recorded.kind Approval ∉ instruction.touches
    · left
      rw [← start] at sound
      refine ⟨?_, ?_⟩
      · cases instruction
        case setApproval => exact absurd (List.mem_singleton_self Kind.approval) others
        all_goals simp only [pair?, did]
      · rw [accounts, ← start]
        exact Program.held_of_perform others sound performed
    · right
      cases instruction
      case setApproval => exact setApproval_marks sound did
      all_goals
        refine absurd ?_ others
        show Kind.approval ∉ _
        simp [Instruction.touches]

/-- A claim by a delegate has met an approval of the delegate, and all that it transfers goes to
token accounts of who has given the approval. -/
theorem claimOnBehalf_eq (sound : called.before.Sound called.call.program)
    (did : called.done? = some .claimOnBehalf) :
    ∃ (key : Key) (approval : Approval),
      called.before.held called.call.program key = some approval ∧ approval.canClaim = true ∧
        called.ClaimsFor approval.delegate approval.authoriser ∧
        ∀ source destination authority amount,
          .transfer source destination authority amount ∈ called.report.calls →
            called.before.TokensOf destination approval.authoriser := by
  obtain ⟨begun, after, performed, start, silent, _, calls⟩ := performed_of_done did
  obtain ⟨delegate, key, rest, r, approval, listed, signed, found, given, ran⟩ :=
    Program.claimOnBehalf_eq_ok.mp performed
  have begunSound : begun.accounts.Sound called.env.program := start ▸ sound
  obtain ⟨_, terms, _, books, _, _, _, _, _, _, stakerFound, owned, _, ⟨feeTokens, rewardTokens⟩,
    answered, writes⟩ :=
    Program.payClaim_writes begunSound ran fun _ _ _ _ => Claiming.settles_of_claimOnBehalf
  have permitted := (Claiming.claimOnBehalf_eq_ok answered).1
  simp only [Approval.permits, Bool.decide_and, Bool.decide_eq_true, Bool.and_eq_true,
    decide_eq_true_eq] at permitted
  obtain ⟨stands, _, rfl⟩ := permitted
  rw [Run.Holds, start] at found stakerFound
  rw [start] at feeTokens rewardTokens
  refine ⟨key, approval, found, stands, ⟨did, ?_, signed, r, books.staker, ?_, stakerFound,
    owned⟩, ?_⟩
  · exact congrArg List.head? listed
  · rw [keys, listed]
    exact given
  · intro source destination authority amount paid
    rw [calls, writes.calls, silent, List.nil_append] at paid
    rcases List.mem_append.mp paid with fees | rewards
    · rw [Exec.destination_of_payment fees]
      exact feeTokens
    · rw [Exec.destination_of_payment rewards]
      exact rewardTokens

end Called

/-! ## Where an approval comes from -/

/-- How an approval came to be at a key: its pair was named, and its mark is the one of the last
call of the history that concerned the key. -/
structure Approved (program : Key) (history : List Called) (key : Key) (approval : Approval) :
    Prop where
  named : ∃ call ∈ history, call.pair? = some (approval.authoriser, approval.delegate)
  marked : ∃ before mark between, history = before ++ mark :: between ∧
    (∃ authoriser delegate, mark.Approves authoriser delegate approval.canClaim ∧
      (Place.approval authoriser delegate).key? program = some key) ∧
    ∀ call ∈ between, ¬ call.Concerns key

theorem Approved.concat {program key : Key} {history : List Called} {approval : Approval}
    {last : Called} (approved : Approved program history key approval)
    (apart : ¬ last.Concerns key) : Approved program (history ++ [last]) key approval := by
  obtain ⟨⟨call, member, named⟩, before, mark, between, rfl, marks, since⟩ := approved
  refine ⟨⟨call, List.mem_append_left _ member, named⟩, before, mark, between ++ [last], by simp,
    marks, ?_⟩
  intro other listed
  rcases List.mem_append.mp listed with earlier | latest
  · exact since other earlier
  · obtain rfl := List.mem_singleton.mp latest
    exact apart

/-- The pairs that the calls of a history name have approvals at addresses of their own: no two of
them make the hash of the addresses collide. -/
def ApprovalsApart (program : Key) (history : List Called) : Prop :=
  Set.InjOn (fun pair : Key × Key => (Place.approval pair.1 pair.2).key? program)
    (fun pair => ∃ called ∈ history, called.pair? = some pair)

namespace Accounts.Evolves

variable {program key : Key} {start accounts : Accounts} {history earlier later : List Called}
  {approval : Approval}

theorem approved_of_held (fresh : start.Uninitialised program)
    (evolves : start.Evolves program history accounts)
    (held : accounts.held program key = some approval) :
    Approved program history key approval := by
  -- By induction on the history. The last call has marked the approval, or it has met it.
  induction evolves generalizing approval with
  | start => exact nomatch (held_of_vacant (fresh key)).symm.trans held
  | @call history accounts evolves call now own ih =>
    subst own
    have sound := evolves.sound fresh.sound
    rcases Called.approvals ⟨call, accounts, now⟩ sound with unmarked | ⟨place, marked, marks⟩
    · apply (ih ((congrFun unmarked.spares key).symm.trans held)).concat
      rintro ⟨pair, named, _⟩
      exact nomatch unmarked.names.symm.trans named
    · have found := (congrFun marks.leaves key).symm.trans held
      obtain ⟨authoriser, delegate, approves, placed⟩ := marks.approves
      by_cases same : key = place
      · subst same
        rw [Function.update_self] at found
        obtain rfl := Option.some.inj found
        refine ⟨?_, history, _, [], rfl, ⟨authoriser, delegate, approves, placed⟩, by simp⟩
        cases met : (accounts.held call.program key : Option Approval) with
        | none => exact ⟨_, List.mem_append_right _ (.head _), marks.begins met⟩
        | some old =>
          obtain ⟨sameAuthoriser, sameDelegate⟩ := marks.keeps old met
          obtain ⟨earlier, member, named⟩ := (ih met).named
          rw [sameAuthoriser, sameDelegate]
          exact ⟨earlier, List.mem_append_left _ member, named⟩
      · rw [Function.update_of_ne same] at found
        apply (ih found).concat
        rintro ⟨pair, named, lies⟩
        obtain rfl := Option.some.inj (approves.named.symm.trans named)
        exact same (Option.some.inj (lies.symm.trans placed))
  | others _ spares ih => exact ih ((congrFun (held_of_spares spares) key).symm.trans held)

/-- **A delegate claims under a standing approval, for the authoriser.** Whoever has called the
program before: a delegate claims for the owner of a staker account only after the owner has signed
an approval of the delegate, which is the latest call about the two of them. All that the claim
transfers goes to token accounts of the owner. -/
theorem delegated_claim_approved {claim : Called} (fresh : start.Uninitialised program)
    (evolves : start.Evolves program (earlier ++ claim :: later) accounts)
    (apart : ApprovalsApart program earlier) (did : claim.done? = some .claimOnBehalf) :
    ∃ delegate owner before approval between,
      claim.ClaimsFor delegate owner ∧
        earlier = before ++ approval :: between ∧ approval.Approves owner delegate true ∧
        (∀ call ∈ between, ∀ canClaim, ¬ call.Approves owner delegate canClaim) ∧
        ∀ source destination authority amount,
          .transfer source destination authority amount ∈ claim.report.calls →
            claim.before.TokensOf destination owner := by
  obtain ⟨past, _⟩ := evolves.upTo rfl
  obtain ⟨own, sound⟩ := evolves.sound_of_mem fresh (List.mem_append_right _ (.head later))
  obtain ⟨key, stored, held, stands, claims, pays⟩ := Called.claimOnBehalf_eq sound did
  rw [own] at held sound
  have placed := (begins_of_held sound held).place
  obtain ⟨named, before, mark, between, rfl, ⟨owner, delegate, approves, lies⟩, since⟩ :=
    past.approved_of_held fresh held
  -- The latest mark was about this pair: no other pair has its approval at this address.
  have marked : mark ∈ before ++ mark :: between := List.mem_append_right _ (.head between)
  have same : (owner, delegate) = (stored.authoriser, stored.delegate) :=
    apart ⟨mark, marked, approves.named⟩ named (lies.trans placed.symm)
  obtain ⟨rfl, rfl⟩ := Prod.mk.inj same
  rw [stands] at approves
  refine ⟨_, _, before, mark, between, claims, rfl, approves, ?_, pays⟩
  intro call member canClaim again
  obtain ⟨callOwn, _⟩ := past.sound_of_mem fresh (List.mem_append_right _ (.tail mark member))
  exact since call member ⟨_, again.named, callOwn ▸ placed⟩

end Accounts.Evolves

/-! ## A first claim by a delegate -/

namespace FirstDelegation

open FirstDeposit (program key config statusBoard periodLedger shareRegistry vaultAuthority staker
  tokens)
open FirstLiquidation (collateralFeed debtFeed)

/-- The approval of the delegate whose key is eights by the staker whose key is nines. -/
def approval : Key :=
  ⟨#v[34, 141, 213, 7, 82, 163, 18, 207, 129, 89, 13, 253, 241, 157, 100, 252,
    248, 10, 190, 122, 224, 47, 52, 120, 55, 18, 178, 202, 250, 59, 109, 0]⟩

/-- Three vaults, with 60 tokens in the one for fees, and an empty token account of the staker's. -/
def start : Accounts :=
  ⟨[(key 101, tokens vaultAuthority 60), (key 102, tokens vaultAuthority 0),
    (key 103, tokens vaultAuthority 0), (key 104, tokens (key 9) 0)]⟩

def setUp : Called := { FirstDeposit.setUp with before := start }

def create : Called := { FirstDeposit.create with before := setUp.report.accounts }

def createPrice : Called :=
  { FirstLiquidation.createPrice with before := create.report.accounts }

def createTotal : Called :=
  { FirstLiquidation.createTotal with before := createPrice.report.accounts }

def price : Called := { FirstLiquidation.price with before := createTotal.report.accounts }

/-- There is no debt yet. -/
def total : Called where
  call := .make program (.submitRate 0) (⟨key 7, config, debtFeed⟩ : RateRoster)
  before := price.report.accounts
  now := 4

def issue : Called := { FirstLiquidation.issue with before := total.report.accounts }

def record : Called where
  call := .make program (.recordFee 60) (⟨key 7, config, periodLedger⟩ : LedgerRoster)
  before := issue.report.accounts
  now := 6

def close : Called where
  call := .make program (.closeSecondary 1 0)
    (⟨key 7, config, statusBoard, periodLedger, shareRegistry⟩ : CloseRoster)
  before := record.report.accounts
  now := 10

def approve : Called where
  call := .make program (.setApproval (key 8) true)
    (⟨key 9, approval, systemProgram⟩ : ApprovalRoster)
  before := close.report.accounts
  now := 11

/-- The delegate claims the 60 for the staker. -/
def claim : Called where
  call := (ClientCall.make program .claimOnBehalf (⟨config, statusBoard, periodLedger,
    shareRegistry, staker, collateralFeed, debtFeed, ⟨key 101, key 104, key 102, key 104⟩,
    vaultAuthority, tokenProgram⟩ : ClaimRoster)).listFirst [.signing (key 8), .reading approval]
  before := approve.report.accounts
  now := 12

/-- The calls before the claim. -/
def earlier : List Called :=
  [setUp, create, createPrice, createTotal, price, total, issue, record, close, approve]

theorem evolves : start.Evolves program (earlier ++ [claim]) claim.report.accounts := by
  have first : start.Evolves program [setUp, create] create.report.accounts :=
    (Accounts.Evolves.start.call setUp.call 0 rfl).call create.call 1 rfl
  have feeds := (first.call createPrice.call 3 rfl).call createTotal.call 3 rfl
  have rates := (feeds.call price.call 4 rfl).call total.call 4 rfl
  have closed := ((rates.call issue.call 5 rfl).call record.call 6 rfl).call close.call 10 rfl
  exact (closed.call approve.call 11 rfl).call claim.call 12 rfl

theorem uninitialised : start.Uninitialised program :=
  Accounts.uninitialised_of_forall (by decide) (by decide)

theorem all_done :
    ((earlier ++ [claim]).map fun called => (called.done?, called.pair?)) =
      [(some (.setUp default), none), (some .createStaker, none),
        (some (.createFeed .collateral), none), (some (.createFeed .totalDebt), none),
        (some (.submitRate unit), none), (some (.submitRate 0), none),
        (some (.recordShares 100), none), (some (.recordFee 60), none),
        (some (.closeSecondary 1 0), none),
        (some (.setApproval (key 8) true), some (key 9, key 8)), (some .claimOnBehalf, none)] := by
  show (Called.inTurn Called.report start [(setUp.call, 0), (create.call, 1), (createPrice.call, 3),
    (createTotal.call, 3), (price.call, 4), (total.call, 4), (issue.call, 5), (record.call, 6),
    (close.call, 10), (approve.call, 11), (claim.call, 12)]).map _ = _
  -- In turn, the list says once what a report is. That is unfolded up to the places of addresses,
  -- and these are worked out on numbers.
  delta Called.pair? Called.done? Called.report ClientCall.run Program.process Program.perform
    Program.setUp Program.createSingle Program.createStaker Program.createFeed Program.setApproval
    Program.claimOnBehalf Program.payClaim Exec.checkVaultAuthority
  rewrite [Exec.checkPlace_eq_fun, Place.address?_eq, Address.derive?_eq]
  decide +kernel

theorem approvalsApart : ApprovalsApart program earlier := by
  have only (pair : Key × Key) (named : ∃ called ∈ earlier, called.pair? = some pair) :
      pair = (key 9, key 8) := by
    obtain ⟨called, member, names⟩ := named
    have listed := List.mem_map_of_mem (f := fun called : Called => (called.done?, called.pair?))
      (List.mem_append_left [claim] member)
    rw [all_done, names] at listed
    obtain ⟨_, same⟩ : called.done? = some (.setApproval (key 8) true) ∧ pair = (key 9, key 8) := by
      simpa using listed
    exact same
  intro pair first other second _
  rw [only pair first, only other second]

theorem delegated_claim_approved_firstDelegation :
    (start.Uninitialised program ∧ ApprovalsApart program earlier ∧
        claim.done? = some .claimOnBehalf) ∧
      ∃ delegate owner before approval between,
        claim.ClaimsFor delegate owner ∧
          earlier = before ++ approval :: between ∧ approval.Approves owner delegate true ∧
          (∀ call ∈ between, ∀ canClaim, ¬ call.Approves owner delegate canClaim) ∧
          ∀ source destination authority amount,
            .transfer source destination authority amount ∈ claim.report.calls →
              claim.before.TokensOf destination owner := by
  have did : claim.done? = some .claimOnBehalf := by
    have last := congrArg List.getLast? all_done
    simp only [List.map_append, List.map_singleton, List.getLast?_concat, List.getLast?_cons_cons,
      List.getLast?_singleton, Option.some.injEq, Prod.mk.injEq] at last
    exact last.1
  exact ⟨⟨uninitialised, approvalsApart, did⟩,
    Accounts.Evolves.delegated_claim_approved uninitialised evolves approvalsApart did⟩

end FirstDelegation

end FeeTreasury
