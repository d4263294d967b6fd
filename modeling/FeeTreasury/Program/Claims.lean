import FeeTreasury.Claim
import FeeTreasury.Instruction.Roster
import FeeTreasury.Program.Run

/-!
# Approvals and claims

A claim is paid to token accounts of the owner of the staker account, whoever asks for it.
-/

namespace FeeTreasury.Program

open Exec

/-- The approval of a delegate: a new one, or the stored one with a new mark. -/
def approvalFor (env : Env) (r : ApprovalRoster) (delegate : Key) (canClaim : Bool)
    (bump : UInt8) : Exec Approval := do
  if (← account r.approval).data.isEmpty then
    create env r.authoriser r.approval (Stored.size Approval)
    return Approval.new r.authoriser delegate canClaim bump
  let approval : Approval ← load env r.approval
  return { approval with canClaim }

/-- Approve a delegate, or withdraw the approval. -/
def setApproval (env : Env) (r : ApprovalRoster) (delegate : Key) (canClaim : Bool) :
    Exec Unit := do
  requireSigner env r.authoriser
  let bump ← checkPlace env (.approval r.authoriser delegate) r.approval
  let approval ← approvalFor env r delegate canClaim bump
  store r.approval approval
  say s!"Delegate {delegate.text} can_claim={canClaim} for {r.authoriser.text}"

/-- Follow a claim to its end. -/
def settle (claim : Claiming Entitlement) (books : ClaimBooks) : Exec (Entitlement × ClaimBooks) :=
  match claim.run books with
  | .ok claimed books => pure (claimed, books)
  | .error fault _ => throw (Failure.ofFault fault)

/-- Claim for an owner. -/
def payClaim (env : Env) (r : ClaimRoster) (owner : Key)
    (claim : ClaimTerms → Claiming Entitlement) : Exec Unit := do
  let config : Config ← load env r.config
  let board : StatusBoard ← load env r.statusBoard
  let ledger : PeriodLedger ← load env r.periodLedger
  let registry : ShareRegistry ← load env r.shareRegistry
  let staker ← loadStakerOf env r.staker owner
  let oracle ← loadOracle env config.settings r.collateralFeed r.debtFeed
  requireVault r.tokens.feeVault config.feeVault
  requireVault r.tokens.rewardVault config.rewardVault
  requireTokenOwner r.tokens.feeDestination owner
  requireTokenOwner r.tokens.rewardDestination owner
  checkVaultAuthority env config r.vaultAuthority
  requireTokenProgram r.tokenProgram
  let terms : ClaimTerms := ⟨board, oracle, config.settings, registry.supply⟩
  let (claimed, books) ← settle (claim terms) ⟨ledger, staker⟩
  store r.periodLedger books.ledger
  store r.staker books.staker
  payFrom r.tokens.feeVault r.tokens.feeDestination r.vaultAuthority claimed.fees
  payFrom r.tokens.rewardVault r.tokens.rewardDestination r.vaultAuthority claimed.rewards
  emit (.feesClaimed owner claimed.fees claimed.rewards)

/-- The roster of a claim, from the accounts after those who ask for it. -/
def claimRoster (keys : List Key) : Exec ClaimRoster :=
  match Roster.ofKeys? keys with
  | some roster => pure roster
  | none => throw .notEnoughAccounts

/-- Claim. The claimant is asked for its signature before the other accounts are looked at. -/
def claimFees (env : Env) : List Key → Exec Unit
  | claimant :: keys => do
    requireSigner env claimant
    payClaim env (← claimRoster keys) claimant Claiming.claim
  | _ => throw .notEnoughAccounts

/-- Claim for somebody else, under an approval. -/
def claimOnBehalf (env : Env) : List Key → Exec Unit
  | delegate :: approval :: keys => do
    requireSigner env delegate
    let approval : Approval ← load env approval
    payClaim env (← claimRoster keys) approval.authoriser
      (Claiming.claimOnBehalf approval delegate)
  | _ => throw .notEnoughAccounts

end FeeTreasury.Program
