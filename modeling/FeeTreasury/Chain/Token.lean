import FeeTreasury.Chain.Accounts
import FeeTreasury.Chain.Failure

/-!
# Token accounts

What the treasury needs of the token program: to read a token account, and to transfer between
ordinary accounts (`FeeTreasury.Accounts.transfer` says which cases are left out). The data of a
token account has 165 bytes; a transfer changes only the eight that hold the amount.
-/

namespace FeeTreasury

/-- What a token account holds. -/
structure TokenAccount where
  mint : Key
  owner : Key
  amount : UInt64
  /-- Whether transfers are blocked. -/
  frozen : Bool
  deriving DecidableEq, Repr, Inhabited

namespace TokenAccount

/-- Length of the data of a token account. -/
def size : Nat := 165

/-- Mint, owner and amount, at the front of the data. -/
def front : Codec (Key × Key × UInt64) :=
  Key.codec.pair (Key.codec.pair Codec.u64)

/-- Whether four bytes mark an optional field as absent or present. -/
def isMark (bytes : Bytes) : Bool := bytes = [0, 0, 0, 0] ∨ bytes = [1, 0, 0, 0]

/-- The four bytes at an offset. -/
def markAt (data : Bytes) (offset : Nat) : Bytes := (data.drop offset).take 4

/-- Read the data of a token account. The marks of its three optional fields, at 72, 109 and 129,
have to be marks; the state at 108 is 0 before the account is set up, 1 after it, and 2 while
frozen. -/
def read (data : Bytes) : Except Failure TokenAccount :=
  if data.length ≠ size then .error .invalidAccountData
  else if !([72, 109, 129].all fun offset => isMark (markAt data offset)) then
    .error .invalidAccountData
  else
    match front.decode? data with
    | none => .error .invalidAccountData
    | some (mint, owner, amount) =>
      match data.getD 108 0 with
      | 0 => .error .uninitializedAccount
      | 1 => .ok ⟨mint, owner, amount, false⟩
      | 2 => .ok ⟨mint, owner, amount, true⟩
      | _ => .error .invalidAccountData

/-- The data of a token account whose optional fields are absent. -/
def write (account : TokenAccount) : Bytes :=
  front.encode (account.mint, account.owner, account.amount) ++ List.replicate 36 0 ++
    (if account.frozen then 2 else 1) :: List.replicate 56 0

/-- The data with another amount. -/
def withAmount (data : Bytes) (amount : UInt64) : Bytes :=
  data.take 64 ++ Codec.u64.encode amount ++ data.drop 72

end TokenAccount

namespace Accounts

/-- Move tokens from one account to another on the authority of the owner of the first one. A
transfer from an account to itself moves nothing.

This is the token program's transfer between ordinary accounts. Left out are:
* delegates and multisignature owners: the authority has to be the owner's own key, and whoever asks
  for the transfer has to see to its signature;
* wrapped native tokens, whose lamports move along with the amount: here they are tokens like any
  others;
* the runtime's refusal to write to accounts that the token program does not own: here an account is
  a token account if its data reads as one. Only where nothing moves does the token program ask for
  the owners of the accounts itself.

No theorem depends on these cases. What is proved of transfers in general is that they write to
their two accounts only, that these are not the treasury's, and that they find no fault with the
list of accounts. -/
def transfer (accounts : Accounts) (source destination authority : Key) (amount : UInt64) :
    Except Failure Accounts := do
  let sender := accounts.get source
  let receiver := accounts.get destination
  let sent ← TokenAccount.read sender.data
  let received ← TokenAccount.read receiver.data
  if sent.frozen ∨ received.frozen then
    throw (.token .frozen)
  if sent.amount < amount then
    throw (.token .insufficientFunds)
  if sent.mint ≠ received.mint then
    throw (.token .mintMismatch)
  if sent.owner ≠ authority then
    throw (.token .ownerMismatch)
  if (source = destination ∨ amount = 0) ∧
      (sender.owner ≠ tokenProgram ∨ receiver.owner ≠ tokenProgram) then
    throw .incorrectProgramId
  if source = destination then
    return accounts
  if UInt64.size ≤ received.amount.toNat + amount.toNat then
    throw (.token .overflow)
  let debited := { sender with data := TokenAccount.withAmount sender.data (sent.amount - amount) }
  let credited :=
    { receiver with data := TokenAccount.withAmount receiver.data (received.amount + amount) }
  return (accounts.set source debited).set destination credited

end Accounts

end FeeTreasury
