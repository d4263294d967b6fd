import FeeTreasury.Key

/-!
# Accounts of the chain

Every key has an account: a program that owns it, and data. The accounts that were never touched
belong to the system program and are empty; only the others are listed.
-/

namespace FeeTreasury

/-- An account of the chain. -/
structure Account where
  owner : Key
  data : Bytes
  deriving DecidableEq, Repr

namespace Account

/-- An account that was never touched. -/
def untouched : Account := ⟨systemProgram, []⟩

instance : Inhabited Account := ⟨untouched⟩

/-- Write bytes over the front of the data, if there is room for them. -/
def overwrite? (account : Account) (bytes : Bytes) : Option Account :=
  if bytes.length ≤ account.data.length then
    some { account with data := bytes ++ account.data.drop bytes.length }
  else none

end Account

/-- The accounts that were touched, each key once. -/
structure Accounts where
  entries : List (Key × Account)
  deriving DecidableEq, Repr

namespace Accounts

/-- No account was touched. -/
def empty : Accounts := ⟨[]⟩

instance : Inhabited Accounts := ⟨empty⟩

/-- The account of a key, if it was touched. -/
def find? (accounts : Accounts) (key : Key) : Option Account :=
  (accounts.entries.find? fun entry => entry.1 = key).map Prod.snd

/-- The account of a key. -/
def get (accounts : Accounts) (key : Key) : Account := (accounts.find? key).getD .untouched

/-- The list with the account of a key replaced, or added at the end. -/
def insert (key : Key) (account : Account) : List (Key × Account) → List (Key × Account)
  | [] => [(key, account)]
  | entry :: rest =>
    if entry.1 = key then (key, account) :: rest else entry :: insert key account rest

/-- Replace the account of a key. -/
def set (accounts : Accounts) (key : Key) (account : Account) : Accounts :=
  ⟨insert key account accounts.entries⟩

theorem find?_set_self (accounts : Accounts) (key : Key) (account : Account) :
    (accounts.set key account).find? key = some account := by
  obtain ⟨entries⟩ := accounts
  induction entries with
  | nil => simp [set, insert, find?]
  | cons entry rest ih =>
    by_cases same : entry.1 = key
    · simp [set, insert, find?, same]
    · simpa [set, insert, find?, same] using ih

theorem find?_set_of_ne (accounts : Accounts) {key other : Key} (account : Account)
    (different : other ≠ key) :
    (accounts.set key account).find? other = accounts.find? other := by
  obtain ⟨entries⟩ := accounts
  induction entries with
  | nil => simp [set, insert, find?, different.symm]
  | cons entry rest ih =>
    by_cases same : entry.1 = key
    · simp [set, insert, find?, same, different.symm]
    · by_cases hit : entry.1 = other
      · simp [set, insert, find?, hit, different]
      · simpa [set, insert, find?, same, hit] using ih

@[simp] theorem get_set_self (accounts : Accounts) (key : Key) (account : Account) :
    (accounts.set key account).get key = account := by
  simp [get, find?_set_self]

theorem get_set_of_ne (accounts : Accounts) {key other : Key} (account : Account)
    (different : other ≠ key) : (accounts.set key account).get other = accounts.get other := by
  simp [get, find?_set_of_ne accounts account different]

end Accounts

end FeeTreasury
