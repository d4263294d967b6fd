import FeeTreasury.Outcome

/-!
# Words and the three ways to calculate with them

Amounts and ids are unsigned words of 64 bits, times are signed words of 64 bits, accumulators are
unsigned words of 128 bits. Each rule says how a sum or difference treats a value that does not fit:

* a *checked* operation refuses with `arithmeticOverflow`;
* a *plain* operation aborts, because the rule claims that it always fits;
* a *saturating* operation stops at the nearest end of the range.

Every operation is stated as the exact integer and then one test against the width.
-/

namespace FeeTreasury

/-- Unsigned words of 128 bits. -/
abbrev UInt128 := BitVec 128

/-- How many words of 128 bits there are. -/
def UInt128.size : Nat := 340282366920938463463374607431768211456

/-- The word with a given value, refused if there is none of 64 bits. -/
def fit64 (n : Nat) : Outcome UInt64 :=
  if n < UInt64.size then .ok (UInt64.ofNat n) else refuse .arithmeticOverflow

/-- The word with a given value, refused if there is none of 128 bits. -/
def fit128 (n : Nat) : Outcome UInt128 :=
  if n < UInt128.size then .ok (BitVec.ofNat 128 n) else refuse .arithmeticOverflow

/-- The time with a given value, refused if there is none. -/
def fitTime (n : Int) : Outcome Int64 :=
  if Int64.minValue.toInt ≤ n ∧ n ≤ Int64.maxValue.toInt then .ok (Int64.ofInt n)
  else refuse .arithmeticOverflow

/-- Checked sum. -/
def checkedAdd (a b : UInt64) : Outcome UInt64 := fit64 (a.toNat + b.toNat)

/-- Checked difference. -/
def checkedSub (a b : UInt64) : Outcome UInt64 :=
  if b.toNat ≤ a.toNat then .ok (a - b) else refuse .arithmeticOverflow

/-- Plain sum. -/
def plainAdd (a b : UInt64) : Outcome UInt64 :=
  if a.toNat + b.toNat < UInt64.size then .ok (a + b) else abort

/-- Plain difference. -/
def plainSub (a b : UInt64) : Outcome UInt64 :=
  if b.toNat ≤ a.toNat then .ok (a - b) else abort

/-- A plain value of 128 bits. -/
def plain128 (n : Nat) : Outcome UInt128 :=
  if n < UInt128.size then .ok (BitVec.ofNat 128 n) else abort

/-- Plain difference of two times. -/
def plainElapsed (later earlier : Int64) : Outcome Int64 :=
  let n := later.toInt - earlier.toInt
  if Int64.minValue.toInt ≤ n ∧ n ≤ Int64.maxValue.toInt then .ok (Int64.ofInt n) else abort

/-- Saturating difference: zero if the second word is the larger one. -/
def saturatingSub (a b : UInt64) : UInt64 := UInt64.ofNat (a.toNat - b.toNat)

/-- Saturating difference of words of 128 bits. -/
def saturatingSub128 (a b : UInt128) : UInt128 := BitVec.ofNat 128 (a.toNat - b.toNat)

/-- The next word, or the largest one if there is none. -/
def saturatingSucc (a : UInt64) : UInt64 :=
  if a.toNat + 1 < UInt64.size then a + 1 else a

/-- The previous word, or zero. -/
def saturatingPred (a : UInt64) : UInt64 := saturatingSub a 1

/-- The time nearest to a value. -/
def saturateTime (n : Int) : Int64 :=
  if n < Int64.minValue.toInt then Int64.minValue
  else if Int64.maxValue.toInt < n then Int64.maxValue
  else Int64.ofInt n

end FeeTreasury
