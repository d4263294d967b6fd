import FeeTreasury.Word

/-!
# Decimal fixed point

Amounts, prices and ratios carry six decimals, accumulators carry eighteen. A product or quotient is
the exact one, rounded down or up once, and refused if it does not fit its width.
-/

namespace FeeTreasury

/-- One, with six decimals. -/
def unit : UInt64 := 1000000

/-- One, with the eighteen decimals of the accumulators. -/
def preciseUnit : Nat := 1000000000000000000

/-- `a * b / denominator`, rounded down. -/
def mulDiv (a b denominator : UInt64) : Outcome UInt64 :=
  if denominator = 0 then refuse .divisionByZero
  else fit64 (a.toNat * b.toNat / denominator.toNat)

/-- `a * b / denominator`, rounded up: one less than the product and the denominator together, then
rounded down. -/
def mulDivUp (a b denominator : UInt64) : Outcome UInt64 :=
  if denominator = 0 then refuse .divisionByZero
  else do
    let raised ← plain128 (a.toNat * b.toNat + denominator.toNat)
    fit64 ((raised.toNat - 1) / denominator.toNat)

/-- The product of two decimals, rounded down. -/
def decimalMul (a b : UInt64) : Outcome UInt64 := mulDiv a b unit

/-- The quotient of two decimals, rounded down. -/
def decimalDiv (a b : UInt64) : Outcome UInt64 := mulDiv a unit b

/-- The quotient of two decimals, rounded up. -/
def decimalDivUp (a b : UInt64) : Outcome UInt64 := mulDivUp a unit b

/-- What each of `shares` gets of `amount`, with eighteen decimals, rounded down. -/
def perShare (amount : UInt128) (shares : UInt64) : Outcome UInt128 :=
  if shares = 0 then refuse .divisionByZero
  else do
    let scaled ← fit128 (amount.toNat * preciseUnit)
    return BitVec.ofNat 128 (scaled.toNat / shares.toNat)

/-- What `shares` get if each gets `delta`, a number with eighteen decimals, rounded down. -/
def fromPerShare (shares : UInt64) (delta : UInt128) : Outcome UInt128 := do
  let scaled ← fit128 (shares.toNat * delta.toNat)
  return BitVec.ofNat 128 (scaled.toNat / preciseUnit)

end FeeTreasury
