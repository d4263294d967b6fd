import FeeTreasury.Key

/-!
# Points of the curve edwards25519

A key that is the compressed form of a point of the curve can have a private key; a program-derived
address must not. The compressed form holds the coordinate `y` in its low 255 bits, and the sign of
`x` in the last one. There is an `x` iff `(y² - 1) / (d y² + 1)` is a square of the field, and since
the denominator is never zero, iff the product of the two is.
-/

namespace FeeTreasury.Edwards

/-- Size of the field, `2 ^ 255 - 19`. -/
def modulus : Nat :=
  57896044618658097711785492504343953926634992332820282019728792003956564819949

/-- The constant of the curve, `-121665 / 121666`. -/
def curveConstant : Nat :=
  37095705934669439343138083508754565189542113879843219016388785533085940283555

/-- A power in the field, by squaring. -/
def power (base exponent : Nat) : Nat :=
  if exponent = 0 then 1
  else
    let half := power (base * base % modulus) (exponent / 2)
    if exponent % 2 = 1 then base * half % modulus else half
termination_by exponent

/-- Whether a field element is zero or the square of another, by its power to half the order of the
field's units. -/
def isSquare (x : Nat) : Bool := power x ((modulus - 1) / 2) ≤ 1

/-- How many numbers of 255 bits there are. -/
def coordinateSize : Nat :=
  57896044618658097711785492504343953926634992332820282019728792003956564819968

/-- The number in the low 255 bits of 32 bytes, least byte first. -/
def coordinate (bytes : Vector UInt8 32) : Nat :=
  bytes.toList.foldr (fun byte high => byte.toNat + 256 * high) 0 % coordinateSize

/-- Whether 32 bytes are the compressed form of a point. -/
def isPoint (bytes : Vector UInt8 32) : Bool :=
  let y := coordinate bytes % modulus
  let square := y * y % modulus
  let numerator := (square + modulus - 1) % modulus
  let denominator := (curveConstant * square + 1) % modulus
  isSquare (numerator * denominator % modulus)

end FeeTreasury.Edwards
