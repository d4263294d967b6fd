import FeeTreasury.Key

/-!
# Base 58

The text form of keys and of logged bytes. The bytes are a number, greatest byte first, written with
58 letters and digits; each zero byte in front is written as one `1`.
-/

namespace FeeTreasury.Base58

/-- The digits: no zero, capital I, capital O or small l. -/
def alphabet : Array Char :=
  "123456789ABCDEFGHJKLMNPQRSTUVWXYZabcdefghijkmnopqrstuvwxyz".toList.toArray

/-- The digits of a number, greatest first, in front of others. -/
def digits (n : Nat) (tail : List Char) : List Char :=
  if n = 0 then tail else digits (n / 58) (alphabet.getD (n % 58) '1' :: tail)
termination_by n

/-- The text form of some bytes. -/
def encode (bytes : Bytes) : String :=
  let zeros := (bytes.takeWhile (· = 0)).length
  let number := bytes.foldl (fun n byte => n * 256 + byte.toNat) 0
  String.ofList (List.replicate zeros '1' ++ digits number [])

end FeeTreasury.Base58

namespace FeeTreasury.Key

/-- The text form of a key. -/
def text (key : Key) : String := Base58.encode key.toList

end FeeTreasury.Key
