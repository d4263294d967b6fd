import FeeTreasury.Key

/-!
# Reading UTF-8 that may be broken

Bytes are read as characters. Where they are not well formed, the longest piece that could have
begun a character, or else one byte, is read as the replacement character.
-/

namespace FeeTreasury.Utf8

/-- Stands for bytes that are not well formed. -/
def replacement : Char := '\uFFFD'

/-- A range of bytes, both ends included. -/
structure ByteRange where
  low : UInt8
  high : UInt8

namespace ByteRange

/-- Bytes that continue a character. -/
def continuation : ByteRange := ⟨0x80, 0xBF⟩

/-- Whether a byte lies in the range. -/
def contains (range : ByteRange) (byte : UInt8) : Bool := range.low ≤ byte ∧ byte ≤ range.high

end ByteRange

/-- The bits of a character that its first byte gives, and the ranges of the bytes that follow it.
Bytes that begin no character give nothing. The narrow ranges leave out forms that are longer than
needed, surrogates, and numbers above the last character. -/
def lead? (byte : UInt8) : Option (Nat × List ByteRange) :=
  let n := byte.toNat
  if n < 0x80 then some (n, [])
  else if n < 0xC2 then none
  else if n < 0xE0 then some (n % 32, [.continuation])
  else if n = 0xE0 then some (n % 16, [⟨0xA0, 0xBF⟩, .continuation])
  else if n = 0xED then some (n % 16, [⟨0x80, 0x9F⟩, .continuation])
  else if n < 0xF0 then some (n % 16, [.continuation, .continuation])
  else if n = 0xF0 then some (n % 8, [⟨0x90, 0xBF⟩, .continuation, .continuation])
  else if n < 0xF4 then some (n % 8, [.continuation, .continuation, .continuation])
  else if n = 0xF4 then some (n % 8, [⟨0x80, 0x8F⟩, .continuation, .continuation])
  else none

/-- The number of a character once the bytes that should follow are read, or nothing if one of them
is missing or out of range; and the rest of the bytes. -/
def follow (bits : Nat) : List ByteRange → Bytes → Option Nat × Bytes
  | [], rest => (some bits, rest)
  | _ :: _, [] => (none, [])
  | range :: ranges, byte :: rest =>
    if range.contains byte then follow (bits * 64 + byte.toNat % 64) ranges rest
    else (none, byte :: rest)

theorem length_follow_le (bits : Nat) (ranges : List ByteRange) (input : Bytes) :
    (follow bits ranges input).2.length ≤ input.length := by
  induction ranges generalizing bits input with
  | nil => exact Nat.le_refl _
  | cons range ranges ih =>
    cases input with
    | nil => exact Nat.le_refl _
    | cons byte rest =>
      unfold follow
      split
      · exact Nat.le_trans (ih _ _) (by simp)
      · exact Nat.le_refl _

/-- The characters of some bytes. -/
def decode : Bytes → List Char
  | [] => []
  | byte :: rest =>
    match lead? byte with
    | none => replacement :: decode rest
    | some (bits, ranges) =>
      have : (follow bits ranges rest).2.length ≤ rest.length := length_follow_le bits ranges rest
      ((follow bits ranges rest).1.elim replacement Char.ofNat) ::
        decode (follow bits ranges rest).2
termination_by bytes => bytes.length

end FeeTreasury.Utf8

namespace FeeTreasury.AssetKey

/-- The name of an asset: its bytes as text, without the zeros at the end. -/
def name (key : AssetKey) : String :=
  String.ofList ((Utf8.decode key.toList).reverse.dropWhile (· = '\x00')).reverse

end FeeTreasury.AssetKey
