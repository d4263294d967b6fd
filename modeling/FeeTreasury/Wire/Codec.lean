import FeeTreasury.Key

/-!
# Codecs

A codec writes a value as bytes and reads it back from the front of some bytes, leaving the rest.
Every codec comes with two laws. What it writes, it reads back, whatever follows (`decode_encode`).
What it reads is exactly what it would write (`of_decode`), so that no value has two written forms.
The first law holds of the values that the format can hold, the *canonical* ones; what was read is
canonical.
-/

namespace FeeTreasury

/-- Why bytes cannot be read. -/
inductive DecodeError where
  /-- The bytes end before the value does. -/
  | unexpectedEnd
  /-- The value ends before the bytes do. -/
  | trailingBytes
  /-- A truth value is neither 0 nor 1. -/
  | invalidBool (byte : UInt8)
  /-- A mark of presence is neither 0 nor 1. -/
  | invalidOption (byte : UInt8)
  deriving DecidableEq, Repr

namespace DecodeError

/-- What the error says. -/
def message : DecodeError → String
  | unexpectedEnd => "Unexpected length of input"
  | trailingBytes => "Not all bytes read"
  | invalidBool byte => "Invalid bool representation: " ++ toString byte.toNat
  | invalidOption byte =>
    "Invalid Option representation: " ++ toString byte.toNat ++ ". The first byte must be 0 or 1"

end DecodeError

/-- A value read from the front of some bytes, and the rest of them. -/
abbrev Decoded (α : Type) := Except DecodeError (α × Bytes)

/-- A written form for the values of a type. -/
structure Codec (α : Type) where
  encode : α → Bytes
  decode : Bytes → Decoded α
  /-- The values that the format can hold. -/
  Canonical : α → Prop
  decode_encode : ∀ value rest, Canonical value → decode (encode value ++ rest) = .ok (value, rest)
  of_decode : ∀ input value rest, decode input = .ok (value, rest) →
    Canonical value ∧ input = encode value ++ rest

/-- How many numbers can be written in a number of bytes. -/
def wordSize : Nat → Nat
  | 0 => 1
  | width + 1 => 256 * wordSize width

/-- Written forms, least byte first, of numbers. -/
def littleEndian : Nat → Nat → Bytes
  | 0, _ => []
  | width + 1, n => UInt8.ofNat (n % 256) :: littleEndian width (n / 256)

/-- The number that some bytes stand for, least byte first. -/
def ofLittleEndian : Bytes → Nat
  | [] => 0
  | byte :: rest => byte.toNat + 256 * ofLittleEndian rest

@[simp] theorem length_littleEndian (width n : Nat) : (littleEndian width n).length = width := by
  induction width generalizing n with
  | zero => rfl
  | succ width ih => simp [littleEndian, ih]

theorem ofLittleEndian_lt (bytes : Bytes) : ofLittleEndian bytes < wordSize bytes.length := by
  induction bytes with
  | nil => simp [ofLittleEndian, wordSize]
  | cons byte rest ih =>
    have small := byte.toNat_lt
    simp only [ofLittleEndian, List.length_cons, wordSize]
    omega

theorem ofLittleEndian_littleEndian (width n : Nat) (fits : n < wordSize width) :
    ofLittleEndian (littleEndian width n) = n := by
  induction width generalizing n with
  | zero => simp [wordSize] at fits; simp [littleEndian, ofLittleEndian, fits]
  | succ width ih =>
    have rest : n / 256 < wordSize width := by
      rw [wordSize] at fits
      omega
    simp only [littleEndian, ofLittleEndian, ih _ rest, UInt8.toNat_ofNat']
    omega

theorem littleEndian_ofLittleEndian (bytes : Bytes) :
    littleEndian bytes.length (ofLittleEndian bytes) = bytes := by
  induction bytes with
  | nil => rfl
  | cons byte rest ih =>
    have small := byte.toNat_lt
    have low : (byte.toNat + 256 * ofLittleEndian rest) % 256 = byte.toNat := by omega
    have high : (byte.toNat + 256 * ofLittleEndian rest) / 256 = ofLittleEndian rest := by omega
    simp only [List.length_cons, ofLittleEndian, littleEndian, low, high, ih, UInt8.ofNat_toNat]

namespace Codec

variable {α β : Type}

/-- A number of bytes as they are. -/
def raw (width : Nat) : Codec (Vector UInt8 width) where
  encode bytes := bytes.toList
  decode input :=
    if enough : width ≤ input.length then
      .ok (⟨(input.take width).toArray, by simp [enough]⟩, input.drop width)
    else .error .unexpectedEnd
  Canonical _ := True
  decode_encode := by
    intro bytes rest _
    have size : bytes.toList.length = width := by simp
    have enough : width ≤ (bytes.toList ++ rest).length := by simp
    rw [dif_pos enough]
    congr 2
    · apply Vector.toList_inj.mp
      simp
    · rw [List.drop_append_of_le_length (by omega), List.drop_of_length_le (by omega)]
      rfl
  of_decode := by
    intro input bytes rest read
    split at read
    · cases read
      exact ⟨trivial, by simp⟩
    · cases read

/-- Values written as numbers of a width, least byte first. -/
def word (width : Nat) (toNat : α → Nat) (ofNat : Nat → α)
    (bound : ∀ value, toNat value < wordSize width)
    (ofNat_toNat : ∀ value, ofNat (toNat value) = value)
    (toNat_ofNat : ∀ n, n < wordSize width → toNat (ofNat n) = n) : Codec α where
  encode value := littleEndian width (toNat value)
  decode input :=
    if width ≤ input.length then
      .ok (ofNat (ofLittleEndian (input.take width)), input.drop width)
    else .error .unexpectedEnd
  Canonical _ := True
  decode_encode := by
    intro value rest _
    have size := length_littleEndian width (toNat value)
    rw [if_pos (by simp [size]), List.take_append_of_le_length (by omega),
      List.take_of_length_le (by omega), List.drop_append_of_le_length (by omega),
      List.drop_of_length_le (by omega), ofLittleEndian_littleEndian _ _ (bound value),
      ofNat_toNat]
    rfl
  of_decode := by
    intro input value rest read
    split at read
    · rename_i enough
      cases read
      have size : (input.take width).length = width := by simp [enough]
      have small := ofLittleEndian_lt (input.take width)
      rw [size] at small
      have whole := littleEndian_ofLittleEndian (input.take width)
      rw [size] at whole
      exact ⟨trivial, by rw [toNat_ofNat _ small, whole, List.take_append_drop]⟩
    · cases read

/-- One byte. -/
def u8 : Codec UInt8 :=
  word 1 UInt8.toNat UInt8.ofNat (fun value => value.toNat_lt) (fun _ => UInt8.ofNat_toNat)
    (fun n small => by simp only [wordSize] at small; simp only [UInt8.toNat_ofNat']; omega)

/-- Two bytes. -/
def u16 : Codec UInt16 :=
  word 2 UInt16.toNat UInt16.ofNat (fun value => value.toNat_lt) (fun _ => UInt16.ofNat_toNat)
    (fun n small => by simp only [wordSize] at small; simp only [UInt16.toNat_ofNat']; omega)

/-- Four bytes. -/
def u32 : Codec UInt32 :=
  word 4 UInt32.toNat UInt32.ofNat (fun value => value.toNat_lt) (fun _ => UInt32.ofNat_toNat)
    (fun n small => by simp only [wordSize] at small; simp only [UInt32.toNat_ofNat']; omega)

/-- Eight bytes. -/
def u64 : Codec UInt64 :=
  word 8 UInt64.toNat UInt64.ofNat (fun value => value.toNat_lt) (fun _ => UInt64.ofNat_toNat)
    (fun n small => by simp only [wordSize] at small; simp only [UInt64.toNat_ofNat']; omega)

/-- Sixteen bytes. -/
def u128 : Codec (BitVec 128) :=
  word 16 BitVec.toNat (BitVec.ofNat 128) (fun value => value.isLt)
    (fun value => by simp)
    (fun n small => by simp only [wordSize] at small; simp only [BitVec.toNat_ofNat]; omega)

/-- Nothing. -/
def nothing : Codec Unit where
  encode _ := []
  decode input := .ok ((), input)
  Canonical _ := True
  decode_encode _ _ _ := rfl
  of_decode := by
    intro input value rest read
    cases read
    exact ⟨trivial, rfl⟩

/-- Two values, one after the other. -/
def pair (first : Codec α) (second : Codec β) : Codec (α × β) where
  encode value := first.encode value.1 ++ second.encode value.2
  decode input :=
    match first.decode input with
    | .error e => .error e
    | .ok (a, afterFirst) =>
      match second.decode afterFirst with
      | .error e => .error e
      | .ok (b, rest) => .ok ((a, b), rest)
  Canonical value := first.Canonical value.1 ∧ second.Canonical value.2
  decode_encode := by
    intro value rest canonical
    simp only [List.append_assoc, first.decode_encode _ _ canonical.1,
      second.decode_encode _ _ canonical.2]
  of_decode := by
    intro input value rest read
    split at read
    · cases read
    · rename_i a afterFirst readFirst
      split at read
      · cases read
      · rename_i b afterSecond readSecond
        cases read
        obtain ⟨canonicalFirst, splitFirst⟩ := first.of_decode _ _ _ readFirst
        obtain ⟨canonicalSecond, splitSecond⟩ := second.of_decode _ _ _ readSecond
        exact ⟨⟨canonicalFirst, canonicalSecond⟩, by
          rw [splitFirst, splitSecond, List.append_assoc]⟩

/-- The same bytes for the values of another type. -/
def map (codec : Codec α) (make : α → β) (parts : β → α) (parts_make : ∀ a, parts (make a) = a)
    (make_parts : ∀ b, make (parts b) = b) : Codec β where
  encode value := codec.encode (parts value)
  decode input :=
    match codec.decode input with
    | .error e => .error e
    | .ok (a, rest) => .ok (make a, rest)
  Canonical value := codec.Canonical (parts value)
  decode_encode := by
    intro value rest canonical
    simp only [codec.decode_encode _ _ canonical, make_parts]
  of_decode := by
    intro input value rest read
    split at read
    · cases read
    · rename_i a after readInner
      cases read
      obtain ⟨canonical, whole⟩ := codec.of_decode _ _ _ readInner
      rw [parts_make]
      exact ⟨canonical, whole⟩

/-- Signed words of eight bytes. -/
def i64 : Codec Int64 :=
  u64.map UInt64.toInt64 Int64.toUInt64 UInt64.toUInt64_toInt64 Int64.toInt64_toUInt64

/-- A truth value: a byte 0 or 1. -/
def bool : Codec Bool where
  encode value := [if value then 1 else 0]
  decode input :=
    match input with
    | [] => .error .unexpectedEnd
    | byte :: rest =>
      if byte = 0 then .ok (false, rest)
      else if byte = 1 then .ok (true, rest)
      else .error (.invalidBool byte)
  Canonical _ := True
  decode_encode := by
    intro value rest _
    cases value <;> rfl
  of_decode := by
    intro input value rest read
    split at read
    · cases read
    · split at read
      · rename_i zero
        cases read
        exact ⟨trivial, by simp [zero]⟩
      · split at read
        · rename_i one
          cases read
          exact ⟨trivial, by simp [one]⟩
        · cases read

/-- A value that may be absent: a byte 0, or a byte 1 and the value. -/
def option (codec : Codec α) : Codec (Option α) where
  encode
    | none => [0]
    | some value => 1 :: codec.encode value
  decode input :=
    match input with
    | [] => .error .unexpectedEnd
    | byte :: rest =>
      if byte = 0 then .ok (none, rest)
      else if byte = 1 then
        match codec.decode rest with
        | .error e => .error e
        | .ok (value, rest) => .ok (some value, rest)
      else .error (.invalidOption byte)
  Canonical
    | none => True
    | some value => codec.Canonical value
  decode_encode := by
    intro value rest canonical
    cases value with
    | none => rfl
    | some value => simp [codec.decode_encode value rest canonical]
  of_decode := by
    intro input value rest read
    split at read
    · cases read
    · split at read
      · rename_i zero
        cases read
        exact ⟨trivial, by simp [zero]⟩
      · split at read
        · rename_i one
          split at read
          · cases read
          · rename_i inner after readInner
            cases read
            obtain ⟨canonical, whole⟩ := codec.of_decode _ _ _ readInner
            exact ⟨canonical, by simp [one, whole]⟩
        · cases read

/-- Reads a number of values, one after the other. -/
def decodeMany (codec : Codec α) : Nat → Bytes → Decoded (List α)
  | 0, input => .ok ([], input)
  | count + 1, input =>
    match codec.decode input with
    | .error e => .error e
    | .ok (value, rest) =>
      match codec.decodeMany count rest with
      | .error e => .error e
      | .ok (values, rest) => .ok (value :: values, rest)

theorem decodeMany_flatMap_encode (codec : Codec α) (values : List α) (rest : Bytes)
    (canonical : ∀ value ∈ values, codec.Canonical value) :
    codec.decodeMany values.length (values.flatMap codec.encode ++ rest) =
      .ok (values, rest) := by
  induction values with
  | nil => rfl
  | cons value values ih =>
    have here := canonical value (by simp)
    have there := ih fun other member => canonical other (by simp [member])
    simp [decodeMany, codec.decode_encode _ _ here, there]

theorem of_decodeMany (codec : Codec α) (count : Nat) (input : Bytes) (values : List α)
    (rest : Bytes) (read : codec.decodeMany count input = .ok (values, rest)) :
    values.length = count ∧ (∀ value ∈ values, codec.Canonical value) ∧
      input = values.flatMap codec.encode ++ rest := by
  induction count generalizing input values with
  | zero =>
    cases read
    simp
  | succ count ih =>
    unfold decodeMany at read
    split at read
    · cases read
    · rename_i value after readFirst
      split at read
      · cases read
      · rename_i others afterAll readOthers
        cases read
        obtain ⟨canonical, whole⟩ := codec.of_decode _ _ _ readFirst
        obtain ⟨size, all, split⟩ := ih _ _ readOthers
        refine ⟨by simp [size], ?_, by simp [whole, split]⟩
        intro other member
        rcases List.mem_cons.mp member with rfl | later
        · exact canonical
        · exact all other later

/-- Any number of values, after four bytes that count them. Only lists that four bytes can count
have a written form. -/
def list (codec : Codec α) : Codec (List α) where
  encode values := u32.encode (UInt32.ofNat values.length) ++ values.flatMap codec.encode
  decode input :=
    match u32.decode input with
    | .error e => .error e
    | .ok (count, rest) => codec.decodeMany count.toNat rest
  Canonical values := values.length < UInt32.size ∧ ∀ value ∈ values, codec.Canonical value
  decode_encode := by
    intro values rest canonical
    simp only [List.append_assoc, u32.decode_encode _ _ trivial,
      UInt32.toNat_ofNat_of_lt' canonical.1]
    exact codec.decodeMany_flatMap_encode values rest canonical.2
  of_decode := by
    intro input values rest read
    split at read
    · cases read
    · rename_i count after readCount
      obtain ⟨_, whole⟩ := u32.of_decode _ _ _ readCount
      obtain ⟨size, all, split⟩ := codec.of_decodeMany _ _ _ _ read
      refine ⟨⟨by rw [size]; exact count.toNat_lt, all⟩, ?_⟩
      rw [size, UInt32.ofNat_toNat, whole, split, List.append_assoc]

/-- Four values, one after the other. -/
def quad (codec : Codec α) : Codec (Vector α 4) :=
  (codec.pair (codec.pair (codec.pair codec))).map
    (fun (a, b, c, d) => #v[a, b, c, d]) (fun v => (v[0], v[1], v[2], v[3]))
    (fun _ => rfl)
    (fun v => by
      apply Vector.ext
      intro i small
      match i, small with
      | 0, _ => rfl
      | 1, _ => rfl
      | 2, _ => rfl
      | 3, _ => rfl)

/-- Reads a value that takes all of the bytes. -/
def decodeAll (codec : Codec α) (input : Bytes) : Except DecodeError α :=
  match codec.decode input with
  | .error e => .error e
  | .ok (value, []) => .ok value
  | .ok (_, _ :: _) => .error .trailingBytes

/-- The value that bytes open with, if they open with one. -/
def decode? (codec : Codec α) (input : Bytes) : Option α :=
  match codec.decode input with
  | .error _ => none
  | .ok (value, _) => some value

theorem decodeAll_eq_ok_iff (codec : Codec α) (input : Bytes) (value : α) :
    codec.decodeAll input = .ok value ↔ codec.decode input = .ok (value, []) := by
  unfold decodeAll
  constructor
  · intro read
    split at read <;> simp_all
  · intro read
    simp [read]

end Codec

/-- A key is its 32 bytes. -/
def Key.codec : Codec Key := (Codec.raw 32).map Key.mk Key.bytes (fun _ => rfl) (fun _ => rfl)

/-- An asset key is its eight bytes. -/
def AssetKey.codec : Codec AssetKey :=
  (Codec.raw 8).map AssetKey.mk AssetKey.bytes (fun _ => rfl) (fun _ => rfl)

/-- A tag is its eight bytes. -/
def Tag.codec : Codec Tag := (Codec.raw 8).map Tag.mk Tag.bytes (fun _ => rfl) (fun _ => rfl)

end FeeTreasury
