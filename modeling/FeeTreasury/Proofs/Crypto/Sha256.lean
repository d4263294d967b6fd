import FeeTreasury.Chain.Address

/-!
# SHA-256 on numbers

Words of 32 bits are numbers below `2 ^ 32`, and proofs count with numbers as they are. The hash on
numbers (`FeeTreasury.Sha256.hashNumbers`) is the hash
(`FeeTreasury.Sha256.hash_eq_hashNumbers`), so that the address of a given place can be worked out
in a proof (`FeeTreasury.Place.address?_eq`).
-/

namespace FeeTreasury

namespace Sha256

/-- How many words there are. -/
def wordCount : Nat := 4294967296

/-- Turn a number below `wordCount` to the right. -/
def rotateNumber (x amount : Nat) : Nat := (x >>> amount) ||| (x <<< (32 - amount)) % wordCount

theorem toNat_rotate (x : UInt32) {amount : UInt32} (least : 0 < amount.toNat)
    (most : amount.toNat < 32) : (rotate x amount).toNat = rotateNumber x.toNat amount.toNat := by
  have rest : (32 - amount).toNat = 32 - amount.toNat :=
    UInt32.toNat_sub_of_le _ _ (UInt32.le_iff_toNat_le.mpr (Nat.le_of_lt most))
  rw [rotate, UInt32.toNat_or, UInt32.toNat_shiftRight, UInt32.toNat_shiftLeft, rest,
    Nat.mod_eq_of_lt most, Nat.mod_eq_of_lt (Nat.sub_lt (by decide) least)]
  rfl

/-! ## States -/

/-- The state of the hash in numbers. -/
structure Numbers where
  a : Nat
  b : Nat
  c : Nat
  d : Nat
  e : Nat
  f : Nat
  g : Nat
  h : Nat

/-- The numbers of a state. -/
def State.numbers (s : State) : Numbers :=
  ⟨s.a.toNat, s.b.toNat, s.c.toNat, s.d.toNat, s.e.toNat, s.f.toNat, s.g.toNat, s.h.toNat⟩

namespace Numbers

/-- One turn of the state by a word of the block and a constant. -/
def turn (s : Numbers) (word constant : Nat) : Numbers :=
  let sigma1 := rotateNumber s.e 6 ^^^ rotateNumber s.e 11 ^^^ rotateNumber s.e 25
  let choice := (s.e &&& s.f) ^^^ ((wordCount - 1 - s.e) &&& s.g)
  let first := (s.h + sigma1 + choice + constant + word) % wordCount
  let sigma0 := rotateNumber s.a 2 ^^^ rotateNumber s.a 13 ^^^ rotateNumber s.a 22
  let majority := (s.a &&& s.b) ^^^ (s.a &&& s.c) ^^^ (s.b &&& s.c)
  ⟨(first + sigma0 + majority) % wordCount, s.a, s.b, s.c, (s.d + first) % wordCount, s.e, s.f,
    s.g⟩

/-- Two states, added number by number. -/
def add (s t : Numbers) : Numbers :=
  ⟨(s.a + t.a) % wordCount, (s.b + t.b) % wordCount, (s.c + t.c) % wordCount,
    (s.d + t.d) % wordCount, (s.e + t.e) % wordCount, (s.f + t.f) % wordCount,
    (s.g + t.g) % wordCount, (s.h + t.h) % wordCount⟩

/-- The number that follows sixteen others in a schedule, made from four of them. -/
def next (window : List Nat) : Nat :=
  let early := window.getD 1 0
  let late := window.getD 14 0
  let s0 := rotateNumber early 7 ^^^ rotateNumber early 18 ^^^ (early >>> 3)
  let s1 := rotateNumber late 17 ^^^ rotateNumber late 19 ^^^ (late >>> 10)
  (window.getD 0 0 + s0 + window.getD 9 0 + s1) % wordCount

/-- The numbers that follow sixteen others in a schedule. -/
def schedule : Nat → List Nat → List Nat
  | 0, _ => []
  | count + 1, window => next window :: schedule count (window.tail ++ [next window])

/-- Take in one block, given as sixteen numbers. -/
def absorb (s : Numbers) (block : List Nat) : Numbers :=
  s.add (((block ++ schedule 48 block).zip (roundConstants.map UInt32.toNat)).foldl
    (fun t pair => t.turn pair.1 pair.2) s)

/-- Take in numbers, sixteen at a time. -/
def absorbAll : Nat → Numbers → List Nat → Numbers
  | 0, s, _ => s
  | blocks + 1, s, input => absorbAll blocks (s.absorb (input.take 16)) (input.drop 16)

/-- The bytes of a number below `wordCount`, greatest first. -/
def bytesOf (x : Nat) : Bytes :=
  [UInt8.ofNat (x >>> 24), UInt8.ofNat (x >>> 16), UInt8.ofNat (x >>> 8), UInt8.ofNat x]

/-- The 32 bytes of a state. -/
def digest (s : Numbers) : Vector UInt8 32 :=
  let out := [s.a, s.b, s.c, s.d, s.e, s.f, s.g, s.h].flatMap bytesOf
  ⟨out.toArray, rfl⟩

end Numbers

/-- The hash of a message, on numbers. -/
def hashNumbers (message : Bytes) : Vector UInt8 32 :=
  let input := (words (pad message)).map UInt32.toNat
  (Numbers.absorbAll (input.length / 16) State.start.numbers input).digest

/-! ## The hash -/

theorem State.numbers_turn (s : State) (word constant : UInt32) :
    (s.turn word constant).numbers = s.numbers.turn word.toNat constant.toNat := by
  simp (disch := decide) only [State.turn, State.numbers, Numbers.turn, UInt32.toNat_add,
    UInt32.toNat_xor, UInt32.toNat_and, UInt32.toNat_not, toNat_rotate]
  simp only [show wordCount = 2 ^ 32 from rfl, Nat.add_assoc, Nat.mod_add_mod, Nat.add_mod_mod]
  rfl

theorem State.numbers_add (s t : State) : (s.add t).numbers = s.numbers.add t.numbers := by
  simp only [State.add, State.numbers, Numbers.add, UInt32.toNat_add]
  rfl

section Schedule

variable {words : Array UInt32} {before window : List UInt32}

/-- A schedule grows by the word that follows its last sixteen. -/
theorem extend_succ (count : Nat) (splits : words.toList = before ++ window)
    (sixteen : window.length = 16) :
    ∃ word, extend (count + 1) words = extend count (words.push word) ∧
      word.toNat = Numbers.next (window.map UInt32.toNat) := by
  have size : words.size = before.length + 16 := by
    rw [← Array.length_toList, splits, List.length_append, sixteen]
  have read (back index : Nat) (place : words.size - back = before.length + index) :
      (words.getD (words.size - back) 0).toNat = (window.map UInt32.toNat).getD index 0 := by
    rw [place, Array.getD_eq_getD_getElem?, ← Array.getElem?_toList, splits,
      List.getElem?_append_right (Nat.le_add_right ..), Nat.add_sub_cancel_left,
      List.getD_eq_getElem?_getD, List.getElem?_map]
    cases window[index]? <;> rfl
  refine ⟨_, rfl, ?_⟩
  simp (disch := decide) only [UInt32.toNat_add, UInt32.toNat_xor, toNat_rotate,
    UInt32.toNat_shiftRight, read 15 1 (by omega), read 2 14 (by omega), read 16 0 (by omega),
    read 7 9 (by omega), Nat.mod_add_mod, Numbers.next]
  rfl

theorem extend_eq (count : Nat) (splits : words.toList = before ++ window)
    (sixteen : window.length = 16) :
    (extend count words).toList.map UInt32.toNat =
      words.toList.map UInt32.toNat ++ Numbers.schedule count (window.map UInt32.toNat) := by
  induction count generalizing words before window with
  | zero => exact (List.append_nil _).symm
  | succ count ih =>
    obtain ⟨word, step, made⟩ := extend_succ count splits sixteen
    obtain ⟨oldest, rest, rfl⟩ := List.exists_cons_of_length_eq_add_one sixteen
    have pushed : (words.push word).toList = (before ++ [oldest]) ++ (rest ++ [word]) := by
      rw [Array.toList_push, splits, List.append_assoc, List.append_assoc, List.singleton_append,
        List.cons_append]
    have kept : (rest ++ [word]).length = 16 := by
      rw [List.length_append, List.length_singleton, ← List.length_cons, sixteen]
    rw [step, ih pushed kept, Array.toList_push, Numbers.schedule, ← made, List.map_append,
      List.map_append, List.append_assoc]
    rfl

end Schedule

theorem State.numbers_foldl_turn (s : State) (pairs : List (UInt32 × UInt32)) :
    (pairs.foldl (fun t pair => t.turn pair.1 pair.2) s).numbers =
      (pairs.map (Prod.map UInt32.toNat UInt32.toNat)).foldl (fun t pair => t.turn pair.1 pair.2)
        s.numbers := by
  induction pairs generalizing s with
  | nil => rfl
  | cons pair rest ih =>
    rw [List.foldl_cons, ih, numbers_turn, List.map_cons, List.foldl_cons, Prod.map_fst,
      Prod.map_snd]

theorem State.numbers_absorb (s : State) {block : List UInt32} (sixteen : block.length = 16) :
    (s.absorb block).numbers = s.numbers.absorb (block.map UInt32.toNat) := by
  have whole : block.toArray.toList = [] ++ block := rfl
  have turns : s.absorb block = s.add (((extend 48 block.toArray).toList.zip roundConstants).foldl
      (fun t pair => t.turn pair.1 pair.2) s) := rfl
  rw [turns, numbers_add, numbers_foldl_turn, ← List.zip_map, extend_eq 48 whole sixteen]
  rfl

theorem State.numbers_absorbAll {blocks : Nat} (s : State) {input : List UInt32}
    (enough : 16 * blocks ≤ input.length) :
    (State.absorbAll blocks s input).numbers =
      Numbers.absorbAll blocks s.numbers (input.map UInt32.toNat) := by
  induction blocks generalizing s input with
  | zero => rfl
  | succ blocks ih =>
    rw [State.absorbAll, Numbers.absorbAll, ih, numbers_absorb, List.map_take, List.map_drop]
    · rw [List.length_take]
      omega
    · rw [List.length_drop]
      omega

theorem bytesOf_eq (x : UInt32) : bytesOf x = Numbers.bytesOf x.toNat := by
  have byte (shift : UInt32) (small : shift.toNat < 32) :
      (x >>> shift).toUInt8 = UInt8.ofNat (x.toNat >>> shift.toNat) := by
    rw [← UInt8.toNat_inj, UInt32.toNat_toUInt8, UInt32.toNat_shiftRight, UInt8.toNat_ofNat',
      Nat.mod_eq_of_lt small]
  rw [bytesOf, byte 24 (by decide), byte 16 (by decide), byte 8 (by decide)]
  rfl

theorem State.digest_eq (s : State) : s.digest = s.numbers.digest := by
  apply Vector.toList_inj.mp
  simp only [State.digest, Numbers.digest, State.numbers, List.flatMap_cons, List.flatMap_nil,
    bytesOf_eq]

theorem hash_eq_hashNumbers : hash = hashNumbers := by
  funext message
  rw [hash, hashNumbers, State.digest_eq, State.numbers_absorbAll, List.length_map]
  exact Nat.mul_div_le ..

end Sha256

/-! ## Addresses -/

namespace Address

/-- The address of some seeds, the bump included, worked out on numbers. -/
def deriveNumbers? (seeds : List Bytes) (program : Key) : Option Key :=
  let hash := Sha256.hashNumbers
    (seeds.flatten ++ program.toList ++ Place.word "ProgramDerivedAddress")
  if Edwards.isPoint hash then none else some ⟨hash⟩

/-- The address of some seeds with the greatest bump up to a given one that makes one, by whatever
way to derive it. -/
def searchUpTo? (derive : List Bytes → Key → Option Key) (seeds : List Bytes) (program : Key) :
    Nat → Option Address
  | 0 => none
  | bump + 1 =>
    match derive (seeds ++ [[UInt8.ofNat (bump + 1)]]) program with
    | some key => some ⟨key, UInt8.ofNat (bump + 1)⟩
    | none => searchUpTo? derive seeds program bump

/-- The bump that is found makes the address, by the same way to derive it. -/
theorem derive_of_searchUpTo? {derive : List Bytes → Key → Option Key} {seeds : List Bytes}
    {program : Key} {bound : Nat} {address : Address}
    (found : searchUpTo? derive seeds program bound = some address) :
    derive (seeds ++ [[address.bump]]) program = some address.key := by
  induction bound with
  | zero => exact nomatch found
  | succ bump ih =>
    rw [searchUpTo?] at found
    cases made : derive (seeds ++ [[UInt8.ofNat (bump + 1)]]) program with
    | none =>
      rw [made] at found
      exact ih found
    | some key =>
      rw [made] at found
      obtain rfl := Option.some.inj found
      exact made

theorem derive?_eq : derive? = deriveNumbers? := by
  delta derive? deriveNumbers?
  rw [Sha256.hash_eq_hashNumbers]

/-- The two recursions are the same term. Their equations must not be used, since what they branch
on would be computed. -/
theorem findUpTo?_eq : findUpTo? = searchUpTo? derive? := by
  delta findUpTo? searchUpTo?
  rfl

end Address

/-- The bump of a place makes its address. -/
theorem Place.derive?_of_address? {place : Place} {program : Key} {address : Address}
    (lies : place.address? program = some address) :
    Address.derive? (place.seeds ++ [[address.bump]]) program = some address.key := by
  delta address? Address.find? at lies
  rw [Address.findUpTo?_eq] at lies
  exact Address.derive_of_searchUpTo? lies

/-- The address of a place, worked out on numbers. -/
def Place.addressNumbers? (place : Place) (program : Key) : Option Address :=
  Address.searchUpTo? Address.deriveNumbers? place.seeds program 255

theorem Place.address?_eq : Place.address? = Place.addressNumbers? := by
  delta address? addressNumbers? Address.find?
  rw [Address.findUpTo?_eq, Address.derive?_eq]

end FeeTreasury
