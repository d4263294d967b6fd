import FeeTreasury.Instruction.Wire
import FeeTreasury.Proofs.Wire.Canonical
import FeeTreasury.Proofs.Wire.Length

/-!
# Reading instructions

Which bytes are read as an instruction, for every instruction and all bytes. The bytes open with the
written form of the instruction; more may follow only if the instruction has no parameters
(`FeeTreasury.Instruction.unpack_eq_ok_iff`). So what was written is read again, and an instruction
that has parameters has one written form, while each of the nine others is read from infinitely many
byte strings.
-/

namespace FeeTreasury

open Codec

/-! ## Parameters have a written form -/

theorem Codec.canonical_option {α : Type} {codec : Codec α}
    (total : ∀ value, codec.Canonical value) (value : Option α) : codec.option.Canonical value := by
  cases value with
  | none => trivial
  | some value => exact total value

@[simp] theorem SettingsUpdate.canonical (update : SettingsUpdate) :
    SettingsUpdate.codec.Canonical update := by
  simp [SettingsUpdate.codec, canonical_option canonical_u64, canonical_option canonical_i64]

@[simp] theorem RolesUpdate.canonical (update : RolesUpdate) :
    RolesUpdate.codec.Canonical update := by
  simp [RolesUpdate.codec, canonical_option Key.canonical]

namespace Instruction

@[simp] theorem canonical_suspensionCodec (value : UInt8 × Bool × UInt16) :
    suspensionCodec.Canonical value := by
  simp [suspensionCodec]

@[simp] theorem canonical_closeCodec (value : UInt64 × Int64) : closeCodec.Canonical value := by
  simp [closeCodec]

@[simp] theorem canonical_importCodec (value : UInt8 × PeriodImport) :
    importCodec.Canonical value := by
  simp [importCodec, historyCodec]

@[simp] theorem canonical_approvalCodec (value : Key × Bool) : approvalCodec.Canonical value := by
  simp [approvalCodec]

/-! ## What is read -/

/-- The numbers count the instructions in their order. -/
theorem toNat_number (instruction : Instruction) :
    instruction.number.toNat = instruction.ctorIdx := by
  cases instruction <;> rfl

/-- The instructions without parameters. -/
theorem parameters_eq_nil_iff {instruction : Instruction} :
    instruction.parameters = [] ↔ instruction.number ∈ [6, 10, 14, 15, 18, 19, 20, 21, 22] := by
  rw [← List.length_eq_zero_iff]
  cases instruction <;>
    simp [number, parameters, Settings.codec, SettingsUpdate.codec, RolesUpdate.codec,
      suspensionCodec, AssetKey.codec, closeCodec, importCodec, approvalCodec, Key.codec]

/-- Parameters have to take all of the bytes. -/
theorem withParameters_encode_append {α : Type} {codec : Codec α} {make : α → Instruction}
    {value : α} (canonical : codec.Canonical value) (rest : Bytes) :
    withParameters codec make (codec.encode value ++ rest) =
      if rest = [] then .ok (make value) else .error (.malformed .trailingBytes) := by
  have read := codec.decode_encode value rest canonical
  cases rest with
  | nil => simp only [withParameters, decodeAll, read, if_true]
  | cons byte rest => simp only [withParameters, decodeAll, read, reduceCtorEq, if_false]

/-- Parameters are read from their written form alone. -/
theorem withParameters_eq_ok {α : Type} {codec : Codec α} {make : α → Instruction} {bytes : Bytes}
    {instruction : Instruction} :
    withParameters codec make bytes = .ok instruction ↔
      ∃ value, codec.Canonical value ∧ bytes = codec.encode value ∧ make value = instruction := by
  constructor
  · intro read
    unfold withParameters at read
    split at read
    · rename_i value whole
      obtain ⟨canonical, written⟩ :=
        codec.of_decode _ _ _ ((codec.decodeAll_eq_ok_iff _ _).mp whole)
      rw [List.append_nil] at written
      exact ⟨value, canonical, written, Except.ok.inj read⟩
    · cases read
  · rintro ⟨value, canonical, rfl, rfl⟩
    rw [← List.append_nil (codec.encode value), withParameters_encode_append canonical,
      if_pos rfl]

/-- Bytes that are read as an instruction open with its written form, and end there if it has
parameters. -/
theorem eq_pack_append_of_unpack {bytes : Bytes} {instruction : Instruction}
    (read : unpack bytes = .ok instruction) :
    ∃ rest, bytes = instruction.pack ++ rest ∧ (instruction.parameters = [] ∨ rest = []) := by
  unfold unpack at read
  split at read
  · cases read
  rename_i number rest
  split at read
  case h_7 numbered | h_11 numbered | h_15 numbered | h_16 numbered | h_19 numbered
      | h_20 numbered | h_21 numbered | h_22 numbered | h_23 numbered =>
    obtain rfl := UInt8.ofNat_toNat.symm.trans (congrArg UInt8.ofNat numbered)
    cases read
    exact ⟨rest, rfl, .inl rfl⟩
  case h_24 => cases read
  all_goals
    rename_i numbered
    obtain rfl := UInt8.ofNat_toNat.symm.trans (congrArg UInt8.ofNat numbered)
    obtain ⟨value, -, rfl, rfl⟩ := withParameters_eq_ok.mp read
    exact ⟨[], (List.append_nil _).symm, .inr rfl⟩

/-- The written form of an instruction is read as the instruction. What follows it is overlooked if
the instruction has no parameters, and else the whole is refused. -/
theorem unpack_pack_append (instruction : Instruction) (rest : Bytes) :
    unpack (instruction.pack ++ rest) =
      if instruction.parameters = [] ∨ rest = [] then .ok instruction
      else .error (.malformed .trailingBytes) := by
  simp only [parameters_eq_nil_iff]
  cases instruction <;>
    simp [unpack, pack, number, parameters, withParameters_encode_append]

/-- **What is read as an instruction.** Bytes are read as an instruction exactly if they are its
written form, or open with it and the instruction has no parameters. -/
theorem unpack_eq_ok_iff {bytes : Bytes} {instruction : Instruction} :
    unpack bytes = .ok instruction ↔
      ∃ rest, bytes = instruction.pack ++ rest ∧ (instruction.parameters = [] ∨ rest = []) := by
  refine ⟨eq_pack_append_of_unpack, ?_⟩
  rintro ⟨rest, rfl, whole⟩
  rw [unpack_pack_append, if_pos whole]

/-- **Instructions survive the wire.** -/
theorem unpack_pack (instruction : Instruction) :
    unpack instruction.pack = .ok instruction :=
  unpack_eq_ok_iff.mpr ⟨[], (List.append_nil _).symm, .inr rfl⟩

/-- **The written forms of an instruction.** Bytes that are read as an instruction are its written
form unless it has no parameters and they are more than its number. What follows them is overlooked
if the instruction has no parameters, and refused if it has. -/
theorem pack_eq_iff_of_unpack {bytes : Bytes} {instruction : Instruction}
    (read : unpack bytes = .ok instruction) :
    (instruction.pack = bytes ↔ instruction.parameters ≠ [] ∨ bytes.length = 1) ∧
      ∀ rest ≠ [], unpack (bytes ++ rest) =
        if instruction.parameters = [] then .ok instruction
        else .error (.malformed .trailingBytes) := by
  obtain ⟨before, rfl, whole⟩ := unpack_eq_ok_iff.mp read
  constructor
  · by_cases bare : instruction.parameters = []
    · simp [pack, bare]
    · simp [or_iff_not_imp_left.mp whole bare, bare]
  · intro rest more
    simp only [List.append_assoc, unpack_pack_append, List.append_eq_nil_iff, more, and_false,
      or_false]

theorem pack_eq_iff_of_unpack_recordedFee :
    unpack [8, 5, 0, 0, 0, 0, 0, 0, 0] = .ok (recordFee 5) ∧
      (recordFee 5).pack = [8, 5, 0, 0, 0, 0, 0, 0, 0] ∧
      unpack [8, 5, 0, 0, 0, 0, 0, 0, 0, 1] = .error (.malformed .trailingBytes) := by
  have read : unpack [8, 5, 0, 0, 0, 0, 0, 0, 0] = .ok (recordFee 5) := by decide +kernel
  have parametric : (recordFee 5).parameters ≠ [] := by decide +kernel
  obtain ⟨written, refused⟩ := pack_eq_iff_of_unpack read
  exact ⟨read, written.mpr (.inl parametric),
    (refused [1] (List.cons_ne_nil _ _)).trans (if_neg parametric)⟩

/-- A byte after the number of an instruction without parameters is overlooked. -/
theorem not_pack_eq_of_unpack :
    ¬ ∀ (bytes : Bytes) (instruction : Instruction),
      unpack bytes = .ok instruction → instruction.pack = bytes := by
  intro claimed
  exact absurd (claimed [6, 0] createStaker rfl) (by decide)

end Instruction

end FeeTreasury
