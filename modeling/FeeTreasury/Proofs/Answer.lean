import FeeTreasury.FixedPoint
import Mathlib

/-!
# When a rule answers

A rule that is a sequence of smaller rules answers exactly if each of them answers
(`FeeTreasury.Outcome.bind_eq_ok`), and a checked word answers exactly if the exact number fits,
with the word of that number (`FeeTreasury.fit64_eq_ok`, `FeeTreasury.fit128_eq_ok`). A quotient
answers with the exact one, rounded once (`FeeTreasury.mulDiv_eq_ok`,
`FeeTreasury.mulDivUp_eq_ok`). With these lemmas an answer is taken apart into the exact numbers
that went into it.
-/

namespace FeeTreasury

namespace Outcome

variable {ε α β : Type}

/-- A sequence answers if its first rule does, and the second one on that answer. -/
theorem bind_eq_ok {x : Except ε α} {f : α → Except ε β} {b : β} :
    (x >>= f) = .ok b ↔ ∃ a, x = .ok a ∧ f a = .ok b := by
  cases x with
  | error fault => simp only [bind, Except.bind, reduceCtorEq, false_and, exists_false]
  | ok a => simp only [bind, Except.bind, Except.ok.injEq, exists_eq_left']

theorem pure_eq_ok {a b : α} : (pure a : Except ε α) = .ok b ↔ a = b := by
  simp only [pure, Except.pure, Except.ok.injEq]

theorem throw_ne_ok {failure : ε} {b : α} : ¬ ((throw failure : Except ε α) = .ok b) := by
  simp only [throw, throwThe, MonadExceptOf.throw, reduceCtorEq, not_false_eq_true]

theorem ite_eq_ok {condition : Prop} [Decidable condition] {x y : Except ε α} {b : α} :
    (if condition then x else y) = .ok b ↔ condition ∧ x = .ok b ∨ ¬ condition ∧ y = .ok b := by
  by_cases holds : condition
  · simp only [holds, ↓reduceIte, true_and, not_true_eq_false, false_and, or_false]
  · simp only [holds, ↓reduceIte, false_and, not_false_eq_true, true_and, false_or]

@[simp] theorem refuse_ne_ok {reason : Refusal} {b : α} : ¬ (refuse reason = .ok b) := by
  simp only [refuse, reduceCtorEq, not_false_eq_true]

@[simp] theorem abort_ne_ok {b : α} : ¬ (abort = .ok b) := by
  simp only [abort, reduceCtorEq, not_false_eq_true]

/-- The rule gives a result. -/
def Answers (x : Except ε α) : Prop := ∃ a, x = .ok a

theorem answers_ok (a : α) : Answers (.ok a : Except ε α) := ⟨a, rfl⟩

theorem answers_pure (a : α) : Answers (pure a : Except ε α) := ⟨a, rfl⟩

theorem Answers.bind {x : Except ε α} {f : α → Except ε β} (first : Answers x)
    (rest : ∀ a, x = .ok a → Answers (f a)) : Answers (x >>= f) := by
  obtain ⟨a, answered⟩ := first
  obtain ⟨b, continued⟩ := rest a answered
  exact ⟨b, bind_eq_ok.mpr ⟨a, answered, continued⟩⟩

/-- The rule gives a result, or turns the request down for what is asked: neither arithmetic nor
bookkeeping would break, and the rule is not aborted. -/
def Sound (x : Outcome α) : Prop :=
  ∀ fault, x = .error fault →
    ∃ reason : Refusal, fault = .refused reason ∧ reason.kind ≠ .invariantViolation

theorem Answers.sound {x : Outcome α} (answers : Answers x) : Sound x := by
  obtain ⟨a, rfl⟩ := answers
  exact nofun

theorem Sound.bind {x : Outcome α} {f : α → Outcome β} (first : Sound x)
    (rest : ∀ a, x = .ok a → Sound (f a)) : Sound (x >>= f) := by
  cases x with
  | error fault =>
    intro other failed
    obtain rfl : fault = other := Except.error.inj failed
    exact first fault rfl
  | ok a => exact rest a rfl

theorem sound_require {condition : Bool} {reason : Refusal}
    (benign : reason.kind ≠ .invariantViolation) : Sound (require condition reason) := by
  cases condition with
  | false => exact fun fault failed => ⟨reason, (Except.error.inj failed).symm, benign⟩
  | true => exact (answers_ok ()).sound

end Outcome

open Outcome

theorem require_eq_ok {condition : Bool} {reason : Refusal} {u : Unit} :
    require condition reason = .ok u ↔ condition = true := by
  cases condition with
  | false => simp only [require, Bool.false_eq_true, ↓reduceIte, refuse_ne_ok]
  | true => simp only [require, ↓reduceIte]

theorem answers_require {condition : Bool} {reason : Refusal} (holds : condition = true) :
    Answers (require condition reason) := ⟨(), require_eq_ok.mpr holds⟩

theorem fit64_eq_ok {n : Nat} {w : UInt64} : fit64 n = .ok w ↔ w.toNat = n := by
  simp only [fit64, ite_eq_ok, refuse_ne_ok, and_false, or_false, Except.ok.injEq]
  constructor
  · rintro ⟨fits, rfl⟩
    exact UInt64.toNat_ofNat_of_lt fits
  · rintro rfl
    exact ⟨w.toNat_lt, UInt64.ofNat_toNat⟩

theorem lt_size_iff {n : Nat} : n < UInt64.size ↔ ∃ w : UInt64, w.toNat = n := by
  constructor
  · intro fits
    exact ⟨.ofNat n, UInt64.toNat_ofNat_of_lt fits⟩
  · rintro ⟨w, rfl⟩
    exact w.toNat_lt

/-- A word that is not zero is a positive number. -/
theorem toNat_pos_of_ne_zero {a : UInt64} (nonzero : a ≠ 0) : 0 < a.toNat :=
  UInt64.lt_iff_toNat_lt.mp (UInt64.pos_iff_ne_zero.mpr nonzero)

theorem answers_fit64 {n : Nat} (fits : n < UInt64.size) : Answers (fit64 n) := ⟨_, if_pos fits⟩

theorem answers_fit128 {n : Nat} (fits : n < UInt128.size) : Answers (fit128 n) := ⟨_, if_pos fits⟩

theorem toNat_ofNat128_of_lt {n : Nat} (fits : n < UInt128.size) : (BitVec.ofNat 128 n).toNat = n :=
  Nat.mod_eq_of_lt fits

theorem fit128_eq_ok {n : Nat} {w : UInt128} : fit128 n = .ok w ↔ w.toNat = n := by
  simp only [fit128, ite_eq_ok, refuse_ne_ok, and_false, or_false, Except.ok.injEq]
  constructor
  · rintro ⟨fits, rfl⟩
    exact toNat_ofNat128_of_lt fits
  · rintro rfl
    exact ⟨w.isLt, BitVec.ofNat_toNat .. ▸ BitVec.setWidth_eq w⟩

theorem fit128_of_size_le {n : Nat} (large : UInt128.size ≤ n) :
    fit128 n = refuse .arithmeticOverflow := by
  simp only [fit128, Nat.not_lt.mpr large, ↓reduceIte]

theorem toInt_of_fitTime {n : Int} {time : Int64} (answered : fitTime n = .ok time) :
    time.toInt = n := by
  simp only [fitTime, ite_eq_ok, refuse_ne_ok, and_false, or_false, Except.ok.injEq] at answered
  obtain ⟨⟨atLeast, atMost⟩, rfl⟩ := answered
  exact Int64.toInt_ofInt_of_le atLeast (Int.lt_of_le_of_lt atMost (by decide))

theorem checkedAdd_eq_ok {a b c : UInt64} : checkedAdd a b = .ok c ↔ c.toNat = a.toNat + b.toNat :=
  fit64_eq_ok

theorem checkedSub_eq_ok {a b c : UInt64} :
    checkedSub a b = .ok c ↔ b.toNat ≤ a.toNat ∧ a - b = c := by
  simp only [checkedSub, ite_eq_ok, refuse_ne_ok, and_false, or_false, Except.ok.injEq]

theorem plainAdd_eq_ok {a b c : UInt64} :
    plainAdd a b = .ok c ↔ c.toNat = a.toNat + b.toNat := by
  simp only [plainAdd, ite_eq_ok, abort_ne_ok, and_false, or_false, Except.ok.injEq]
  constructor
  · rintro ⟨fits, rfl⟩
    rw [UInt64.toNat_add, Nat.mod_eq_of_lt fits]
  · intro exactly
    have fits : a.toNat + b.toNat < UInt64.size := exactly ▸ c.toNat_lt
    exact ⟨fits, UInt64.toNat_inj.mp (by rw [UInt64.toNat_add, Nat.mod_eq_of_lt fits, exactly])⟩

theorem plainSub_eq_ok {a b c : UInt64} :
    plainSub a b = .ok c ↔ b.toNat ≤ a.toNat ∧ a - b = c := by
  simp only [plainSub, ite_eq_ok, abort_ne_ok, and_false, or_false, Except.ok.injEq]

theorem mulDiv_eq_ok {a b denominator c : UInt64} :
    mulDiv a b denominator = .ok c ↔
      denominator ≠ 0 ∧ c.toNat = a.toNat * b.toNat / denominator.toNat := by
  simp only [mulDiv, ite_eq_ok, refuse_ne_ok, and_false, false_or, fit64_eq_ok, ne_eq]

/-- A part of a word is a word. -/
theorem mulDiv_of_le {a b denominator : UInt64} (divides : denominator ≠ 0)
    (part : b ≤ denominator) : ∃ c, mulDiv a b denominator = .ok c := by
  have fits : a.toNat * b.toNat / denominator.toNat < UInt64.size := by
    refine Nat.lt_of_le_of_lt (Nat.div_le_of_le_mul ?_) a.toNat_lt
    rw [Nat.mul_comm denominator.toNat]
    exact Nat.mul_le_mul_left _ (UInt64.le_iff_toNat_le.mp part)
  obtain ⟨c, exactly⟩ := lt_size_iff.mp fits
  exact ⟨c, mulDiv_eq_ok.mpr ⟨divides, exactly⟩⟩

theorem mulDiv_comm (a b denominator : UInt64) :
    mulDiv a b denominator = mulDiv b a denominator := by
  simp only [mulDiv, Nat.mul_comm]

/-- A product of two words and one more word fit in the width of plain products. -/
theorem product_add_lt (a b c : UInt64) : a.toNat * b.toNat + c.toNat < UInt128.size := by
  have product : a.toNat * b.toNat ≤ (UInt64.size - 1) * (UInt64.size - 1) :=
    Nat.mul_le_mul (Nat.le_sub_one_of_lt a.toNat_lt) (Nat.le_sub_one_of_lt b.toNat_lt)
  have small := c.toNat_lt
  simp only [UInt64.size, UInt128.size] at product small ⊢
  omega

/-- The quotient that is rounded up never leaves the width of plain products. -/
theorem mulDivUp_eq_ok {a b denominator c : UInt64} :
    mulDivUp a b denominator = .ok c ↔
      denominator ≠ 0 ∧ c.toNat = a.toNat * b.toNat ⌈/⌉ denominator.toNat := by
  have fits := product_add_lt a b denominator
  simp only [mulDivUp, plain128, fits, ↓reduceIte, ite_eq_ok, refuse_ne_ok, and_false, false_or,
    bind_eq_ok, Except.ok.injEq, exists_eq_left', toNat_ofNat128_of_lt fits, fit64_eq_ok, ne_eq,
    Nat.ceilDiv_eq_add_pred_div]

theorem unit_pos : 0 < unit.toNat := by decide

theorem decimalMul_eq_ok {a b c : UInt64} :
    decimalMul a b = .ok c ↔ c.toNat = a.toNat * b.toNat / unit.toNat := by
  rw [decimalMul, mulDiv_eq_ok]
  exact and_iff_right (by decide)

theorem preciseUnit_pos : 0 < preciseUnit := by decide

theorem perShare_eq_ok {amount delta : UInt128} {shares : UInt64} :
    perShare amount shares = .ok delta ↔
      shares ≠ 0 ∧ amount.toNat * preciseUnit < UInt128.size ∧
        delta.toNat = amount.toNat * preciseUnit / shares.toNat := by
  simp only [perShare, ite_eq_ok, refuse_ne_ok, and_false, false_or, bind_eq_ok, fit128_eq_ok,
    pure_eq_ok, ne_eq]
  refine and_congr_right fun _ => ⟨?_, ?_⟩
  · rintro ⟨scaled, exactly, rfl⟩
    have fits := exactly ▸ scaled.isLt
    refine ⟨fits, ?_⟩
    rw [exactly, toNat_ofNat128_of_lt (Nat.lt_of_le_of_lt (Nat.div_le_self ..) fits)]
  · rintro ⟨fits, exactly⟩
    refine ⟨BitVec.ofNat 128 (amount.toNat * preciseUnit), toNat_ofNat128_of_lt fits, ?_⟩
    rw [toNat_ofNat128_of_lt fits, ← exactly, BitVec.ofNat_toNat, BitVec.setWidth_eq]

theorem fromPerShare_eq_ok {shares : UInt64} {delta amount : UInt128} :
    fromPerShare shares delta = .ok amount ↔
      shares.toNat * delta.toNat < UInt128.size ∧
        amount.toNat = shares.toNat * delta.toNat / preciseUnit := by
  simp only [fromPerShare, bind_eq_ok, fit128_eq_ok, pure_eq_ok]
  constructor
  · rintro ⟨scaled, exactly, rfl⟩
    have fits := exactly ▸ scaled.isLt
    refine ⟨fits, ?_⟩
    rw [exactly, toNat_ofNat128_of_lt (Nat.lt_of_le_of_lt (Nat.div_le_self ..) fits)]
  · rintro ⟨fits, exactly⟩
    refine ⟨BitVec.ofNat 128 (shares.toNat * delta.toNat), toNat_ofNat128_of_lt fits, ?_⟩
    rw [toNat_ofNat128_of_lt fits, ← exactly, BitVec.ofNat_toNat, BitVec.setWidth_eq]

@[simp] theorem toNat_saturatingSub (a b : UInt64) :
    (saturatingSub a b).toNat = a.toNat - b.toNat :=
  UInt64.toNat_ofNat_of_lt (Nat.lt_of_le_of_lt (Nat.sub_le ..) a.toNat_lt)

@[simp] theorem toNat_saturatingSub128 (a b : UInt128) :
    (saturatingSub128 a b).toNat = a.toNat - b.toNat :=
  Nat.mod_eq_of_lt (Nat.lt_of_le_of_lt (Nat.sub_le ..) a.isLt)

end FeeTreasury
