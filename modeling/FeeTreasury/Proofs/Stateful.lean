import Mathlib

/-!
# When a stateful rule answers

A rule that reads and writes a state as it goes, and may fail on the way, answers exactly if each of
its parts answers on the state that the part before it left (`FeeTreasury.Stateful.bind_eq_ok`).
Claims and runs of the program are taken apart with the same lemmas.
-/

namespace FeeTreasury.Stateful

variable {ε σ α β : Type} {state after : σ}

theorem exists_unit {p : Unit → Prop} : (∃ u, p u) ↔ p () :=
  ⟨fun ⟨(), holds⟩ => holds, fun holds => ⟨(), holds⟩⟩

theorem bind_eq_ok {x : EStateM ε σ α} {f : α → EStateM ε σ β} {b : β} :
    (x >>= f) state = .ok b after ↔
      ∃ a middle, x state = .ok a middle ∧ f a middle = .ok b after := by
  show EStateM.bind x f state = _ ↔ _
  unfold EStateM.bind
  cases x state with
  | error failure middle => simp only [reduceCtorEq, false_and, exists_false]
  | ok a middle =>
    simp only [EStateM.Result.ok.injEq]
    constructor
    · exact fun rest => ⟨a, middle, ⟨rfl, rfl⟩, rest⟩
    · rintro ⟨_, _, ⟨rfl, rfl⟩, rest⟩
      exact rest

/-- A sequence fails where its first rule does, or where the second one does on what the first one
left. -/
theorem bind_eq_error {x : EStateM ε σ α} {f : α → EStateM ε σ β} {failure : ε} :
    (x >>= f) state = .error failure after ↔
      x state = .error failure after ∨
        ∃ a middle, x state = .ok a middle ∧ f a middle = .error failure after := by
  show EStateM.bind x f state = _ ↔ _
  unfold EStateM.bind
  cases x state with
  | error other middle =>
    simp only [EStateM.Result.error.injEq, reduceCtorEq, false_and, exists_false, or_false]
  | ok a middle =>
    simp only [reduceCtorEq, EStateM.Result.ok.injEq, false_or]
    constructor
    · exact fun rest => ⟨a, middle, ⟨rfl, rfl⟩, rest⟩
    · rintro ⟨_, _, ⟨rfl, rfl⟩, rest⟩
      exact rest

theorem pure_eq_ok {a b : α} :
    (pure a : EStateM ε σ α) state = .ok b after ↔ a = b ∧ state = after := by
  show EStateM.pure a state = _ ↔ _
  simp only [EStateM.pure, EStateM.Result.ok.injEq]

theorem throw_ne_ok {failure : ε} {b : α} :
    ¬ ((throw failure : EStateM ε σ α) state = .ok b after) := by
  show ¬ EStateM.throw failure state = _
  simp only [EStateM.throw, reduceCtorEq, not_false_eq_true]

theorem get_eq_ok {b : σ} :
    (get : EStateM ε σ σ) state = .ok b after ↔ state = b ∧ state = after := by
  show EStateM.get state = _ ↔ _
  simp only [EStateM.get, EStateM.Result.ok.injEq]

theorem set_eq_ok {next : σ} {u : PUnit} :
    (set next : EStateM ε σ PUnit) state = .ok u after ↔ next = after := by
  show EStateM.set next state = _ ↔ _
  simp only [EStateM.set, EStateM.Result.ok.injEq, true_and]

theorem modify_eq_ok {change : σ → σ} {u : PUnit} :
    (modify change : EStateM ε σ PUnit) state = .ok u after ↔ change state = after := by
  show EStateM.modifyGet (fun old => (u, change old)) state = _ ↔ _
  simp only [EStateM.modifyGet, EStateM.Result.ok.injEq, true_and]

theorem liftExcept_eq_ok {x : Except ε α} {b : α} :
    (liftExcept x : EStateM ε σ α) state = .ok b after ↔ x = .ok b ∧ state = after := by
  cases x with
  | error failure =>
    constructor
    · exact fun lifted => (throw_ne_ok lifted).elim
    · rintro ⟨failed, _⟩
      exact nomatch failed
  | ok a => simp only [liftExcept, pure_eq_ok, Except.ok.injEq]

/-- What is lifted fails without a change of the state. -/
theorem eq_of_liftExcept_eq_error {x : Except ε α} {failure : ε}
    (failed : (liftExcept x : EStateM ε σ α) state = .error failure after) : after = state := by
  cases x with
  | error other => exact (EStateM.Result.error.inj failed).2.symm
  | ok a => exact nomatch failed

end FeeTreasury.Stateful
