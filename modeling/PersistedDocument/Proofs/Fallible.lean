/-!
# Proofs: steps that can fail

Steps one after the other give a result if each of them does, and they fail with the first failure.
-/

namespace PersistedDocument

variable {ε α β : Type}

/-- A chain of steps that can fail gives a result if each of its steps does. -/
theorem bind_eq_ok {x : Except ε α} {f : α → Except ε β} {b : β} :
    x >>= f = .ok b ↔ ∃ a, x = .ok a ∧ f a = .ok b := by
  cases x with
  | error e =>
    simp only [bind, Except.bind, reduceCtorEq, false_and, exists_false]
  | ok a =>
    simp only [bind, Except.bind, Except.ok.injEq, exists_eq_left']

theorem bind_eq_of_ok {x : Except ε α} {f : α → Except ε β} {a : α} (h : x = .ok a) :
    x >>= f = f a := by
  rw [h]
  rfl

/-- A chain of steps that can fail fails as the first of its steps that does. -/
theorem bind_eq_error {x : Except ε α} {f : α → Except ε β} {e : ε} :
    x >>= f = .error e ↔ x = .error e ∨ ∃ a, x = .ok a ∧ f a = .error e := by
  cases x with
  | error e =>
    simp only [bind, Except.bind, Except.error.injEq, reduceCtorEq, false_and, exists_false,
      or_false]
  | ok a =>
    simp only [bind, Except.bind, Except.ok.injEq, exists_eq_left', reduceCtorEq, false_or]

theorem bind_eq_of_error {x : Except ε α} {f : α → Except ε β} {e : ε} (h : x = .error e) :
    x >>= f = .error e := by
  rw [h]
  rfl

theorem map_eq_ok {x : Except ε α} {f : α → β} {b : β} :
    f <$> x = .ok b ↔ ∃ a, x = .ok a ∧ f a = b := by
  cases x with
  | error e => simp only [Functor.map, Except.map, reduceCtorEq, false_and, exists_false]
  | ok a => simp only [Functor.map, Except.map, Except.ok.injEq, exists_eq_left']

end PersistedDocument
