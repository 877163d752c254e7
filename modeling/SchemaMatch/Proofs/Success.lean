/-!
# When steps succeed

A chain of steps that may fail succeeds exactly if each of its steps does. These are the laws by
which later proofs take a successful reading or compilation apart.
-/

namespace SchemaMatch

variable {ε α β : Type}

/-- A chain succeeds if its first step does and the others do with what that step gave. -/
theorem bind_eq_ok_iff {first : Except ε α} {others : α → Except ε β} {result : β} :
    first >>= others = .ok result ↔ ∃ value, first = .ok value ∧ others value = .ok result := by
  cases first with
  | error cause => simp [bind, Except.bind]
  | ok value => simp [bind, Except.bind]

/-- A chain whose first step succeeds is the rest of it. -/
@[simp] theorem ok_bind (value : α) (others : α → Except ε β) :
    (Except.ok value >>= others) = others value := rfl

/-- A chain whose first step fails fails for the same cause. -/
@[simp] theorem error_bind (cause : ε) (others : α → Except ε β) :
    (Except.error cause >>= others) = .error cause := rfl

/-- A chain that is refused under a condition succeeds if the condition fails and the rest does
succeed. -/
theorem unless_eq_ok_iff {refused : Prop} [Decidable refused] {cause : ε}
    {others : α → Except ε β} {rest : Except ε β} {result : β} :
    (if refused then Except.error cause >>= others else rest) = .ok result ↔
      ¬ refused ∧ rest = .ok result := by
  by_cases holds : refused <;> simp [holds]

theorem map_eq_ok_iff {step : Except ε α} {f : α → β} {result : β} :
    f <$> step = .ok result ↔ ∃ value, step = .ok value ∧ f value = result := by
  cases step with
  | error cause => simp [Functor.map, Except.map]
  | ok value => simp [Functor.map, Except.map]

end SchemaMatch
