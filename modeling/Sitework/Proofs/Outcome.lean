/-!
# Attempts one after the other

An attempt that goes on after another one succeeds only if both do, and one whose outcome is
mapped only if the attempt itself does.
-/

namespace Sitework

/-- If two attempts succeed one after the other, then each of them does. -/
theorem exists_of_bind_eq_ok {ε α β : Type} {x : Except ε α} {f : α → Except ε β} {result : β}
    (h : x >>= f = .ok result) : ∃ a, x = .ok a ∧ f a = .ok result := by
  cases x with
  | error => cases h
  | ok a => exact ⟨a, rfl, h⟩

/-- If the outcome of an attempt is mapped to a result, then the attempt succeeds. -/
theorem exists_of_map_eq_ok {ε α β : Type} {f : α → β} {x : Except ε α} {result : β}
    (h : x.map f = .ok result) : ∃ a, x = .ok a ∧ f a = result := by
  cases x with
  | error => cases h
  | ok a => exact ⟨a, rfl, Except.ok.inj h⟩

end Sitework
