/-!
# Results of steps

What comes of a step that may fail and another one after it.
-/

namespace CatalogView

variable {ε α β : Type}

/-- What was read is handed on. -/
@[simp] theorem ok_bind (a : α) (next : α → Except ε β) : (Except.ok a >>= next) = next a :=
  pure_bind a next

/-- An error is handed on. -/
@[simp] theorem error_bind (e : ε) (next : α → Except ε β) :
    ((Except.error e : Except ε α) >>= next) = .error e := rfl

/-- What succeeds after something else does so after the other has succeeded. -/
theorem exists_of_bind_eq_ok {first : Except ε α} {next : α → Except ε β} {b : β}
    (h : first >>= next = .ok b) : ∃ a, first = .ok a ∧ next a = .ok b := by
  cases first with
  | error => cases h
  | ok a => exact ⟨a, rfl, h⟩

end CatalogView
