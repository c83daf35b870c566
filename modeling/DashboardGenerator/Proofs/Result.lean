/-!
# Steps that may fail

How a result in `Except` came about: what succeeds in two steps succeeds in each of them, and naming
a fault otherwise changes no success.
-/

namespace DashboardGenerator

variable {ε ε' α β : Type}

/-- Two steps succeed exactly if the first one does and the second one does after it. -/
theorem bind_eq_ok_iff {first : Except ε α} {second : α → Except ε β} {result : β} :
    (first >>= second) = .ok result ↔ ∃ middle, first = .ok middle ∧ second middle = .ok result := by
  cases first with
  | error fault =>
      constructor
      · intro h
        cases h
      · rintro ⟨_, h, _⟩
        cases h
  | ok middle =>
      constructor
      · exact fun h => ⟨middle, rfl, h⟩
      · rintro ⟨_, h, hsecond⟩
        cases h
        exact hsecond

/-- A step succeeds under other names for its faults exactly if it succeeds. -/
theorem mapError_eq_ok_iff {step : Except ε α} {rename : ε → ε'} {result : α} :
    step.mapError rename = .ok result ↔ step = .ok result := by
  cases step with
  | error fault => constructor <;> (intro h; cases h)
  | ok value => constructor <;> (intro h; cases h; rfl)

/-- What is made of a result is there exactly if the result is. -/
theorem map_eq_ok_iff {step : Except ε α} {change : α → β} {result : β} :
    step.map change = .ok result ↔ ∃ value, step = .ok value ∧ change value = result := by
  cases step with
  | error fault => simp [Except.map]
  | ok value => simp [Except.map]

/-- Steps that succeed alike fail alike. -/
theorem exists_error_congr {step other : Except ε α}
    (hsame : ∀ result, step = .ok result ↔ other = .ok result) :
    (∃ fault, step = .error fault) ↔ ∃ fault, other = .error fault := by
  cases step with
  | ok result =>
      rw [(hsame result).mp rfl]
  | error fault =>
      cases other with
      | ok result => cases (hsame result).mpr rfl
      | error otherFault => simp

end DashboardGenerator
