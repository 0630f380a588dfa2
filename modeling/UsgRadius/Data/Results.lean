import Mathlib.Data.List.Basic

namespace UsgRadius.Data

/-! Rules for the `?` operator: how a chain of fallible steps succeeds. -/

namespace Results

variable {Failure Value Next : Type} {step : Except Failure Value}

@[simp] theorem ok_bind (value : Value) (next : Value → Except Failure Next) :
    (Except.ok value >>= next) = next value := rfl

@[simp] theorem error_bind (reason : Failure) (next : Value → Except Failure Next) :
    (Except.error reason >>= next) = .error reason := rfl

@[simp] theorem pure_eq (value : Value) : (pure value : Except Failure Value) = .ok value := rfl

@[simp] theorem throw_eq (reason : Failure) : (throw reason : Except Failure Value) = .error reason := rfl

theorem bind_eq_ok {next : Value → Except Failure Next} {result : Next} :
    (step >>= next) = .ok result ↔ ∃ value, step = .ok value ∧ next value = .ok result := by
  cases step with
  | error reason | ok value => simp

theorem eq_ok_of_toOption {value : Value} (found : step.toOption = some value) : step = .ok value := by
  cases step with
  | error reason => cases found
  | ok other =>
    cases found
    rfl

theorem exists_of_isOk (succeeds : step.isOk = true) : ∃ value, step = .ok value := by
  cases step with
  | error reason => cases succeeds
  | ok value => exact ⟨value, rfl⟩

end Results

end UsgRadius.Data
