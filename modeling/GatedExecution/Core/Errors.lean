import Mathlib

/-!
# Error codes and results

The platform reports failure by value.  {lit}`ErrorCode` lists the codes of
{lit}`core/errors.hpp`, and {lit}`Result` is the wrapper its readers return.  A
failed {lit}`Result` also carries a default value in the source; no caller looks
at it, so the model keeps only the code.
-/

namespace Fgep

/-- Core error codes, {lit}`ok` included. -/
inductive ErrorCode where
  | ok
  | invalidArgument
  | invalidState
  | notFound
  | duplicate
  | parseError
  | ioError
  | timeout
  | unsupported
  | internalError
deriving DecidableEq, Repr

/-- A value, or the code of the failure that prevented it. -/
abbrev Result (α : Type) := Except ErrorCode α

/-- Return {lit}`error` early unless the condition holds: the source's
{lit}`if (!condition) return error`. -/
def ensure {m : Type → Type} [Monad m] [MonadExceptOf ErrorCode m]
    (condition : Bool) (error : ErrorCode) : m Unit :=
  if condition then pure () else throw error

section Results

variable {α β : Type}

/-- A sequenced computation succeeds exactly when both of its parts do. -/
@[simp] theorem Result.bind_eq_ok_iff {x : Result α} {f : α → Result β} {b : β} :
    (x >>= f) = .ok b ↔ ∃ a, x = .ok a ∧ f a = .ok b := by
  cases x with
  | error e => simp [bind, Except.bind]
  | ok a => simp [bind, Except.bind]

/-- A mapped result succeeds exactly through a success of its argument. -/
@[simp] theorem Result.map_eq_ok_iff {x : Result α} {f : α → β} {b : β} :
    x.map f = .ok b ↔ ∃ a, x = .ok a ∧ f a = b := by
  cases x with
  | error e => simp [Except.map]
  | ok a => simp [Except.map]

@[simp] theorem Result.pure_eq_ok_iff {a b : α} :
    (pure a : Result α) = .ok b ↔ a = b := by
  simp [pure, Except.pure]

@[simp] theorem Result.throw_ne_ok {e : ErrorCode} {b : α} :
    (throw e : Result α) ≠ .ok b := by
  simp [throw, throwThe, MonadExceptOf.throw]

@[simp] theorem Result.ensure_eq_ok_iff {condition : Bool} {e : ErrorCode} {u : Unit} :
    (ensure condition e : Result Unit) = .ok u ↔ condition = true := by
  cases condition <;> simp [ensure]

end Results

end Fgep
