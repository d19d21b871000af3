import Mathlib

/-!
# Checks that fail in order

The loader and the validator run their checks one after another and stop at the first that
fails. `firstFailure fails next` is that behaviour with the failures listed: the first of them,
or, when there is none, what comes after. A sequence of checks is then the first failure of the
concatenated lists (`firstFailure_append`, `firstFailure_bind`), and a check that yields nothing
is the first failure of its own list of none or one (`firstFailure_failuresOf`).
-/

namespace NetNode

/-- The first of a list of failures, or, when there is none, what comes after. -/
def firstFailure {ε α : Type} (fails : List ε) (next : Except ε α) : Except ε α :=
  match fails with
  | e :: _ => .error e
  | [] => next

/-- The failure of a check that yields nothing, as a list of none or one. -/
def failuresOf {ε : Type} : Except ε Unit → List ε
  | .ok () => []
  | .error e => [e]

section FirstFailure

variable {ε α β : Type}

@[simp] theorem firstFailure_nil (next : Except ε α) : firstFailure [] next = next := rfl

@[simp] theorem firstFailure_cons (e : ε) (fails : List ε) (next : Except ε α) :
    firstFailure (e :: fails) next = .error e := rfl

theorem firstFailure_append (f g : List ε) (next : Except ε α) :
    firstFailure (f ++ g) next = firstFailure f (firstFailure g next) := by
  cases f <;> rfl

theorem firstFailure_bind (fails : List ε) (x : Except ε α) (k : α → Except ε β) :
    firstFailure fails x >>= k = firstFailure fails (x >>= k) := by
  cases fails <;> rfl

theorem ok_bind (a : α) (k : α → Except ε β) : (Except.ok a >>= k) = k a := rfl

theorem error_bind (e : ε) (k : α → Except ε β) : (Except.error e >>= k) = .error e := rfl

theorem firstFailure_eq_ok (fails : List ε) (a b : α) :
    firstFailure fails (.ok a) = .ok b ↔ fails = [] ∧ a = b := by
  cases fails <;> simp [firstFailure]

theorem firstFailure_eq_error (fails : List ε) (a : α) (e : ε) :
    firstFailure fails (.ok a) = .error e ↔ fails.head? = some e := by
  cases fails <;> simp [firstFailure]

theorem firstFailure_failuresOf (x : Except ε Unit) : firstFailure (failuresOf x) (.ok ()) = x := by
  cases x <;> rfl

theorem failuresOf_eq_nil (x : Except ε Unit) : failuresOf x = [] ↔ x = .ok () := by
  cases x <;> simp [failuresOf]

end FirstFailure

end NetNode
