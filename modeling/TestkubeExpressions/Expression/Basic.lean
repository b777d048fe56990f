import TestkubeExpressions.Value.Static

set_option autoImplicit false

/-! # Expressions and machines

The abstract syntax of the expression language and the machines an expression is
resolved against. Neither the syntax tree nor the machine implementation is part of the
sources at hand; both are modelled from the spec (§3, §4.3, §4.4).

An expression is a static value (a literal, or a fully reduced node), a reference to a
variable by its dotted name, an accessor, or a call of a named function on argument
expressions. The spec's operator nodes are sugar over calls of named built-in operators,
so they are calls here.

A machine answers `Get(name)` and `Call(name, args...)`; either may not know the name,
and either may fail. The standard library calls back into the package (`Compile`,
`Expression.String`, `Expression.Resolve`) for `map`, `filter` and `eval`; the three
callbacks are the fields of `Engine`.
-/

namespace TestkubeExpressions

/-- Modelled from the spec: the expression nodes of §3. -/
inductive Expression where
  /-- A static value: a literal, or a node that is fully reduced. -/
  | static (v : Value)
  /-- `VariableRef(name)`, by its dotted name. -/
  | variable (name : String)
  /-- `Accessor(base, key)`. -/
  | accessor (base key : Expression)
  /-- `Call(name, args)`. -/
  | call (name : String) (args : List Expression)
deriving Repr

/-- `NewValue(v)`: the static expression holding `v`. -/
def newValue (v : Value) : Expression := .static v

namespace Expression

/-- Modelled from the spec: `Expression.Static()`, the value of a fully reduced node. -/
def static? : Expression → Option Value
  | .static v => some v
  | _ => none

@[simp] theorem static?_static (v : Value) : (Expression.static v).static? = some v := rfl

theorem static?_eq_some {e : Expression} {v : Value} : e.static? = some v ↔ e = .static v := by
  cases e <;> simp [static?]

end Expression

/-- Modelled from the spec: the `Machine` contract of §3. `get` answers `Get(name)` and
`call` answers `Call(name, args...)`: `none` when the name is not known, an error when
the lookup or the call fails. -/
structure Machine where
  get : String → Except GoError (Option Expression)
  call : String → List Value → Except GoError (Option Expression)

/-- Modelled from the spec: `NewMachine()`, a machine that knows no name. -/
def newMachine : Machine := ⟨fun _ => .ok none, fun _ _ => .ok none⟩

/-- Modelled from the spec: `Register(name, value)`, which binds `name` to the static
value `value` over what the machine knew. -/
def Machine.register (m : Machine) (name : String) (value : Value) : Machine :=
  { m with get := fun n => if n = name then .ok (some (.static value)) else m.get n }

/-- The machine `map` and `filter` resolve their expression under for the item `x` at
index `i`: `NewMachine().Register("_.value", x).Register("_.index", i).Register("_.key", i)`.
The index is a Go `int`; the model has no kind for it and holds it as the 64-bit integer of
the same number. -/
def iterationMachine (x : Value) (i : Nat) : Machine :=
  ((newMachine.register "_.value" x).register "_.index" (.int (.ofNat i))).register "_.key"
    (.int (.ofNat i))

/-- The package functions the standard library calls back into: `Compile`,
`Expression.String` and `Expression.Resolve` with one machine. -/
structure Engine where
  compile : GoString → Except GoError Expression
  string : Expression → GoString
  resolve : Machine → Expression → Except GoError Expression

/-- An engine that compiles no text and leaves an expression as it is. It stands in for the
engine where a statement about a concrete input does not depend on it. -/
def Engine.inert : Engine := ⟨fun _ => .error .exhausted, fun _ => [], fun _ e => .ok e⟩

/-- An engine that compiles every text to `e` and leaves an expression as it is. -/
def Engine.constant (e : Expression) : Engine := ⟨fun _ => .ok e, fun _ => [], fun _ e => .ok e⟩

end TestkubeExpressions
