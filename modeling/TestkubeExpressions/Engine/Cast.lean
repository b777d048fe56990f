import TestkubeExpressions.Engine.Resolve

set_option autoImplicit false

/-! # The cast helpers

`CastToString`, `CastToBool`, `CastToInt` and `CastToFloat` wrap an expression in a call of
a cast function of the standard library, unless the expression's static type is already
the target type; `CastToString` converts a static expression at once. The static type
(`Expression.Type`) is optimistic: a call's type is the return type its function
declares, so the elided cast is right exactly when the value has that type.

This module resolves each helper: to the operand's value where the cast is elided, to the
cast function's result on it otherwise (`resolveWith_castTo`, `resolveWith_castToString`).
`CastToFloat` differs from its siblings in one point: it wraps in a call of `int`, so an
integer operand stays an integer (`castToFloat_of_int_gives_int`). `Engine/Typing.lean`
shows that the other three agree with their cast functions.
-/

namespace TestkubeExpressions

/-- Modelled from the spec: `Expression.Type()`, the best-effort static type: the type of a
static value, the declared return type of a call, and `TypeUnknown` otherwise. -/
def Expression.type : Expression → ExprType
  | .static v => v.type
  | .call name _ => getStdFunctionReturnType name
  | _ => .unknown

/-- Modelled from the spec: `newCall(name, args)`, the call node. -/
def newCall (name : String) (args : List Expression) : Expression := .call name args

/-- Modelled from the spec: `NewStringValue(value)`, the static string holding the text of
the value (its conversion error ignored). -/
def newStringValue (lib : GoLib) (v : Value) : Expression :=
  newValue (.string (valueIgnoringError (v.stringValue lib)))

def stringCastStdFn : String := "string"
def boolCastStdFn : String := "bool"
def intCastStdFn : String := "int"
def floatCastStdFn : String := "float"

/-- `CastToString`. -/
def castToString (lib : GoLib) (v : Expression) : Expression :=
  match v.static? with
  | some s => newStringValue lib s
  | none => if v.type = .string then v else newCall stringCastStdFn [v]

/-- The cast helpers other than `CastToString`: the expression itself when its static type
is `target`, otherwise a call of the cast function `fn` on it. -/
def castTo (target : ExprType) (fn : String) (v : Expression) : Expression :=
  if v.type = target then v else newCall fn [v]

/-- `CastToBool`. -/
def castToBool : Expression → Expression := castTo .bool boolCastStdFn

/-- `CastToInt`. -/
def castToInt : Expression → Expression := castTo .int64 intCastStdFn

/-- `CastToFloat`, which calls `intCastStdFn`, as the source does. -/
def castToFloat : Expression → Expression := castTo .float64 intCastStdFn

theorem lookup_stringCastStdFn :
    stdFunctions.lookup stringCastStdFn = some ⟨.string, fun lib _ => stdString lib⟩ := rfl

theorem lookup_boolCastStdFn :
    stdFunctions.lookup boolCastStdFn = some ⟨.bool, fun lib _ => stdBool lib⟩ := rfl

theorem lookup_intCastStdFn :
    stdFunctions.lookup intCastStdFn = some ⟨.int64, fun lib _ => stdInt lib⟩ := rfl

variable (lib : GoLib)

/-! ## Resolving a cast -/

section resolveCast

variable (eng : Engine) {machines : List Machine} {e : Expression} {v : Value}

/-- A cast helper resolves to the value when it elides the cast, and to the cast
function's result on the value otherwise. -/
theorem resolveWith_castTo {target : ExprType} {name : String} {fn : StdFunction}
    (hfn : stdFunctions.lookup name = some fn)
    (hshadow : ∀ args, callChain machines name args = .ok none)
    (he : resolveWith lib eng machines e = .ok (.static v)) :
    resolveWith lib eng machines (castTo target name e) =
      if e.type = target then .ok (.static v) else fn.handler lib eng [v] := by
  unfold castTo newCall
  split_ifs
  · exact he
  · exact resolveWith_call_std lib eng hfn hshadow he

/-- The casts `bool` and `int` give a value of their own type back. -/
theorem stdBool_of_type (h : v.type = .bool) : stdBool lib [v] = .ok (.static v) := by
  cases v <;> simp_all [Value.type]; rfl

theorem stdInt_of_type (h : v.type = .int64) : stdInt lib [v] = .ok (.static v) := by
  cases v <;> simp_all [Value.type]; rfl

/-- The cast `string` gives the static string of the value's text. -/
theorem stdString_single (v : Value) : stdString lib [v] = .ok (newStringValue lib v) := by
  simp [stdString, newStringValue]

theorem resolveWith_castToString (hshadow : ∀ args, callChain machines stringCastStdFn args = .ok none)
    (he : resolveWith lib eng machines e = .ok (.static v))
    (htype : e.static? = none → e.type = .string → v.type = .string) (r : Expression) :
    resolveWith lib eng machines (castToString lib e) = .ok r ↔ stdString lib [v] = .ok r := by
  unfold castToString
  cases hs : e.static? with
  | some s =>
      obtain rfl := Expression.static?_eq_some.mp hs
      obtain rfl : s = v := by simpa using he
      simp [stdString_single, newStringValue, newValue]
  | none =>
      simp only
      split_ifs with ht
      · obtain ⟨t, rfl⟩ : ∃ t, v = .string t := by
          have := htype hs ht
          cases v <;> simp_all [Value.type]
        simp [he, stdString_single, newStringValue, newValue]
      · rw [newCall, resolveWith_call_std lib eng lookup_stringCastStdFn hshadow he]

end resolveCast

/-! ## `CastToFloat` -/

/-- A variable bound to the int `3`, cast with `CastToFloat`, resolves to the int `3`, while
the cast `float` gives a `float64` for it. -/
theorem castToFloat_of_int_gives_int (syn : Syntax) (fuel : Nat) :
    resolve lib syn fuel [newMachine.register "x" (.int 3)] (castToFloat (.variable "x")) =
      .ok (.static (.int 3)) ∧
    ∃ f, stdFloat lib [.int 3] = .ok (.static (.float f)) := by
  obtain ⟨eng, heng⟩ := resolve_eq_resolveWith lib syn fuel
  have hx : resolveWith lib eng [newMachine.register "x" (.int 3)] (.variable "x") =
      .ok (.static (.int 3)) := resolveWith_variable_of_known eng _ rfl
  have hs : ∀ args, callChain [newMachine.register "x" (.int 3)] intCastStdFn args = .ok none :=
    fun _ => rfl
  refine ⟨?_, _, rfl⟩
  rw [heng, castToFloat, resolveWith_castTo lib eng lookup_intCastStdFn hs hx, if_neg (by decide)]
  rfl

end TestkubeExpressions
