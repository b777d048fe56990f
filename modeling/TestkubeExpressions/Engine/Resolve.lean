import TestkubeExpressions.Stdlib.Functions

set_option autoImplicit false

/-! # Resolution

`Expression.Resolve` reduces an expression in one bottom-up pass against a chain of
machines, with the standard library after them (§4.3 of the spec; the implementation is
not part of the sources at hand, and everything here is modelled from the spec):

* a static value is already reduced;
* a variable is looked up along the chain; a name no machine knows stays a variable,
  which is not an error;
* an accessor reads an item of a static sequence at an integer index, or the value of a
  static mapping under a string key (`none` when it is missing);
* a call whose arguments are all static is answered by the first machine that knows the
  function; a function that no machine knows is an error.

The spec's operator nodes (`and`, `or`, `not`, comparison, arithmetic, concatenation) are
sugar over builtin operators that it does not define and that the table of the sources
does not hold; they are not modelled, and neither is the short-circuit of `and`/`or`.

The parser `Compile` and the printer `Expression.String` are parameters (`Syntax`): the
spec fixes only their round trip. The standard library's `map` and `filter` resolve
expressions of their own; `resolve` bounds how deeply they nest with `fuel`, and a nested
resolution without fuel fails with `exhausted`.
-/

namespace TestkubeExpressions

/-- Modelled from the spec: the parser `Compile` and the printer `Expression.String`. -/
structure Syntax where
  compile : GoString → Except GoError Expression
  string : Expression → GoString

/-- A syntax that compiles no text and prints every expression as the empty text. It stands
in for the syntax where a statement about a concrete input does not depend on it. -/
def Syntax.inert : Syntax := ⟨fun _ => .error .exhausted, fun _ => []⟩

/-- Modelled from the spec: `Get` along a chain of machines; the first machine that knows
the name answers. -/
def getChain : List Machine → String → Except GoError (Option Expression)
  | [], _ => .ok none
  | m :: ms, name =>
    match m.get name with
    | .ok (some e) => .ok (some e)
    | .ok none => getChain ms name
    | .error err => .error err

/-- Modelled from the spec: `Call` along a chain of machines; the first machine that knows
the function answers. -/
def callChain : List Machine → String → List Value → Except GoError (Option Expression)
  | [], _, _ => .ok none
  | m :: ms, name, args =>
    match m.call name args with
    | .ok (some e) => .ok (some e)
    | .ok none => callChain ms name args
    | .error err => .error err

/-- Modelled from the spec: the accessor on static values, with no conversion of the key:
an item of a sequence at an integer index (an error citing the length and the index
outside the sequence), or the value of a mapping under a string key (`none` when it is
missing). Any other base or kind of key is an error. -/
def access (base key : Value) : Except GoError Expression :=
  match base, key with
  | .slice items, .int k =>
    match if 0 ≤ k.val then items[k.val.toNat]? else none with
    | some item => .ok (newValue item)
    | none => .error (.errorf "index out of bounds (length=%d, index=%d)" [.int items.length, .int k.val])
  | .map entries, .string k => .ok (newValue ((entries.lookup k).getD .none))
  | _, _ => .error (.errorf "cannot access %s by %s" [.value base, .value key])

/-- The values of resolved arguments when all of them are static. -/
def staticValues : List Expression → Option (List Value)
  | [] => some []
  | e :: es => e.static?.bind fun v => (staticValues es).map (v :: ·)

/-- The error of a call no machine answers. -/
def functionNotFound (name : String) : GoError :=
  .errorf "function not found: %s" [.str (GoString.ofString name)]

variable (lib : GoLib)

mutual

/-- Modelled from the spec: one resolution pass of an expression against `machines` and
then the standard library, whose `map`, `filter` and `eval` use `eng`. -/
def resolveWith (eng : Engine) (machines : List Machine) : Expression → Except GoError Expression
  | .static v => .ok (.static v)
  | .variable name =>
    match getChain machines name with
    | .ok (some e) => .ok e
    | .ok none => .ok (.variable name)
    | .error err => .error err
  | .accessor base key =>
    match resolveWith eng machines base, resolveWith eng machines key with
    | .ok b, .ok k =>
      match b.static?, k.static? with
      | some bv, some kv => access bv kv
      | _, _ => .ok (.accessor b k)
    | .error err, _ => .error err
    | .ok _, .error err => .error err
  | .call name args =>
    match resolveArgs eng machines args with
    | .ok args' =>
      match staticValues args' with
      | some vs =>
        match callChain (machines ++ [stdLibMachine lib eng]) name vs with
        | .ok (some e) => .ok e
        | .ok none => .error (functionNotFound name)
        | .error err => .error err
      | none => .ok (.call name args')
    | .error err => .error err

/-- `resolveWith` on the arguments of a call, left to right. -/
def resolveArgs (eng : Engine) (machines : List Machine) :
    List Expression → Except GoError (List Expression)
  | [] => .ok []
  | e :: es =>
    match resolveWith eng machines e with
    | .ok e' => (resolveArgs eng machines es).map (e' :: ·)
    | .error err => .error err

end

/-- Modelled from the spec: `Expression.Resolve(machines...)`. The engine the standard
library resolves with has `fuel - 1` for its own resolutions. -/
def resolve (syn : Syntax) : Nat → List Machine → Expression → Except GoError Expression
  | 0 => resolveWith lib ⟨syn.compile, syn.string, fun _ _ => .error .exhausted⟩
  | fuel + 1 => resolveWith lib ⟨syn.compile, syn.string, fun m e => resolve syn fuel [m] e⟩

/-- `resolve` is one pass with the engine of its fuel. -/
theorem resolve_eq_resolveWith (syn : Syntax) (fuel : Nat) :
    ∃ eng, resolve lib syn fuel = resolveWith lib eng := by
  cases fuel <;> exact ⟨_, rfl⟩

/-! ## The cases of a pass -/

section cases

variable {lib} (eng : Engine) (machines : List Machine)

@[simp] theorem resolveWith_static (v : Value) :
    resolveWith lib eng machines (.static v) = .ok (.static v) := by
  simp [resolveWith]

/-- A variable a machine knows is replaced by its expression. -/
theorem resolveWith_variable_of_known {name : String} {e : Expression}
    (h : getChain machines name = .ok (some e)) :
    resolveWith lib eng machines (.variable name) = .ok e := by
  simp [resolveWith, h]

/-- A call of one argument that resolves to a static value is answered along the chain,
then by the standard library. -/
theorem resolveWith_call_single {name : String} {e : Expression} {v : Value}
    (he : resolveWith lib eng machines e = .ok (.static v)) :
    resolveWith lib eng machines (.call name [e]) =
      match callChain (machines ++ [stdLibMachine lib eng]) name [v] with
      | .ok (some r) => .ok r
      | .ok none => .error (functionNotFound name)
      | .error err => .error err := by
  simp [resolveWith, resolveArgs, he, staticValues, Except.map, Expression.static?]

end cases

/-- Machines that do not know a function leave its call to the rest of the chain. -/
theorem callChain_append_of_none {machines : List Machine} (rest : List Machine) {name : String}
    {args : List Value} (h : callChain machines name args = .ok none) :
    callChain (machines ++ rest) name args = callChain rest name args := by
  induction machines with
  | nil => rfl
  | cons m ms ih =>
      simp only [callChain] at h
      simp only [List.cons_append, callChain]
      split at h <;> simp_all

/-- The standard library answers a call of a built-in function with its handler. -/
theorem callChain_stdLib (eng : Engine) {name : String} {fn : StdFunction}
    (hfn : stdFunctions.lookup name = some fn) (args : List Value) :
    callChain [stdLibMachine lib eng] name args = (fn.handler lib eng args).map some := by
  simp only [callChain, stdLibMachine, hfn]
  cases fn.handler lib eng args <;> rfl

/-- **A call of a built-in function that the machines do not shadow** runs the function's
handler on the static value of its argument. -/
theorem resolveWith_call_std (eng : Engine) {machines : List Machine} {name : String}
    {fn : StdFunction} (hfn : stdFunctions.lookup name = some fn)
    (hshadow : ∀ args, callChain machines name args = .ok none) {e : Expression} {v : Value}
    (he : resolveWith lib eng machines e = .ok (.static v)) :
    resolveWith lib eng machines (.call name [e]) = fn.handler lib eng [v] := by
  rw [resolveWith_call_single eng machines he, callChain_append_of_none _ (hshadow _),
    callChain_stdLib lib eng hfn]
  cases fn.handler lib eng [v] <;> rfl

end TestkubeExpressions
