import TestkubeExpressions.Expression.Basic

set_option autoImplicit false

/-! # The standard library

`stdFunctions`, the table of the built-in functions, with one definition per handler in
the order of the source. A handler receives the static arguments of a call and returns an
expression or an error. Every handler checks its number of arguments first; the error
texts are the source's. The handlers `map`, `filter` and `eval` compile and resolve
expressions of their own through the `Engine`; the others only convert values. Where the
source wraps the engine's error with `fmt.Errorf`, a panic of the engine is not such an
error and passes through unchanged (`GoError.wrapUnlessPanic`).

Families of handlers that differ only in a name, a conversion or a library function
(`int`/`bool`/`float`, `tojson`/`toyaml`, `json`/`yaml`, `floor`/`ceil`/`round`) are one
definition with parameters, and each member is that definition at the member's values.
-/

namespace TestkubeExpressions

variable (lib : GoLib)

/-- An error of `fmt.Errorf` with one `%d` argument, as every arity check builds it. -/
def arityError (format : String) (n : Nat) : GoError := .errorf format [.int n]

/-- The text `","`, the default separator of `join` and `split`. -/
def comma : GoString := GoString.ofString ","

/-- `"string"`: the concatenation of the texts of all arguments; a conversion error gives
the empty text. -/
def stdString (value : List Value) : Except GoError Expression :=
  .ok (newValue (.string (value.foldl (fun str v => str ++ valueIgnoringError (v.stringValue lib)) [])))

/-- `"list"`: the sequence of the arguments. -/
def stdList (value : List Value) : Except GoError Expression :=
  .ok (newValue (.slice value))

/-- The separator of `join` and `split`: the text of the second argument, or `","`. -/
def separatorArg (rest : List Value) : GoString :=
  match rest with
  | [v1] => valueIgnoringError (v1.stringValue lib)
  | _ => comma

/-- `"join"`: the texts of the items of a sequence, joined by the separator. -/
def stdJoin (value : List Value) : Except GoError Expression :=
  match value with
  | v0 :: rest =>
    if rest.length > 1 then
      .error (arityError "\"join\" function expects 1-2 arguments, %d provided" value.length)
    else if v0.isNone then .ok (.static v0)
    else if !v0.isSlice then
      .error (.errorf "\"join\" function expects a slice as 1st argument: %v provided" [.value v0])
    else match v0.sliceValue with
      | .error err => .error (.errorf "\"join\" function error: reading slice: %s" [.error err])
      | .ok items =>
        let v := items.map fun x => valueIgnoringError (x.stringValue lib)
        .ok (newValue (.string (Strings.join v (separatorArg lib rest))))
  | [] => .error (arityError "\"join\" function expects 1-2 arguments, %d provided" 0)

/-- `"split"`: the pieces of the text of the first argument between the separators. -/
def stdSplit (value : List Value) : Except GoError Expression :=
  match value with
  | v0 :: rest =>
    if rest.length > 1 then
      .error (arityError "\"split\" function expects 1-2 arguments, %d provided" value.length)
    else
      let str := valueIgnoringError (v0.stringValue lib)
      .ok (newValue (.slice ((Strings.split str (separatorArg lib rest)).map .string)))
  | [] => .error (arityError "\"split\" function expects 1-2 arguments, %d provided" 0)

/-- The handlers of the casts `int`, `bool` and `float`: one argument, converted; the
conversion's error is returned as it is. -/
def castHandler (format : String) (convert : Value → Except GoError Value)
    (value : List Value) : Except GoError Expression :=
  match value with
  | [v0] => (convert v0).map newValue
  | _ => .error (arityError format value.length)

/-- `"int"`. -/
def stdInt : List Value → Except GoError Expression :=
  castHandler "\"int\" function expects 1 argument, %d provided" fun v => (v.intValue lib).map .int

/-- `"bool"`. -/
def stdBool : List Value → Except GoError Expression :=
  castHandler "\"bool\" function expects 1 argument, %d provided" fun v => (v.boolValue lib).map .bool

/-- `"float"`. -/
def stdFloat : List Value → Except GoError Expression :=
  castHandler "\"float\" function expects 1 argument, %d provided" fun v =>
    (v.floatValue lib).map .float

/-- The handlers of `tojson` and `toyaml`: the text a marshaller gives the argument. -/
def marshalHandler (name : String) (marshal : Value → Except GoString GoString)
    (value : List Value) : Except GoError Expression :=
  match value with
  | [v0] => match marshal v0 with
    | .ok b => .ok (newValue (.string b))
    | .error err =>
      .error (.errorf ("\"" ++ name ++ "\" function had problem marshalling: %s") [.str err])
  | _ => .error (arityError ("\"" ++ name ++ "\" function expects 1 argument, %d provided")
      value.length)

/-- `"tojson"`. -/
def stdTojson : List Value → Except GoError Expression := marshalHandler "tojson" lib.jsonMarshal

/-- The handlers of `json` and `yaml`: the value an unmarshaller reads from a string. -/
def unmarshalHandler (name : String) (unmarshal : GoString → Except GoString Value)
    (value : List Value) : Except GoError Expression :=
  match value with
  | [v0] =>
    match v0 with
    | .string s => match unmarshal s with
      | .ok v => .ok (newValue v)
      | .error err =>
        .error (.errorf ("\"" ++ name ++ "\" function had problem unmarshalling: %s") [.str err])
    | _ => .error (.errorf ("\"" ++ name ++ "\" function argument should be a string") [])
  | _ => .error (arityError ("\"" ++ name ++ "\" function expects 1 argument, %d provided")
      value.length)

/-- `"json"`. -/
def stdJson : List Value → Except GoError Expression := unmarshalHandler "json" lib.jsonUnmarshal

/-- `"toyaml"`. -/
def stdToyaml : List Value → Except GoError Expression := marshalHandler "toyaml" lib.yamlMarshal

/-- `"yaml"`. -/
def stdYaml : List Value → Except GoError Expression := unmarshalHandler "yaml" lib.yamlUnmarshal

/-- `"shellquote"`: the arguments' texts, shell-quoted and joined. -/
def stdShellquote (value : List Value) : Except GoError Expression :=
  .ok (newValue (.string (lib.shellJoin (value.map fun v => valueIgnoringError (v.stringValue lib)))))

/-- `"shellargs"`: the words of a shell command line. -/
def stdShellargs (value : List Value) : Except GoError Expression :=
  match value with
  | [v0] => match lib.shellSplit (valueIgnoringError (v0.stringValue lib)) with
    | .ok words => .ok (newValue (.slice (words.map .string)))
    | .error err => .error (.lib err)
  | _ => .error (arityError "\"shellargs\" function expects 1 arguments, %d provided" value.length)

/-- `"trim"`: a string without its leading and trailing white space. -/
def stdTrim (value : List Value) : Except GoError Expression :=
  match value with
  | [v0] =>
    if !v0.isString then .error (.errorf "\"trim\" function argument should be a string" [])
    else .ok (newValue (.string (lib.trimSpace (valueIgnoringError (v0.stringValue lib)))))
  | _ => .error (arityError "\"trim\" function expects 1 argument, %d provided" value.length)

/-- `"len"`: the number of items of a sequence, bytes of a string or entries of a mapping,
as Go's `int64(len(v))`. -/
def stdLen (value : List Value) : Except GoError Expression :=
  match value with
  | [v0] =>
    if v0.isSlice then (v0.sliceValue).map fun v => newValue (.int (.ofNat v.length))
    else if v0.isString then (v0.stringValue lib).map fun v => newValue (.int (.ofNat v.length))
    else if v0.isMap then (v0.mapValue).map fun v => newValue (.int (.ofNat v.length))
    else .error (.errorf "\"len\" function expects string, slice or map, %v provided" [.value v0])
  | _ => .error (arityError "\"len\" function expects 1 argument, %d provided" value.length)

/-- The handlers of `floor`, `ceil` and `round`: the float of the argument, rounded by a
function of package `math`, as an `int64`. -/
def roundingHandler (name : String) (rounding : Float64 → Float64)
    (value : List Value) : Except GoError Expression :=
  match value with
  | [v0] => match v0.floatValue lib with
    | .ok f => .ok (newValue (.int (lib.intOfFloat (rounding f))))
    | .error err => .error (.errorf ("\"" ++ name ++ "\" function expects a number, %s provided: %v")
        [.value v0, .error err])
  | _ => .error (arityError ("\"" ++ name ++ "\" function expects 1 argument, %d provided")
      value.length)

/-- `"floor"`. -/
def stdFloor : List Value → Except GoError Expression := roundingHandler lib "floor" lib.floor

/-- `"ceil"`. -/
def stdCeil : List Value → Except GoError Expression := roundingHandler lib "ceil" lib.ceil

/-- `"round"`. -/
def stdRound : List Value → Except GoError Expression := roundingHandler lib "round" lib.round

/-- Go's slice expression `s[lo:hi]`; it panics unless `0 ≤ lo ≤ hi ≤ len(s)`. -/
def sliceExpr {α : Type} (s : List α) (lo hi : GoInt64) : Except GoError (List α) :=
  if 0 ≤ lo.val ∧ lo.val ≤ hi.val ∧ hi.val ≤ s.length then
    .ok ((s.take hi.val.toNat).drop lo.val.toNat)
  else .error (.panic "slice bounds out of range")

/-- The loop of `chunk`,
`for i := int64(0); i < l; i += size { end := i + size; if end > l { end = l }; ... }`,
from the index `i` with the chunks built so far, for at most `fuel` more iterations. -/
def chunkLoop (list : List Value) (l size : GoInt64) :
    Nat → GoInt64 → List Value → Except GoError (List Value)
  | 0, _, _ => .error .exhausted
  | fuel + 1, i, chunks =>
    if i < l then
      let end_ := if i + size > l then l else i + size
      match sliceExpr list i end_ with
      | .ok c => chunkLoop list l size fuel (i + size) (chunks ++ [.slice c])
      | .error err => .error err
    else .ok chunks

/-- `"chunk"`: the sequence cut into chunks of `size` items. The loop runs with one more
iteration of fuel than the list has items. -/
def stdChunk (value : List Value) : Except GoError Expression :=
  match value with
  | [v0, v1] =>
    match v0.sliceValue with
    | .error err => .error (.errorf
        "\"chunk\" function expects 1st argument to be a list, %s provided: %v" [.value v0, .error err])
    | .ok list =>
      match v1.intValue lib with
      | .error err => .error (.errorf
          "\"chunk\" function expects 2nd argument to be integer, %s provided: %v" [.value v1, .error err])
      | .ok size =>
        if size ≤ 0 then
          .error (.errorf "\"chunk\" function expects 2nd argument to be >= 1, %s provided: %v"
            [.value v1, .nil])
        else (chunkLoop list (.ofNat list.length) size (list.length + 1) 0 []).map
          fun chunks => newValue (.slice chunks)
  | _ => .error (arityError "\"chunk\" function expects 2 arguments, %d provided" value.length)

/-- Go's indexing `s[i]`, which panics out of range. -/
def indexExpr {α : Type} (s : List α) (i : Nat) : Except GoError α :=
  match s[i]? with
  | some x => .ok x
  | none => .error (.panic "index out of range")

/-- The error of `at` for an index outside a sequence or a string. -/
def outOfBounds (length : Nat) (k : GoInt64) : GoError :=
  .errorf "\"at\" function: error: out of bounds (length=%d, index=%d)" [.int length, .int k.val]

/-- `"at"`: the item of a sequence or the byte of a string at an integer index, or the value
of a mapping at a key (`none` when the key is missing). The byte is a Go `uint8` that
`NewValue` wraps as such; the model has no kind for it and holds it as the 64-bit integer
of the same number. -/
def stdAt (value : List Value) : Except GoError Expression :=
  match value with
  | [v0, v1] =>
    if v0.isSlice then
      let v := valueIgnoringError v0.sliceValue
      match v1.intValue lib with
      | .error _ => .error (.errorf
          "\"at\" function expects 2nd argument to be number for list, %s provided" [.value v1])
      | .ok k =>
        if k ≥ 0 ∧ k < .ofNat v.length then (indexExpr v k.val.toNat).map newValue
        else .error (outOfBounds v.length k)
    else if v0.isMap then
      let v := valueIgnoringError v0.mapValue
      let k := valueIgnoringError (v1.stringValue lib)
      match v.lookup k with
      | some item => .ok (newValue item)
      | none => .ok (newValue .none)
    else if v0.isString then
      let v := valueIgnoringError (v0.stringValue lib)
      match v1.intValue lib with
      | .error _ => .error (.errorf
          "\"at\" function expects 2nd argument to be number for string, %s provided" [.value v1])
      | .ok k =>
        if k ≥ 0 ∧ k < .ofNat v.length then
          (indexExpr v k.val.toNat).map fun b => newValue (.int (.ofNat b.toNat))
        else .error (outOfBounds v.length k)
    else .error (.errorf
      "\"at\" function can be performed only on lists, maps and strings: %s provided" [.value v0])
  | _ => .error (arityError "\"at\" function expects 2 arguments, %d provided" value.length)

/-- `Compile(expr.String())` at the start of each iteration of `map` and `filter`. Its error
is ignored, and calling `Resolve` on the `nil` expression it then leaves panics (a panic of
`Compile` itself passes through). -/
def recompile (eng : Engine) (expr : Expression) : Except GoError Expression :=
  match eng.compile (eng.string expr) with
  | .ok ex => .ok ex
  | .error err =>
    .error (err.wrapUnlessPanic (.panic "invalid memory address or nil pointer dereference"))

/-- The loop of `map` from the index `i`: the texts of the resolved expressions of the
items, or the error of the first item that does not resolve (a panic passes through). -/
def mapLoop (eng : Engine) (expr : Expression) : Nat → List Value → Except GoError (List GoString)
  | _, [] => .ok []
  | i, x :: xs => do
    let ex ← recompile eng expr
    match eng.resolve (iterationMachine x i) ex with
    | .error err => .error (err.wrapUnlessPanic
        (.errorf "\"map\" function: error while mapping %d index (%v): %v" [.int i, .value x, .error err]))
    | .ok v => (mapLoop eng expr (i + 1) xs).map (eng.string v :: ·)

/-- `"map"`: the expression compiled from the second argument, resolved for each item of
the first; the texts of the results are compiled back as `list(...)`. -/
def stdMap (eng : Engine) (value : List Value) : Except GoError Expression :=
  match value with
  | [v0, v1] =>
    match v0.sliceValue with
    | .error err => .error (.errorf
        "\"map\" function expects 1st argument to be a list, %s provided: %v" [.value v0, .error err])
    | .ok list =>
      match eng.compile (valueIgnoringError (v1.stringValue lib)) with
      | .error err => .error (err.wrapUnlessPanic (.errorf
          "\"map\" function expects 2nd argument to be valid expression, \x27%s\x27 provided: %v"
          [.value v1, .error err]))
      | .ok expr => do
        let result ← mapLoop eng expr 0 list
        eng.compile (GoString.ofString "list(" ++ Strings.join result comma ++ GoString.ofString ")")
  | _ => .error (arityError "\"map\" function expects 2 arguments, %d provided" value.length)

/-- The loop of `filter` from the index `i` with the items kept so far: an item is kept
when its predicate resolves to a static value whose boolean is true. -/
def filterLoop (eng : Engine) (expr : Expression) :
    Nat → List Value → List Value → Except GoError (List Value)
  | _, [], result => .ok result
  | i, x :: xs, result => do
    let ex ← recompile eng expr
    match eng.resolve (iterationMachine x i) ex with
    | .error err => .error (err.wrapUnlessPanic
        (.errorf "\"filter\" function: error while filtering %d index (%v): %v" [.int i, .value x, .error err]))
    | .ok v =>
      match v.static? with
      | none => .error (.errorf "\"filter\" function: could not resolve filter for %d index (%v): %s"
          [.int i, .value x, .str (eng.string v)])
      | some sv =>
        match sv.boolValue lib with
        | .error err => .error (.errorf
            "\"filter\" function: could not resolve filter for %d index (%v) as boolean: %s"
            [.int i, .value x, .error err])
        | .ok b => filterLoop eng expr (i + 1) xs (if b then result ++ [x] else result)

/-- `"filter"`: the items of the first argument for which the expression compiled from the
second resolves to true. -/
def stdFilter (eng : Engine) (value : List Value) : Except GoError Expression :=
  match value with
  | [v0, v1] =>
    match v0.sliceValue with
    | .error err => .error (.errorf
        "\"filter\" function expects 1st argument to be a list, %s provided: %v" [.value v0, .error err])
    | .ok list =>
      match eng.compile (valueIgnoringError (v1.stringValue lib)) with
      | .error err => .error (err.wrapUnlessPanic (.errorf
          "\"filter\" function expects 2nd argument to be valid expression, \x27%s\x27 provided: %v"
          [.value v1, .error err]))
      | .ok expr => (filterLoop lib eng expr 0 list []).map fun result => newValue (.slice result)
  | _ => .error (arityError "\"filter\" function expects 2 arguments, %d provided" value.length)

/-- `"eval"`: the expression compiled from the argument, not resolved. -/
def stdEval (eng : Engine) (value : List Value) : Except GoError Expression :=
  match value with
  | [v0] =>
    match eng.compile (valueIgnoringError (v0.stringValue lib)) with
    | .ok expr => .ok expr
    | .error err => .error (err.wrapUnlessPanic
        (.errorf "\"eval\" function: %s: error: %v" [.value v0, .error err]))
  | _ => .error (arityError "\"eval\" function expects 1 argument, %d provided" value.length)

/-- The loop of `jq` over the items the query emits: the values, up to the first error. -/
def jqCollect : List (Except GoString Value) → Except GoError (List Value)
  | [] => .ok []
  | .error err :: _ => .error (.wrap (.lib err) "\"jq\" error: executing: %v")
  | .ok v :: rest => (jqCollect rest).map (v :: ·)

/-- `"jq"`: the values a JSON query emits on the argument, read back from its JSON. -/
def stdJq (value : List Value) : Except GoError Expression :=
  match value with
  | [v0, v1] =>
    let queryStr := valueIgnoringError (v1.stringValue lib)
    match lib.jqParse queryStr with
    | some err => .error (.errorf "\"jq\" error: could not parse the query: %s: %v"
        [.str queryStr, .str err])
    | none =>
      match lib.jsonMarshal v0 with
      | .error err => .error (.errorf "\"jq\" error: could not marshal the value: %v: %v"
          [.value v0, .str err])
      | .ok bytes =>
        let v := match lib.jsonUnmarshal bytes with
          | .ok v => v
          | .error _ => .none
        (jqCollect (lib.jqRun queryStr v)).map fun result => newValue (.slice result)
  | _ => .error (arityError "\"jq\" function expects 2 arguments, %d provided" value.length)

/-! ## The table -/

/-- `StdFunction`: a built-in function's declared return type (`TypeUnknown` when the
source declares none) and its handler. -/
structure StdFunction where
  returnType : ExprType := .unknown
  handler : GoLib → Engine → List Value → Except GoError Expression

/-- `stdFunctions`: the built-in functions by name. -/
def stdFunctions : List (String × StdFunction) :=
  [("string", { returnType := .string, handler := fun lib _ => stdString lib }),
   ("list", { handler := fun _ _ => stdList }),
   ("join", { returnType := .string, handler := fun lib _ => stdJoin lib }),
   ("split", { handler := fun lib _ => stdSplit lib }),
   ("int", { returnType := .int64, handler := fun lib _ => stdInt lib }),
   ("bool", { returnType := .bool, handler := fun lib _ => stdBool lib }),
   ("float", { returnType := .float64, handler := fun lib _ => stdFloat lib }),
   ("tojson", { returnType := .string, handler := fun lib _ => stdTojson lib }),
   ("json", { handler := fun lib _ => stdJson lib }),
   ("toyaml", { returnType := .string, handler := fun lib _ => stdToyaml lib }),
   ("yaml", { handler := fun lib _ => stdYaml lib }),
   ("shellquote", { returnType := .string, handler := fun lib _ => stdShellquote lib }),
   ("shellargs", { handler := fun lib _ => stdShellargs lib }),
   ("trim", { returnType := .string, handler := fun lib _ => stdTrim lib }),
   ("len", { returnType := .int64, handler := fun lib _ => stdLen lib }),
   ("floor", { returnType := .int64, handler := fun lib _ => stdFloor lib }),
   ("ceil", { returnType := .int64, handler := fun lib _ => stdCeil lib }),
   ("round", { returnType := .int64, handler := fun lib _ => stdRound lib }),
   ("chunk", { handler := fun lib _ => stdChunk lib }),
   ("at", { handler := fun lib _ => stdAt lib }),
   ("map", { handler := stdMap }),
   ("filter", { handler := stdFilter }),
   ("eval", { handler := stdEval }),
   ("jq", { handler := fun lib _ => stdJq lib })]

/-- The entry of a name in a table found by `lookup` is in the table. -/
theorem mem_of_lookup_eq_some {α β : Type} [BEq α] [LawfulBEq α] {l : List (α × β)} {k : α} {b : β}
    (h : l.lookup k = some b) : (k, b) ∈ l := by
  obtain ⟨l₁, l₂, rfl, -⟩ := List.lookup_eq_some_iff.mp h
  simp

/-- `IsStdFunction(name)`. -/
def isStdFunction (name : String) : Bool := (stdFunctions.lookup name).isSome

/-- `GetStdFunctionReturnType(name)`: the declared return type, `TypeUnknown` for a name
that is not in the table. -/
def getStdFunctionReturnType (name : String) : ExprType :=
  ((stdFunctions.lookup name).map (·.returnType)).getD .unknown

/-- The static values among the arguments of `CallStdFunction`; an expression that is not
static is an error. (A Go value that is neither is wrapped by `NewValue`, which is a
static expression here.) -/
def staticArgs (eng : Engine) : List Expression → Except GoError (List Value)
  | [] => .ok []
  | e :: es =>
    match e.static? with
    | some v => (staticArgs eng es).map (v :: ·)
    | none => .error (.errorf
        "expression functions can be called only with static values: %s provided" [.str (eng.string e)])

/-- `CallStdFunction(name, value...)`. -/
def callStdFunction (eng : Engine) (name : String) (value : List Expression) :
    Except GoError Expression :=
  match stdFunctions.lookup name with
  | none => .error (.errorf "function \x27%s\x27 doesn\x27t exists in standard library"
      [.str (GoString.ofString name)])
  | some fn => staticArgs eng value >>= fn.handler lib eng

/-- `StdLibMachine`: it knows no variable, and answers a call of a built-in function with
the function's handler. -/
def stdLibMachine (eng : Engine) : Machine where
  get _ := .ok none
  call name args :=
    match stdFunctions.lookup name with
    | some fn => (fn.handler lib eng args).map some
    | none => .ok none

end TestkubeExpressions
