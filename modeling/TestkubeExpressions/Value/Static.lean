import TestkubeExpressions.Basic.GoInt64
import TestkubeExpressions.Basic.GoString

set_option autoImplicit false

/-! # Static values

A static value (`StaticValue`) is one resolved datum: a string, a 64-bit integer, a 64-bit
float, a boolean, `none`, an ordered sequence of values, or a mapping from string keys to
values. Go holds the datum as an `interface{}`; the model holds it as the tree `Value`, one
constructor per kind, so that exactly one kind holds at a time.

The implementation of `StaticValue` (its conversions `StringValue`, `IntValue`,
`FloatValue`, `BoolValue`, `SliceValue`, `MapValue`, the kind predicates and `Type`) is not
part of the sources at hand; it is modelled from the spec (§3, §4.2), and each definition
says so. The conversions call into Go's libraries (`strconv`, `math`, `encoding/json`,
…); those are the fields of `GoLib`, so that every result holds for every behaviour of
the libraries.

Errors are kept as what the source builds them from: `fmt.Errorf`'s format string and its
arguments, `errors.Wrap`'s message, a library's error text, or a run-time panic.
-/

namespace TestkubeExpressions

/-- A Go `float64`, by its IEEE 754 bit pattern (`math.Float64bits`). -/
structure Float64 where
  /-- The bit pattern. -/
  bits : UInt64
deriving DecidableEq, Repr

/-- `f == 0`: both zeros of IEEE 754, whatever the sign bit. -/
def Float64.isZero (f : Float64) : Bool := f.bits &&& 0x7FFFFFFFFFFFFFFF == 0

/-- The datum of a static value. -/
inductive Value where
  /-- `none` (Go's `nil`). -/
  | none
  | string (s : GoString)
  | int (i : GoInt64)
  | float (f : Float64)
  | bool (b : Bool)
  /-- A sequence (`[]interface{}`). -/
  | slice (items : List Value)
  /-- A mapping (`map[string]interface{}`); a lookup finds the first entry of its key. The
  list of entries may repeat a key, which a Go map cannot. -/
  | map (entries : List (GoString × Value))
deriving Repr

/-- The static types of the engine (`Type`; `Type` is a keyword of Lean). Sequences and
mappings have no static type of their own: they are `unknown`. -/
inductive ExprType where
  | unknown
  | string
  | int64
  | float64
  | bool
  | none
deriving DecidableEq, Repr

/-- An argument of `fmt.Errorf`. -/
inductive FmtArg (ε : Type) where
  | int (n : Int)
  | str (s : GoString)
  | value (v : Value)
  | error (e : ε)
  /-- A `nil` error passed to `%v`. -/
  | nil
deriving Repr

/-- A Go `error`, as the source builds it. -/
inductive GoError where
  /-- `fmt.Errorf(format, args...)`. -/
  | errorf (format : String) (args : List (FmtArg GoError))
  /-- `errors.Wrap(cause, message)`. -/
  | wrap (cause : GoError) (message : String)
  /-- An error returned by a library. -/
  | lib (message : GoString)
  /-- A run-time panic (a `nil` dereference, an index out of range). -/
  | panic (reason : String)
  /-- The model's fuel ran out: the Go code would still be running. -/
  | exhausted
deriving Repr

/-- What a call site returns for the error `err` of its callee when it wraps it into
`wrapped` (`fmt.Errorf(..., err)`): a run-time panic is not a Go `error` value, no call
site sees it, and it passes through unchanged. -/
def GoError.wrapUnlessPanic (err wrapped : GoError) : GoError :=
  match err with
  | .panic reason => .panic reason
  | _ => wrapped

/-- `v, _ := f()`: the value of a Go call whose error is ignored; on an error it is the
zero value the call returns beside it. -/
def valueIgnoringError {α : Type} [Inhabited α] : Except GoError α → α
  | .ok a => a
  | .error _ => default

@[simp] theorem valueIgnoringError_ok {α : Type} [Inhabited α] (a : α) :
    valueIgnoringError (.ok a : Except GoError α) = a := rfl

/-- A mapped result succeeds when the computation does. -/
theorem map_eq_ok {ε α β : Type} {f : α → β} {x : Except ε α} {b : β} :
    x.map f = .ok b ↔ ∃ a, x = .ok a ∧ f a = b := by
  cases x <;> simp [Except.map]

/-- The functions of Go's libraries that the standard library and the conversions call.
They are parameters of the model: every result is proved for all of them. -/
structure GoLib where
  /-- The conversion `float64(i)`. -/
  floatOfInt : GoInt64 → Float64
  /-- The conversion `int64(f)`. -/
  intOfFloat : Float64 → GoInt64
  /-- `math.Floor`, `math.Ceil` and `math.Round`. -/
  floor : Float64 → Float64
  ceil : Float64 → Float64
  round : Float64 → Float64
  /-- `strconv.FormatFloat(f, 'g', -1, 64)`, the text `%v` gives a float. -/
  formatFloat : Float64 → GoString
  /-- `strconv.ParseInt(s, 10, 64)`, `strconv.ParseFloat(s, 64)` and `strconv.ParseBool(s)`. -/
  parseInt : GoString → Option GoInt64
  parseFloat : GoString → Option Float64
  parseBool : GoString → Option Bool
  /-- `json.Marshal`, `json.Unmarshal`, and the same pair of `gopkg.in/yaml.v3`. -/
  jsonMarshal : Value → Except GoString GoString
  jsonUnmarshal : GoString → Except GoString Value
  yamlMarshal : Value → Except GoString GoString
  yamlUnmarshal : GoString → Except GoString Value
  /-- `strings.TrimSpace`. -/
  trimSpace : GoString → GoString
  /-- `shellquote.Join` and `shellquote.Split`. -/
  shellJoin : List GoString → GoString
  shellSplit : GoString → Except GoString (List GoString)
  /-- `gojq.Parse`: the parse error of a query, if any. -/
  jqParse : GoString → Option GoString
  /-- The run of a parsed query on a value under its ten-second deadline: the items the
  iterator emits, each a value or an error (the deadline is one). -/
  jqRun : GoString → Value → List (Except GoString Value)

/-- A library whose functions give fixed results. It stands in for Go's libraries where a
statement about a concrete input does not depend on them. -/
def GoLib.trivial : GoLib where
  floatOfInt _ := ⟨0⟩
  intOfFloat _ := 0
  floor f := f
  ceil f := f
  round f := f
  formatFloat _ := []
  parseInt _ := none
  parseFloat _ := none
  parseBool _ := none
  jsonMarshal _ := .ok []
  jsonUnmarshal _ := .ok .none
  yamlMarshal _ := .ok []
  yamlUnmarshal _ := .ok .none
  trimSpace s := s
  shellJoin _ := []
  shellSplit _ := .ok []
  jqParse _ := none
  jqRun _ _ := []

namespace Value

variable (lib : GoLib)

/-! ## Kinds -/

/-- Modelled from the spec: `StaticValue.IsNone`. -/
def isNone : Value → Bool
  | .none => true
  | _ => false

/-- Modelled from the spec: `StaticValue.IsString`. -/
def isString : Value → Bool
  | .string _ => true
  | _ => false

/-- Modelled from the spec: `StaticValue.IsSlice`. -/
def isSlice : Value → Bool
  | .slice _ => true
  | _ => false

/-- Modelled from the spec: `StaticValue.IsMap`. -/
def isMap : Value → Bool
  | .map _ => true
  | _ => false

/-- Modelled from the spec: `StaticValue.Type`, the static type of a value's kind. -/
def type : Value → ExprType
  | .none => .none
  | .string _ => .string
  | .int _ => .int64
  | .float _ => .float64
  | .bool _ => .bool
  | .slice _ | .map _ => .unknown

/-! ## Conversions -/

/-- The error of a conversion the value's kind does not allow. -/
def unsupported (target : String) (v : Value) : GoError :=
  .errorf ("unsupported value passed for casting to " ++ target ++ ": %v") [.value v]

/-- Modelled from the spec: `StaticValue.StringValue` (the helper `toString`): a string is
itself, `none` is empty, numbers and booleans are their `%v` text, and sequences and
mappings their JSON. -/
def stringValue : Value → Except GoError GoString
  | .none => .ok []
  | .string s => .ok s
  | .int i => .ok (GoString.ofString (toString i.val))
  | .float f => .ok (lib.formatFloat f)
  | .bool b => .ok (GoString.ofString (if b then "true" else "false"))
  | v@(.slice _) | v@(.map _) => (lib.jsonMarshal v).mapError GoError.lib

/-- Modelled from the spec: `StaticValue.IntValue` (the helper `toInt`): a float is
truncated toward zero, a string is parsed, a boolean is `1` or `0`. -/
def intValue : Value → Except GoError GoInt64
  | .none => .ok 0
  | .int i => .ok i
  | .float f => .ok (lib.intOfFloat f)
  | .bool b => .ok (if b then 1 else 0)
  | v@(.string s) => match lib.parseInt s with
    | some i => .ok i
    | Option.none => .error (unsupported "int" v)
  | v@(.slice _) | v@(.map _) => .error (unsupported "int" v)

/-- Modelled from the spec: `StaticValue.FloatValue` (the helper `toFloat`): an integer is
converted, a string is parsed, a boolean is `1` or `0`. -/
def floatValue : Value → Except GoError Float64
  | .none => .ok ⟨0⟩
  | .float f => .ok f
  | .int i => .ok (lib.floatOfInt i)
  | .bool b => .ok (lib.floatOfInt (if b then 1 else 0))
  | v@(.string s) => match lib.parseFloat s with
    | some f => .ok f
    | Option.none => .error (unsupported "float" v)
  | v@(.slice _) | v@(.map _) => .error (unsupported "float" v)

/-- Modelled from the spec: `StaticValue.BoolValue` (the helper `toBool`): a number is true
when it is not zero, a string is parsed. -/
def boolValue : Value → Except GoError Bool
  | .none => .ok false
  | .bool b => .ok b
  | .int i => .ok (i.val != 0)
  | .float f => .ok (!f.isZero)
  | v@(.string s) => match lib.parseBool s with
    | some b => .ok b
    | Option.none => .error (unsupported "bool" v)
  | v@(.slice _) | v@(.map _) => .error (unsupported "bool" v)

/-- Modelled from the spec: `StaticValue.SliceValue`: the items of a sequence; `none` is
the empty (`nil`) sequence. -/
def sliceValue : Value → Except GoError (List Value)
  | .none => .ok []
  | .slice items => .ok items
  | v => .error (unsupported "slice" v)

/-- Modelled from the spec: `StaticValue.MapValue`: the entries of a mapping; `none` is the
empty (`nil`) mapping. -/
def mapValue : Value → Except GoError (List (GoString × Value))
  | .none => .ok []
  | .map entries => .ok entries
  | v => .error (unsupported "map" v)

@[simp] theorem stringValue_string (s : GoString) : stringValue lib (.string s) = .ok s := rfl
@[simp] theorem intValue_int (i : GoInt64) : intValue lib (.int i) = .ok i := rfl
@[simp] theorem floatValue_float (f : Float64) : floatValue lib (.float f) = .ok f := rfl
@[simp] theorem boolValue_bool (b : Bool) : boolValue lib (.bool b) = .ok b := rfl
@[simp] theorem sliceValue_slice (items : List Value) : sliceValue (.slice items) = .ok items := rfl
@[simp] theorem mapValue_map (entries : List (GoString × Value)) :
    mapValue (.map entries) = .ok entries := rfl

end Value

end TestkubeExpressions
