import TestkubeExpressions.Engine.Cast
import TestkubeExpressions.Stdlib.ReturnType

set_option autoImplicit false

/-! # Static types across a pass

`Expression.Type()` is optimistic: a call has the type its function declares. One
resolution pass keeps it, provided no machine of the chain answers a built-in function that
declares a type (`KeepsDeclaredTypes`): a call is then answered by its handler, whose result
has the declared type — with the one exception of `join` on `none` — and a call that does
not reduce stays a call of the same function (`resolve_keeps_static_type`).

The cast helpers leave out the cast when the operand's static type is the target type. By
the preservation theorem the cast is never needed there: `CastToBool` and `CastToInt`
agree with `bool` and `int` on every operand, and `CastToString` with `string` on every
operand but a call of `join` that gives `none` (`casts_agree_when_types_declared`).
-/

namespace TestkubeExpressions

/-- No machine of the chain answers a built-in function that declares a return type. -/
def KeepsDeclaredTypes (machines : List Machine) : Prop :=
  ∀ name args, getStdFunctionReturnType name ≠ .unknown → callChain machines name args = .ok none

theorem lookup_of_returnType_ne_unknown {name : String}
    (h : getStdFunctionReturnType name ≠ .unknown) :
    ∃ fn, stdFunctions.lookup name = some fn ∧ fn.returnType = getStdFunctionReturnType name := by
  unfold getStdFunctionReturnType at h ⊢
  cases hl : stdFunctions.lookup name with
  | none => simp [hl] at h
  | some fn => exact ⟨fn, rfl, rfl⟩

variable (lib : GoLib) (eng : Engine)

/-- A handler with a declared type returns an expression of that type, `join` of `none`
apart. -/
theorem handler_type {name : String} {fn : StdFunction} (hfn : stdFunctions.lookup name = some fn)
    (ht : fn.returnType ≠ .unknown) {vs : List Value} {r : Expression}
    (h : fn.handler lib eng vs = .ok r) :
    r.type = fn.returnType ∨ (name = "join" ∧ r = .static .none) := by
  by_cases hjoin : name = "join"
  · subst hjoin
    obtain rfl : fn = ⟨.string, fun lib _ => stdJoin lib⟩ := Option.some.inj hfn.symm
    rcases stdJoin_returns lib vs r h with ⟨v, rfl, hv⟩ | ⟨-, rfl⟩
    · exact .inl hv
    · exact .inr ⟨rfl, rfl⟩
  · obtain ⟨v, rfl, hv⟩ := returnsType_of_mem lib eng (name, fn) (mem_of_lookup_eq_some hfn) hjoin ht vs r h
    exact .inl hv

/-- **One pass keeps the static type.** Under machines that do not answer a function with a
declared type, a pass that succeeds on an expression of known static type returns an
expression of the same type, or `none` for a call of `join`. -/
theorem resolveWith_preserves_type {machines : List Machine} (hm : KeepsDeclaredTypes machines)
    {e r : Expression} (hT : e.type ≠ .unknown) (hr : resolveWith lib eng machines e = .ok r) :
    r.type = e.type ∨ (∃ args, e = .call "join" args ∧ r = .static .none) := by
  match e, hT, hr with
  | .static v, _, hr =>
      rw [resolveWith_static, Except.ok.injEq] at hr
      exact .inl (congrArg Expression.type hr.symm)
  | .variable _, hT, _ => exact absurd rfl hT
  | .accessor _ _, hT, _ => exact absurd rfl hT
  | .call name args, hT, hr =>
      obtain ⟨fn, hfn, hty⟩ := lookup_of_returnType_ne_unknown hT
      simp only [resolveWith] at hr
      split at hr
      · split at hr
        · rename_i vs _
          rw [callChain_append_of_none _ (hm name _ hT), callChain_stdLib lib eng hfn] at hr
          cases hh : fn.handler lib eng vs with
          | error err => simp [hh, Except.map] at hr
          | ok r' =>
              obtain rfl : r' = r := by simpa [hh, Except.map] using hr
              rcases handler_type lib eng hfn (hty ▸ hT) hh with h | ⟨rfl, rfl⟩
              · exact .inl (h.trans hty)
              · exact .inr ⟨args, rfl, rfl⟩
        · cases hr
          exact .inl rfl
      · cases hr

/-- **Resolution keeps the static type, `join` of `none` apart.** Take machines that do not
answer a built-in function that declares a return type. When `Expression.Resolve` succeeds
on an expression whose static type is known, its result has that static type, or the
expression is a call of `join` and the result is `none`. -/
theorem resolve_keeps_static_type (syn : Syntax) (fuel : Nat) (machines : List Machine)
    (hm : KeepsDeclaredTypes machines) (e r : Expression) (hT : e.type ≠ .unknown)
    (hr : resolve lib syn fuel machines e = .ok r) :
    r.type = e.type ∨ (∃ args, e = .call "join" args ∧ r = .static .none) := by
  obtain ⟨eng, heng⟩ := resolve_eq_resolveWith lib syn fuel
  exact resolveWith_preserves_type lib eng hm hT (heng ▸ hr)

/-- No machine at all keeps the declared types; `len` of a string keeps `int64`. -/
theorem resolve_keeps_static_type_len :
    KeepsDeclaredTypes [] ∧ (Expression.call "len" [.static (.string [97])]).type ≠ .unknown ∧
    resolve GoLib.trivial Syntax.inert 0 [] (.call "len" [.static (.string [97])]) =
      .ok (.static (.int 1)) ∧
    ((Expression.static (.int 1)).type = (Expression.call "len" [.static (.string [97])]).type ∨
      ∃ args, Expression.call "len" [.static (.string [97])] = .call "join" args ∧
        Expression.static (.int 1) = .static .none) :=
  ⟨fun _ _ _ => rfl, by decide, rfl,
    resolve_keeps_static_type GoLib.trivial Syntax.inert 0 [] (fun _ _ _ => rfl) _ _ (by decide) rfl⟩

/-! ## The elided casts -/

section casts

variable {machines : List Machine} (hm : KeepsDeclaredTypes machines)
include hm

/-- An operand whose static type is `T` resolves to a value of type `T`, or it is a call
of `join` that gives `none`. -/
theorem value_type_of_static_type {e : Expression} {v : Value} {T : ExprType}
    (he : resolveWith lib eng machines e = .ok (.static v)) (hT : e.type = T) (hTu : T ≠ .unknown) :
    v.type = T ∨ (∃ args, e = .call "join" args) ∧ v = .none := by
  subst hT
  rcases resolveWith_preserves_type lib eng hm hTu he with h | ⟨args, rfl, hv⟩
  · exact .inl h
  · exact .inr ⟨⟨args, rfl⟩, Expression.static.inj hv⟩

theorem shadow_of_keepsDeclaredTypes {name : String} {fn : StdFunction}
    (hfn : stdFunctions.lookup name = some fn) (ht : fn.returnType ≠ .unknown) :
    ∀ args, callChain machines name args = .ok none := fun args =>
  hm name args (by rw [getStdFunctionReturnType, hfn]; exact ht)

end casts

/-- **The elided casts are never needed, `join` of `none` apart.** Take machines that do
not answer a built-in function that declares a return type, and an expression `e` that
resolves to a static value `v`. Then `CastToBool(e)` and `CastToInt(e)` resolve exactly as
`bool(v)` and `int(v)` do, and `CastToString(e)` as `string(v)` does unless `e` is a call
of `join` and `v` is `none`. -/
theorem casts_agree_when_types_declared (syn : Syntax) (fuel : Nat) (machines : List Machine)
    (hm : KeepsDeclaredTypes machines) (e : Expression) (v : Value)
    (he : resolve lib syn fuel machines e = .ok (.static v)) :
    (∀ r, resolve lib syn fuel machines (castToBool e) = .ok r ↔ stdBool lib [v] = .ok r) ∧
    (∀ r, resolve lib syn fuel machines (castToInt e) = .ok r ↔ stdInt lib [v] = .ok r) ∧
    ((∀ args, e = .call "join" args → v ≠ .none) →
      ∀ r, resolve lib syn fuel machines (castToString lib e) = .ok r ↔ stdString lib [v] = .ok r) := by
  obtain ⟨eng, heng⟩ := resolve_eq_resolveWith lib syn fuel
  rw [heng] at he ⊢
  have hbool : e.type = .bool → v.type = .bool := fun ht =>
    (value_type_of_static_type lib eng hm he ht (by decide)).resolve_right
      fun ⟨⟨args, hj⟩, _⟩ => by subst hj; cases ht
  have hint : e.type = .int64 → v.type = .int64 := fun ht =>
    (value_type_of_static_type lib eng hm he ht (by decide)).resolve_right
      fun ⟨⟨args, hj⟩, _⟩ => by subst hj; cases ht
  refine ⟨fun r => ?_, fun r => ?_, fun hjoin r => ?_⟩
  · rw [castToBool, resolveWith_castTo lib eng lookup_boolCastStdFn
      (shadow_of_keepsDeclaredTypes hm lookup_boolCastStdFn (by decide)) he]
    split_ifs with ht
    · rw [stdBool_of_type lib (hbool ht)]
    · rfl
  · rw [castToInt, resolveWith_castTo lib eng lookup_intCastStdFn
      (shadow_of_keepsDeclaredTypes hm lookup_intCastStdFn (by decide)) he]
    split_ifs with ht
    · rw [stdInt_of_type lib (hint ht)]
    · rfl
  · refine resolveWith_castToString lib eng
      (shadow_of_keepsDeclaredTypes hm lookup_stringCastStdFn (by decide)) he (fun _ ht => ?_) r
    rcases value_type_of_static_type lib eng hm he ht (by decide) with h | ⟨⟨args, hj⟩, hv⟩
    · exact h
    · exact absurd hv (hjoin args hj)

theorem casts_agree_when_types_declared_on_len :
    KeepsDeclaredTypes [] ∧
    resolve GoLib.trivial Syntax.inert 0 [] (.call "len" [.static (.string [97])]) =
      .ok (.static (.int 1)) ∧
    (∀ r, resolve GoLib.trivial Syntax.inert 0 [] (castToBool (.call "len" [.static (.string [97])])) =
      .ok r ↔ stdBool GoLib.trivial [.int 1] = .ok r) ∧
    (∀ r, resolve GoLib.trivial Syntax.inert 0 [] (castToInt (.call "len" [.static (.string [97])])) =
      .ok r ↔ stdInt GoLib.trivial [.int 1] = .ok r) ∧
    ((∀ args, Expression.call "len" [.static (.string [97])] = .call "join" args → Value.int 1 ≠ .none) →
      ∀ r, resolve GoLib.trivial Syntax.inert 0 []
        (castToString GoLib.trivial (.call "len" [.static (.string [97])])) = .ok r ↔
        stdString GoLib.trivial [.int 1] = .ok r) :=
  ⟨fun _ _ _ => rfl, rfl,
    casts_agree_when_types_declared GoLib.trivial Syntax.inert 0 [] (fun _ _ _ => rfl) _ _ rfl⟩

/-! ## Casting twice

A cast helper returns an expression whose static type is the target type: a static string
for `CastToString` of a static value, the operand itself when its type is the target, or a
call of a cast function that declares the target type. A second cast leaves it as it is —
except `CastToFloat`, whose call of `int` declares `int64`, so that it wraps again. -/

/-- A cast of an expression whose static type is the target leaves it as it is. -/
theorem castTo_idem {target : ExprType} {fn : String} (hfn : getStdFunctionReturnType fn = target)
    (e : Expression) : castTo target fn (castTo target fn e) = castTo target fn e := by
  unfold castTo
  by_cases ht : e.type = target
  · rw [if_pos ht, if_pos ht]
  · rw [if_neg ht, if_pos (show (newCall fn [e]).type = target from hfn)]

theorem castToString_idem (e : Expression) :
    castToString lib (castToString lib e) = castToString lib e := by
  have fixed : ∀ e', e'.static? = none → e'.type = .string → castToString lib e' = e' :=
    fun e' hs ht => by simp [castToString, hs, ht]
  cases hs : e.static? with
  | some s =>
      obtain rfl := Expression.static?_eq_some.mp hs
      simp [castToString, newStringValue, newValue]
  | none =>
      by_cases ht : e.type = .string
      · rw [fixed e hs ht, fixed e hs ht]
      · have hcall : castToString lib e = newCall stringCastStdFn [e] := by simp [castToString, hs, ht]
        rw [hcall]
        exact fixed _ rfl rfl

/-- **The cast helpers are idempotent, but `CastToFloat`.** Casting twice with
`CastToString`, `CastToBool` or `CastToInt` gives what casting once gives. `CastToFloat`
of an operand that is not of type `float64` nests: it gives `int(int(e))`. -/
theorem cast_helpers_idempotent_but_float (e : Expression) :
    castToString lib (castToString lib e) = castToString lib e ∧
    castToBool (castToBool e) = castToBool e ∧
    castToInt (castToInt e) = castToInt e ∧
    (e.type ≠ .float64 →
      castToFloat (castToFloat e) = newCall intCastStdFn [newCall intCastStdFn [e]]) :=
  ⟨castToString_idem lib e, @castTo_idem .bool boolCastStdFn rfl e,
    @castTo_idem .int64 intCastStdFn rfl e, fun ht => by
      unfold castToFloat castTo
      rw [if_neg ht, if_neg (show ¬(newCall intCastStdFn [e]).type = .float64 from nofun)]⟩

theorem cast_helpers_idempotent_but_float_on_variable :
    (Expression.variable "x").type ≠ .float64 ∧
    castToString GoLib.trivial (castToString GoLib.trivial (.variable "x")) =
      castToString GoLib.trivial (.variable "x") ∧
    castToBool (castToBool (.variable "x")) = castToBool (.variable "x") ∧
    castToInt (castToInt (.variable "x")) = castToInt (.variable "x") ∧
    ((Expression.variable "x").type ≠ .float64 →
      castToFloat (castToFloat (.variable "x")) =
        newCall intCastStdFn [newCall intCastStdFn [.variable "x"]]) :=
  ⟨by decide, cast_helpers_idempotent_but_float GoLib.trivial (.variable "x")⟩

end TestkubeExpressions
