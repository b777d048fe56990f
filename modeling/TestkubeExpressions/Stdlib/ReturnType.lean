import TestkubeExpressions.Stdlib.Functions

set_option autoImplicit false

/-! # Declared return types

`GetStdFunctionReturnType` reports the return type a built-in function declares, and the
engine uses it for optimistic static typing, for instance to leave out a cast. Each
handler with a declared type returns, whenever it succeeds, a static value of that
type — with one exception by design: `join` returns its first argument unchanged when
that argument is `none` (`join_returns_none`), although it declares `TypeString`.
-/

namespace TestkubeExpressions

/-- The handler returns, whenever it succeeds, a static value of type `T`. -/
def ReturnsType (T : ExprType) (handler : List Value → Except GoError Expression) : Prop :=
  ∀ args r, handler args = .ok r → ∃ v, r = .static v ∧ v.type = T

variable (lib : GoLib)

theorem stdString_returns : ReturnsType .string (stdString lib) := by
  intro args r h
  exact ⟨_, (Except.ok.inj h).symm, rfl⟩

/-- A cast returns what its conversion gives. -/
theorem castHandler_returns {T : ExprType} (format : String) (convert : Value → Except GoError Value)
    (hconv : ∀ v w, convert v = .ok w → w.type = T) : ReturnsType T (castHandler format convert) := by
  intro args r h
  match args, h with
  | [v0], h =>
      obtain ⟨w, hw, rfl⟩ := map_eq_ok.mp h
      exact ⟨w, rfl, hconv _ _ hw⟩

theorem stdInt_returns : ReturnsType .int64 (stdInt lib) :=
  castHandler_returns _ _ fun _ _ h => by obtain ⟨_, -, rfl⟩ := map_eq_ok.mp h; rfl

theorem stdBool_returns : ReturnsType .bool (stdBool lib) :=
  castHandler_returns _ _ fun _ _ h => by obtain ⟨_, -, rfl⟩ := map_eq_ok.mp h; rfl

theorem stdFloat_returns : ReturnsType .float64 (stdFloat lib) :=
  castHandler_returns _ _ fun _ _ h => by obtain ⟨_, -, rfl⟩ := map_eq_ok.mp h; rfl

theorem marshalHandler_returns (name : String) (marshal : Value → Except GoString GoString) :
    ReturnsType .string (marshalHandler name marshal) := by
  intro args r h
  match args, h with
  | [v0], h =>
      simp only [marshalHandler] at h
      split at h
      · cases h; exact ⟨_, rfl, rfl⟩
      · cases h

theorem stdShellquote_returns : ReturnsType .string (stdShellquote lib) := by
  intro args r h
  exact ⟨_, (Except.ok.inj h).symm, rfl⟩

theorem stdTrim_returns : ReturnsType .string (stdTrim lib) := by
  intro args r h
  match args, h with
  | [v0], h =>
      simp only [stdTrim] at h
      split_ifs at h
      exact ⟨_, (Except.ok.inj h).symm, rfl⟩

theorem stdLen_returns : ReturnsType .int64 (stdLen lib) := by
  intro args r h
  match args, h with
  | [v0], h =>
      simp only [stdLen] at h
      split_ifs at h <;> obtain ⟨a, -, rfl⟩ := map_eq_ok.mp h <;> exact ⟨_, rfl, rfl⟩

theorem roundingHandler_returns (name : String) (rounding : Float64 → Float64) :
    ReturnsType .int64 (roundingHandler lib name rounding) := by
  intro args r h
  match args, h with
  | [v0], h =>
      simp only [roundingHandler] at h
      split at h
      · cases h; exact ⟨_, rfl, rfl⟩
      · cases h

/-- `join` returns a string, or its first argument when that is `none`. -/
theorem stdJoin_returns (args : List Value) (r : Expression) (h : stdJoin lib args = .ok r) :
    (∃ v, r = .static v ∧ v.type = .string) ∨ (args.head? = some .none ∧ r = .static .none) := by
  match args, h with
  | v0 :: rest, h =>
      simp only [stdJoin] at h
      split_ifs at h with h₁ h₂ h₃
      · cases v0 <;> simp_all [Value.isNone]
      · split at h
        · cases h
        · exact .inl ⟨_, (Except.ok.inj h).symm, rfl⟩

/-- Every entry of the table other than `join` that declares a return type keeps it. -/
theorem returnsType_of_mem (eng : Engine) :
    ∀ entry ∈ stdFunctions, entry.1 ≠ "join" → entry.2.returnType ≠ .unknown →
      ReturnsType entry.2.returnType (entry.2.handler lib eng) := by
  simp only [stdFunctions, List.mem_cons, List.mem_singleton, List.not_mem_nil, or_false,
    forall_eq_or_imp, forall_eq]
  refine ⟨fun _ _ => stdString_returns lib, fun _ h => absurd rfl h, fun h => absurd rfl h,
    fun _ h => absurd rfl h, fun _ _ => stdInt_returns lib, fun _ _ => stdBool_returns lib,
    fun _ _ => stdFloat_returns lib, fun _ _ => marshalHandler_returns _ _,
    fun _ h => absurd rfl h, fun _ _ => marshalHandler_returns _ _, fun _ h => absurd rfl h,
    fun _ _ => stdShellquote_returns lib, fun _ h => absurd rfl h, fun _ _ => stdTrim_returns lib,
    fun _ _ => stdLen_returns lib, fun _ _ => roundingHandler_returns lib _ _,
    fun _ _ => roundingHandler_returns lib _ _, fun _ _ => roundingHandler_returns lib _ _,
    fun _ h => absurd rfl h, fun _ h => absurd rfl h, fun _ h => absurd rfl h,
    fun _ h => absurd rfl h, fun _ h => absurd rfl h, fun _ h => absurd rfl h⟩

/-- **Declared return types are sound, `join` of `none` apart.** For every entry of
`stdFunctions` that declares a return type `T` and every list of arguments, a successful
call of the handler returns a static value of type `T` — except `join`, which returns
`none` when its first argument is `none`. -/
theorem declared_return_types_sound (eng : Engine) (name : String) (fn : StdFunction)
    (args : List Value) (r : Expression) (hfn : stdFunctions.lookup name = some fn)
    (htype : fn.returnType ≠ .unknown) (hr : fn.handler lib eng args = .ok r) :
    (∃ v, r = .static v ∧ v.type = fn.returnType) ∨
      (name = "join" ∧ args.head? = some .none ∧ r = .static .none) := by
  have hmem := mem_of_lookup_eq_some hfn
  by_cases hjoin : name = "join"
  · subst hjoin
    obtain rfl : fn = ⟨.string, fun lib _ => stdJoin lib⟩ := Option.some.inj hfn.symm
    rcases stdJoin_returns lib args r hr with h | h
    · exact .inl h
    · exact .inr ⟨rfl, h⟩
  · exact .inl (returnsType_of_mem lib eng (name, fn) hmem hjoin htype args r hr)

theorem declared_return_types_sound_len :
    stdFunctions.lookup "len" = some ⟨.int64, fun lib _ => stdLen lib⟩ ∧ ExprType.int64 ≠ .unknown ∧
    stdLen GoLib.trivial [.string [97, 98, 99]] = .ok (.static (.int 3)) ∧
    ((∃ v, Expression.static (.int 3) = .static v ∧ v.type = .int64) ∨
      ("len" = "join" ∧ [Value.string [97, 98, 99]].head? = some .none ∧
        Expression.static (.int 3) = .static .none)) :=
  ⟨rfl, by decide, rfl, declared_return_types_sound GoLib.trivial Engine.inert "len"
    ⟨.int64, fun lib _ => stdLen lib⟩ _ _ rfl (by decide) rfl⟩

/-- `join` declares `TypeString` and returns `none` for the argument `none`: the declared
return types are not sound for every handler. -/
theorem join_of_none_breaks_declared_type :
    ¬ ∀ (name : String) (fn : StdFunction) (args : List Value) (r : Expression),
      stdFunctions.lookup name = some fn → fn.returnType ≠ .unknown →
      fn.handler GoLib.trivial Engine.inert args = .ok r →
      ∃ v, r = .static v ∧ v.type = fn.returnType := by
  intro h
  obtain ⟨v, hv, htype⟩ := h "join" _ [.none] _ rfl (by decide) rfl
  cases hv
  cases htype

end TestkubeExpressions
