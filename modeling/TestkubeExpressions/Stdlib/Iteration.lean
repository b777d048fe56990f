import TestkubeExpressions.Stdlib.Functions

set_option autoImplicit false

/-! # The loop of `filter`

`map` and `filter` compile their expression once and then, for each item `x` at index
`i`, compile the expression's text again and resolve the result under a fresh machine that
binds `_.value`, `_.index` and `_.key` (`iterationResult`). The loops stop at the first
item whose resolution fails.

`filter` keeps an item when its result is a static value whose boolean is true:
`filter_is_order_preserving_selection` shows that it succeeds exactly when every item's
result is such a value, and then returns the items whose boolean is true, in order. The
loop is proved by one step lemma (what one iteration does) and one run lemma (induction
over the items). Because each call numbers its items from `0`, filtering twice is
filtering once only for an expression that does not read the index
(`filter_twice_is_once_unless_index_read`).
-/

namespace TestkubeExpressions

variable (lib : GoLib) (eng : Engine)

/-- The result of the expression for the item `x` at index `i`: `Compile(expr.String())`,
resolved under the machine of the iteration. -/
def iterationResult (expr : Expression) (i : Nat) (x : Value) : Except GoError Expression :=
  recompile eng expr >>= eng.resolve (iterationMachine x i)

/-- The boolean `filter` reads from the result of the item `x` at index `i`: `none` when
the result is an error, is not static, or has no boolean. -/
def filterDecision (expr : Expression) (i : Nat) (x : Value) : Option Bool :=
  match iterationResult eng expr i x with
  | .ok v => v.static?.bind fun sv => (sv.boolValue lib).toOption
  | .error _ => none

theorem filterDecision_eq_some {expr : Expression} {i : Nat} {x : Value} {b : Bool} :
    filterDecision lib eng expr i x = some b ↔
      ∃ sv, iterationResult eng expr i x = .ok (.static sv) ∧ sv.boolValue lib = .ok b := by
  unfold filterDecision
  split
  · rename_i v hv
    cases v <;> simp [Expression.static?, hv]
    rename_i sv
    cases sv.boolValue lib <;> simp [Except.toOption]
  · simp_all

/-! ## `filter` -/

/-- One iteration of `filter`: it goes on exactly when the item's decision is a boolean,
with the item appended when that boolean is true. -/
theorem filterLoop_cons_eq_ok (expr : Expression) (i : Nat) (x : Value) (xs acc r : List Value) :
    filterLoop lib eng expr i (x :: xs) acc = .ok r ↔
      ∃ b, filterDecision lib eng expr i x = some b ∧
        filterLoop lib eng expr (i + 1) xs (if b then acc ++ [x] else acc) = .ok r := by
  simp only [filterLoop, filterDecision, iterationResult, bind, Except.bind]
  rcases recompile eng expr with err | ex
  · simp
  · simp only
    rcases eng.resolve (iterationMachine x i) ex with err | v
    · simp
    · cases v <;> simp [Expression.static?]
      rename_i sv
      rcases sv.boolValue lib with err | b
      · simp [Except.toOption]
      · cases b <;> simp [Except.toOption]

/-- **The run of `filter`'s loop.** From index `i` with the items `acc` kept so far, the
loop succeeds exactly when every remaining item has a decision, and then returns `acc`
followed by the remaining items whose decision is true. -/
theorem filterLoop_eq_ok (expr : Expression) :
    ∀ (xs : List Value) (i : Nat) (acc r : List Value),
      filterLoop lib eng expr i xs acc = .ok r ↔
        (∀ j (hj : j < xs.length), (filterDecision lib eng expr (i + j) xs[j]).isSome) ∧
        r = acc ++ ((xs.enumFrom i).filter
          (fun p => filterDecision lib eng expr p.1 p.2 = some true)).map Prod.snd
  | [], i, acc, r => by
      simp only [filterLoop, Except.ok.injEq, List.enumFrom_nil, List.filter_nil, List.map_nil,
        List.append_nil, List.length_nil, Nat.not_lt_zero, IsEmpty.forall_iff, implies_true,
        true_and]
      exact eq_comm
  | x :: xs, i, acc, r => by
      rw [filterLoop_cons_eq_ok]
      constructor
      · rintro ⟨b, hb, hrest⟩
        obtain ⟨hall, rfl⟩ := (filterLoop_eq_ok expr xs (i + 1) _ r).mp hrest
        refine ⟨fun j hj => ?_, ?_⟩
        · cases j with
          | zero => simp [hb]
          | succ j =>
              rw [show i + (j + 1) = i + 1 + j by omega, List.getElem_cons_succ]
              exact hall j (by simpa using hj)
        · cases b <;> simp [hb]
      · rintro ⟨hall, rfl⟩
        have h0 := hall 0 (by simp)
        simp only [Nat.add_zero, List.getElem_cons_zero] at h0
        obtain ⟨b, hb⟩ := Option.isSome_iff_exists.mp h0
        refine ⟨b, hb, (filterLoop_eq_ok expr xs (i + 1) _ _).mpr ⟨fun j hj => ?_, ?_⟩⟩
        · have := hall (j + 1) (by simpa using hj)
          rwa [show i + (j + 1) = i + 1 + j by omega, List.getElem_cons_succ] at this
        · cases b <;> simp [hb]

/-- **`filter` is exactly order-preserving selection.** For every list `L` and every
source `p` that compiles: `filter(L, p)` succeeds exactly when the result of every item
is a static value with a boolean, and then it returns the items whose boolean is true, in
their order — a sublist of `L`. -/
theorem filter_is_order_preserving_selection (L : List Value) (p : GoString) (expr : Expression)
    (hp : eng.compile p = .ok expr) (r : Expression) :
    stdFilter lib eng [.slice L, .string p] = .ok r ↔
      (∀ i (hi : i < L.length), ∃ sv b,
        iterationResult eng expr i L[i] = .ok (.static sv) ∧ sv.boolValue lib = .ok b) ∧
      ∃ kept, List.Sublist kept L ∧
        kept = (L.enum.filter fun p => filterDecision lib eng expr p.1 p.2 = some true).map Prod.snd ∧
        r = newValue (.slice kept) := by
  simp only [stdFilter, Value.sliceValue_slice, Value.stringValue_string, valueIgnoringError_ok, hp,
    map_eq_ok]
  constructor
  · rintro ⟨kept, hloop, rfl⟩
    obtain ⟨hall, rfl⟩ := (filterLoop_eq_ok lib eng expr L 0 [] kept).mp hloop
    refine ⟨fun i hi => ?_, _, ?_, by simp [List.enum], rfl⟩
    · obtain ⟨b, hb⟩ := Option.isSome_iff_exists.mp (by simpa using hall i hi)
      obtain ⟨sv, h1, h2⟩ := (filterDecision_eq_some lib eng).mp hb
      exact ⟨sv, b, h1, h2⟩
    · have h := (List.filter_sublist (p := fun p => decide (filterDecision lib eng expr p.1 p.2 = some true))
        L.enum).map Prod.snd
      rwa [List.enum, List.enumFrom_map_snd] at h
  · rintro ⟨hall, kept, -, rfl, rfl⟩
    refine ⟨_, (filterLoop_eq_ok lib eng expr L 0 [] _).mpr ⟨fun j hj => ?_, rfl⟩, by simp [List.enum]⟩
    obtain ⟨sv, b, h1, h2⟩ := hall j hj
    simp [(filterDecision_eq_some lib eng).mpr ⟨sv, h1, h2⟩]

theorem filter_is_order_preserving_selection_true :
    (Engine.constant (.static (.bool true))).compile [] = .ok (.static (.bool true)) ∧
    (stdFilter GoLib.trivial (Engine.constant (.static (.bool true))) [.slice [.int 1], .string []] =
        .ok (newValue (.slice [.int 1])) ↔
      (∀ i (hi : i < [Value.int 1].length), ∃ sv b,
        iterationResult (Engine.constant (.static (.bool true))) (.static (.bool true)) i
          [Value.int 1][i] = .ok (.static sv) ∧ sv.boolValue GoLib.trivial = .ok b) ∧
      ∃ kept, List.Sublist kept [Value.int 1] ∧
        kept = ([Value.int 1].enum.filter fun p => filterDecision GoLib.trivial
          (Engine.constant (.static (.bool true))) (.static (.bool true)) p.1 p.2 = some true).map
          Prod.snd ∧
        newValue (.slice [.int 1]) = newValue (.slice kept)) :=
  ⟨rfl, filter_is_order_preserving_selection GoLib.trivial _ [.int 1] [] _ rfl _⟩

/-! ## Filtering twice

Each call of `filter` numbers its items from `0`, so a second `filter` sees the kept items
at new indices. With an expression that does not read the index, filtering the result
again changes nothing; with one that does, it can. -/

/-- The items `List.filter` keeps, read off the enumerated list. -/
theorem map_snd_filter_enumFrom {α : Type} (f : α → Bool) (xs : List α) (i : Nat) :
    ((xs.enumFrom i).filter (fun q => f q.2)).map Prod.snd = xs.filter f := by
  rw [show (fun q : Nat × α => f q.2) = f ∘ Prod.snd from rfl, ← List.filter_map,
    List.enumFrom_map_snd]

section indexFree

variable {lib eng} {expr : Expression}
  (hfree : ∀ i j x, iterationResult eng expr i x = iterationResult eng expr j x)
include hfree

/-- An expression that does not read the index decides every item as at index `0`. -/
theorem filterDecision_of_indexFree (i : Nat) (x : Value) :
    filterDecision lib eng expr i x = filterDecision lib eng expr 0 x := by
  rw [filterDecision, filterDecision, hfree i 0 x]

/-- The run of `filter`'s loop with an expression that does not read the index keeps the
items whose decision is true, as `List.filter` does. -/
theorem filterLoop_of_indexFree (xs r : List Value) :
    filterLoop lib eng expr 0 xs [] = .ok r ↔
      (∀ x ∈ xs, (filterDecision lib eng expr 0 x).isSome) ∧
      r = xs.filter fun x => filterDecision lib eng expr 0 x = some true := by
  rw [filterLoop_eq_ok, List.nil_append,
    List.filter_congr fun q _ => by rw [filterDecision_of_indexFree hfree q.1 q.2],
    map_snd_filter_enumFrom fun x => decide (filterDecision lib eng expr 0 x = some true)]
  simp only [filterDecision_of_indexFree hfree, List.forall_mem_iff_getElem]

end indexFree

/-- **Filtering twice is filtering once, unless the expression reads the index.** For every
list `L` and every source `p` that compiles to an expression whose result does not depend
on the index: when `filter(L, p)` succeeds, filtering its result again with `p` gives the
same result. Without that condition it can differ: an expression that keeps the item at
index `1` keeps `8` of `[7, 8]`, and nothing of `[8]`. -/
theorem filter_twice_is_once_unless_index_read :
    (∀ (eng : Engine) (L : List Value) (p : GoString) (expr : Expression), eng.compile p = .ok expr →
      (∀ i j x, iterationResult eng expr i x = iterationResult eng expr j x) →
      ∀ r, stdFilter lib eng [.slice L, .string p] = .ok r →
        ∃ kept, r = newValue (.slice kept) ∧ stdFilter lib eng [.slice kept, .string p] = .ok r) ∧
    ∃ (eng : Engine) (L kept : List Value),
      stdFilter lib eng [.slice L, .string []] = .ok (newValue (.slice kept)) ∧
      stdFilter lib eng [.slice kept, .string []] ≠ .ok (newValue (.slice kept)) := by
  refine ⟨fun eng L p expr hp hfree r h => ?_, ?_⟩
  · simp only [stdFilter, Value.sliceValue_slice, Value.stringValue_string, valueIgnoringError_ok, hp,
      map_eq_ok] at h ⊢
    obtain ⟨kept, hloop, rfl⟩ := h
    obtain ⟨-, rfl⟩ := (filterLoop_of_indexFree hfree L kept).mp hloop
    -- every kept item is decided true again, so the second run keeps all of them
    refine ⟨_, rfl, _, (filterLoop_of_indexFree hfree _ _).mpr ⟨fun x hx => ?_, ?_⟩, rfl⟩
    · rw [of_decide_eq_true (List.mem_filter.mp hx).2]
      rfl
    · exact (List.filter_eq_self.mpr fun x hx => (List.mem_filter.mp hx).2).symm
  · refine ⟨⟨fun _ => .ok (.static .none), fun _ => [], fun m _ =>
      match m.get "_.index" with
      | .ok (some (.static (.int k))) => .ok (.static (.bool (k.val == 1)))
      | _ => .ok (.static (.bool false))⟩, [.int 7, .int 8], [.int 8], rfl, ?_⟩
    intro h
    cases h.symm.trans rfl

theorem filter_twice_is_once_unless_index_read_constant :
    (Engine.constant (.static (.bool true))).compile [] = .ok (.static (.bool true)) ∧
    (∀ i j x, iterationResult (Engine.constant (.static (.bool true))) (.static (.bool true)) i x =
      iterationResult (Engine.constant (.static (.bool true))) (.static (.bool true)) j x) ∧
    stdFilter GoLib.trivial (Engine.constant (.static (.bool true))) [.slice [.int 1], .string []] =
      .ok (newValue (.slice [.int 1])) ∧
    ∃ kept, newValue (.slice [.int 1]) = newValue (.slice kept) ∧
      stdFilter GoLib.trivial (Engine.constant (.static (.bool true))) [.slice kept, .string []] =
        .ok (newValue (.slice [.int 1])) :=
  ⟨rfl, fun _ _ _ => rfl, rfl, (filter_twice_is_once_unless_index_read GoLib.trivial).1
    (Engine.constant (.static (.bool true))) [.int 1] [] (.static (.bool true)) rfl (fun _ _ _ => rfl) _ rfl⟩

end TestkubeExpressions
