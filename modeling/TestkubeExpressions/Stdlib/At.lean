import TestkubeExpressions.Stdlib.Functions

set_option autoImplicit false

/-! # `at` agrees with `len` on bounds

`at` and `len` are two handlers that each compute the length of a sequence or a string
with Go's `int64(len(v))`. `at` accepts an index exactly when it lies in `[0, n)` for the
`n` that `len` returns, and then reads the item or the byte at that index, so its own
indexing never goes out of range. On a mapping `at` never fails: a missing key gives
`none`.
-/

namespace TestkubeExpressions

namespace Value

/-- The number of items of a sequence, bytes of a string or entries of a mapping. -/
def count : Value → Nat
  | .slice items => items.length
  | .string s => s.length
  | .map entries => entries.length
  | _ => 0

/-- The item of a sequence, or the byte of a string as an integer value, at an index. -/
def itemAt? : Value → Nat → Option Value
  | .slice items, j => items[j]?
  | .string s, j => s[j]?.map fun b => .int (.ofNat b.toNat)
  | _, _ => none

end Value

variable (lib : GoLib)

/-- What `len` returns for a sequence or a string: its count, as `int64`. -/
theorem stdLen_of_slice_or_string {x : Value} (hx : x.isSlice ∨ x.isString) :
    stdLen lib [x] = .ok (newValue (.int (.ofNat x.count))) := by
  cases x <;> simp_all [stdLen, Value.isSlice, Value.isString, Value.sliceValue, Value.stringValue,
    Value.count, Except.map]

/-- `at` on a sequence or a string, at an index in `[0, len)`: the item at the index. -/
theorem stdAt_in_range {x idx : Value} {k : GoInt64} (hx : x.isSlice ∨ x.isString)
    (hk : idx.intValue lib = .ok k) (h₀ : 0 ≤ k.val) (h : k.val < (GoInt64.ofNat x.count).val) :
    ∃ y, x.itemAt? k.val.toNat = some y ∧ stdAt lib [x, idx] = .ok (newValue y) := by
  have hle := GoInt64.ofNat_val_le x.count
  cases x with
  | slice items =>
      simp only [Value.count] at hle h
      have hj : k.val.toNat < items.length := by omega
      refine ⟨items[k.val.toNat], by simp [Value.itemAt?, hj], ?_⟩
      simp [stdAt, Value.isSlice, hk, h₀, h, indexExpr, hj, Except.map]
  | string s =>
      simp only [Value.count] at hle h
      have hj : k.val.toNat < s.length := by omega
      refine ⟨.int (.ofNat s[k.val.toNat].toNat), by simp [Value.itemAt?, hj], ?_⟩
      simp [stdAt, Value.isSlice, Value.isMap, Value.isString, hk, h₀, h, indexExpr, hj, Except.map]
  | _ => simp [Value.isSlice, Value.isString] at hx

/-- `at` on a sequence or a string, at an index outside `[0, len)`: the out-of-bounds error. -/
theorem stdAt_out_of_range {x idx : Value} {k : GoInt64} (hx : x.isSlice ∨ x.isString)
    (hk : idx.intValue lib = .ok k) (h : ¬ (0 ≤ k.val ∧ k.val < (GoInt64.ofNat x.count).val)) :
    stdAt lib [x, idx] = .error (outOfBounds x.count k) := by
  cases x with
  | slice items =>
      simp only [Value.count] at h
      simp only [stdAt, Value.isSlice, if_true, hk, ge_iff_le, GoInt64.le_iff, GoInt64.lt_iff,
        GoInt64.zero_val, if_neg h, valueIgnoringError, Value.sliceValue_slice, Value.count]
  | string s =>
      simp only [Value.count] at h
      simp only [stdAt, Value.isSlice, Value.isMap, Value.isString, if_true, if_false, hk, ge_iff_le,
        GoInt64.le_iff, GoInt64.lt_iff, GoInt64.zero_val, if_neg h, valueIgnoringError,
        Value.stringValue_string, Value.count, Bool.false_eq_true]
  | _ => simp [Value.isSlice, Value.isString] at hx

/-- `at` on a mapping: the value under the key's text, `none` when it is missing. -/
theorem stdAt_map (entries : List (GoString × Value)) (key : Value) :
    stdAt lib [.map entries, key] =
      .ok (newValue ((entries.lookup (valueIgnoringError (key.stringValue lib))).getD .none)) := by
  simp only [stdAt, Value.isSlice, Value.isMap, Value.mapValue_map, valueIgnoringError_ok,
    if_true, Bool.false_eq_true, if_false]
  rcases entries.lookup (valueIgnoringError (key.stringValue lib)) with _ | item <;> rfl

/-- **`at` agrees with `len` on bounds.** For a sequence or a string `x` and an index
argument that converts to `k`, with `n` the count `len` returns (the true count whenever
it fits in `int64`, as for every value Go can hold): `at(x, k)` succeeds exactly when
`0 ≤ k < n`, and then yields the item or byte `k`; otherwise it fails with the
out-of-bounds error, never a panic. So for `n ≥ 1`, `at(x, n - 1)` succeeds and
`at(x, n)` and `at(x, -1)` fail. On a mapping, `at` never fails and yields the value
stored under the key, or `none`. -/
theorem at_agrees_with_len :
    (∀ (x idx : Value) (k : GoInt64), (x.isSlice ∨ x.isString) → idx.intValue lib = .ok k →
      stdLen lib [x] = .ok (newValue (.int (.ofNat x.count))) ∧
      (x.count < 2^63 → (GoInt64.ofNat x.count).val = x.count) ∧
      ((∃ r, stdAt lib [x, idx] = .ok r) ↔ 0 ≤ k.val ∧ k.val < (GoInt64.ofNat x.count).val) ∧
      (0 ≤ k.val → k.val < (GoInt64.ofNat x.count).val →
        ∃ y, x.itemAt? k.val.toNat = some y ∧ stdAt lib [x, idx] = .ok (newValue y)) ∧
      (¬ (0 ≤ k.val ∧ k.val < (GoInt64.ofNat x.count).val) →
        stdAt lib [x, idx] = .error (outOfBounds x.count k)) ∧
      (0 < (GoInt64.ofNat x.count).val →
        (∃ r, stdAt lib [x, .int (GoInt64.ofNat x.count - 1)] = .ok r) ∧
        (¬ ∃ r, stdAt lib [x, .int (GoInt64.ofNat x.count)] = .ok r) ∧
        (¬ ∃ r, stdAt lib [x, .int (-1)] = .ok r))) ∧
    (∀ (entries : List (GoString × Value)) (key : Value),
      stdAt lib [.map entries, key] =
        .ok (newValue ((entries.lookup (valueIgnoringError (key.stringValue lib))).getD .none))) := by
  refine ⟨fun x idx k hx hk => ?_, stdAt_map lib⟩
  have succeeds : ∀ {idx : Value} {k : GoInt64}, idx.intValue lib = .ok k →
      ((∃ r, stdAt lib [x, idx] = .ok r) ↔ 0 ≤ k.val ∧ k.val < (GoInt64.ofNat x.count).val) := by
    intro idx k hk
    by_cases h : 0 ≤ k.val ∧ k.val < (GoInt64.ofNat x.count).val
    · obtain ⟨y, -, hy⟩ := stdAt_in_range lib hx hk h.1 h.2
      simp [hy, h]
    · simp [stdAt_out_of_range lib hx hk h, h]
  refine ⟨stdLen_of_slice_or_string lib hx, GoInt64.ofNat_val_of_lt, succeeds hk,
    stdAt_in_range lib hx hk, stdAt_out_of_range lib hx hk, fun hn => ?_⟩
  have hsub : (GoInt64.ofNat x.count - 1).val = (GoInt64.ofNat x.count).val - 1 := by
    have := (GoInt64.ofNat x.count).lt_max
    rw [GoInt64.sub_val, GoInt64.one_val]; omega
  rw [succeeds (Value.intValue_int lib _), succeeds (Value.intValue_int lib _),
    succeeds (Value.intValue_int lib _), hsub]
  refine ⟨by omega, by omega, ?_⟩
  show ¬ (0 ≤ (GoInt64.wrap (-1)).val ∧ _)
  rw [GoInt64.wrap_val_of_range (by omega) (by omega)]
  omega

end TestkubeExpressions
