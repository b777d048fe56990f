import Mathlib.Tactic.Ring

set_option autoImplicit false

/-! # Go's `int64`

The standard library works on Go `int64` values: the integer kind of a static value, the
index of `at`, the step of `chunk` and the loop counter of its loop. A value is an integer
in `[-2^63, 2^63)` that carries its two bounds, so that no out-of-range value can be built
and `omega` sees the bounds of every value. Arithmetic wraps in two's complement, as Go's
does on overflow (`wrap`); comparisons are those of the integers.
-/

namespace TestkubeExpressions

/-- A Go `int64`: an integer in `[-2^63, 2^63)`. -/
structure GoInt64 where
  /-- The integer the word denotes. -/
  val : Int
  /-- The word is at least `math.MinInt64`. -/
  min_le : -2^63 ≤ val
  /-- The word is at most `math.MaxInt64`. -/
  lt_max : val < 2^63
deriving Repr

namespace GoInt64

theorem ext {a b : GoInt64} (h : a.val = b.val) : a = b := by
  cases a; cases b; cases h; rfl

/-- Two's complement reduction of an integer into the range of `int64`: the result of
Go's `int64` arithmetic and of its conversions between integer types of width 64. -/
def wrap (x : Int) : GoInt64 := ⟨(x + 2^63) % 2^64 - 2^63, by omega, by omega⟩

/-- An integer that is in range is kept by `wrap`. -/
@[simp] theorem wrap_val_of_range {x : Int} (h₁ : -2^63 ≤ x) (h₂ : x < 2^63) :
    (wrap x).val = x := by
  simp only [wrap]; omega

/-- Go's `int64(n)` of a non-negative `int`, such as a length. -/
def ofNat (n : Nat) : GoInt64 := wrap n

/-- A wrapped length is never above the length itself. -/
theorem ofNat_val_le (n : Nat) : (ofNat n).val ≤ n := by
  simp only [ofNat, wrap]; omega

theorem ofNat_val_of_lt {n : Nat} (h : n < 2^63) : (ofNat n).val = n := by
  simp only [ofNat, wrap]; omega

instance {n : Nat} : OfNat GoInt64 n := ⟨ofNat n⟩
instance : Inhabited GoInt64 := ⟨0⟩
instance : Add GoInt64 := ⟨fun a b => wrap (a.val + b.val)⟩
instance : Sub GoInt64 := ⟨fun a b => wrap (a.val - b.val)⟩
instance : Neg GoInt64 := ⟨fun a => wrap (-a.val)⟩
instance : LT GoInt64 := ⟨fun a b => a.val < b.val⟩
instance : LE GoInt64 := ⟨fun a b => a.val ≤ b.val⟩
instance (a b : GoInt64) : Decidable (a < b) := inferInstanceAs (Decidable (a.val < b.val))
instance (a b : GoInt64) : Decidable (a ≤ b) := inferInstanceAs (Decidable (a.val ≤ b.val))
instance : DecidableEq GoInt64 := fun a b =>
  decidable_of_iff (a.val = b.val) ⟨ext, fun h => h ▸ rfl⟩

@[simp] theorem lt_iff {a b : GoInt64} : a < b ↔ a.val < b.val := Iff.rfl
@[simp] theorem le_iff {a b : GoInt64} : a ≤ b ↔ a.val ≤ b.val := Iff.rfl
theorem add_val (a b : GoInt64) : (a + b).val = (a.val + b.val + 2^63) % 2^64 - 2^63 := rfl
theorem sub_val (a b : GoInt64) : (a - b).val = (a.val - b.val + 2^63) % 2^64 - 2^63 := rfl
@[simp] theorem zero_val : (0 : GoInt64).val = 0 := rfl
@[simp] theorem one_val : (1 : GoInt64).val = 1 := rfl

/-- Addition that does not overflow is the addition of the integers. -/
theorem add_val_of_range {a b : GoInt64} (h₁ : -2^63 ≤ a.val + b.val)
    (h₂ : a.val + b.val < 2^63) : (a + b).val = a.val + b.val := by
  rw [add_val]; omega

end GoInt64

end TestkubeExpressions
