import TestkubeExpressions.Stdlib.At

set_option autoImplicit false

/-! # `chunk` partitions its list

The meaning of `chunk(L, size)` is `chunksOf size L`: the first `size` items, then the
chunks of the rest. `chunkLoop_eq` shows that the source's loop computes it: its index
`i` runs over the multiples of `size` below `len(L)`, and as long as `len(L) ≤ 2^62`
neither `i + size` nor the next `i` leaves the range of `int64` (`i` is `0` or at least
`size`, so a step that could overflow is never taken). The properties of a partition are
then properties of `chunksOf`, and `at_reads_chunks` shows how `at` reads them: the item
`j` of the chunk `i` is the item `i * size + j` of the list.
-/

namespace TestkubeExpressions

/-! ## The chunks of a list -/

/-- The chunks of `xs` of `n` items each, the last one possibly shorter. -/
def chunksOf {α : Type} (n : Nat) : List α → List (List α)
  | [] => []
  | x :: xs => if n = 0 then [] else (x :: xs).take n :: chunksOf n ((x :: xs).drop n)
termination_by xs => xs.length
decreasing_by simp only [List.length_drop, List.length_cons]; omega

section chunksOf

variable {α : Type} {n : Nat}

@[simp] theorem chunksOf_nil (n : Nat) : chunksOf n ([] : List α) = [] := by
  simp [chunksOf]

theorem chunksOf_of_ne_nil (hn : 0 < n) (xs : List α) (h : xs ≠ []) :
    chunksOf n xs = xs.take n :: chunksOf n (xs.drop n) := by
  cases xs with
  | nil => exact absurd rfl h
  | cons x xs => rw [chunksOf, if_neg (by omega)]

theorem chunksOf_eq_nil_iff (hn : 0 < n) (xs : List α) : chunksOf n xs = [] ↔ xs = [] := by
  by_cases h : xs = []
  · simp [h]
  · simp [chunksOf_of_ne_nil hn _ h, h]

/-- The chunks together are the list. -/
theorem flatten_chunksOf (hn : 0 < n) (xs : List α) : (chunksOf n xs).flatten = xs := by
  induction xs using chunksOf.induct n with
  | case1 => simp
  | case2 x xs h => omega
  | case3 x xs h ih =>
      rw [chunksOf_of_ne_nil hn _ (List.cons_ne_nil x xs), List.flatten_cons, ih, List.take_append_drop]

/-- One step of the ceiling division `⌈m / n⌉ = (m + n - 1) / n`. -/
theorem ceil_div_step {m n : Nat} (hm : 0 < m) (hn : 0 < n) :
    (m + n - 1) / n = (m - n + n - 1) / n + 1 := by
  by_cases h : n ≤ m
  · rw [show m + n - 1 = (m - n + n - 1) + n by omega, Nat.add_div_right _ hn]
  · rw [show m - n + n - 1 = n - 1 by omega, Nat.div_eq_of_lt (by omega : n - 1 < n)]
    exact Nat.div_eq_of_lt_le (by omega) (by omega)

/-- There are `⌈len / n⌉` chunks. -/
theorem length_chunksOf (hn : 0 < n) (xs : List α) :
    (chunksOf n xs).length = (xs.length + n - 1) / n := by
  induction xs using chunksOf.induct n with
  | case1 => simp [Nat.div_eq_of_lt (by omega : n - 1 < n)]
  | case2 x xs h => omega
  | case3 x xs h ih =>
      rw [chunksOf_of_ne_nil hn _ (List.cons_ne_nil x xs), List.length_cons, ih, List.length_drop,
        ceil_div_step (List.length_pos.mpr (List.cons_ne_nil x xs)) hn]

/-- Every chunk but the last has `n` items. -/
theorem length_of_mem_dropLast_chunksOf (hn : 0 < n) (xs : List α) :
    ∀ c ∈ (chunksOf n xs).dropLast, c.length = n := by
  induction xs using chunksOf.induct n with
  | case1 => simp
  | case2 x xs h => omega
  | case3 x xs h ih =>
      rw [chunksOf_of_ne_nil hn _ (List.cons_ne_nil x xs)]
      by_cases hrest : (x :: xs).drop n = []
      · simp [hrest]
      · rw [List.dropLast_cons_of_ne_nil (by rwa [Ne, chunksOf_eq_nil_iff hn])]
        intro c hc
        rcases List.mem_cons.mp hc with rfl | hc
        · have : n < (x :: xs).length := by simpa using hrest
          simp only [List.length_take]; omega
        · exact ih c hc

/-- The last chunk has between `1` and `n` items. -/
theorem length_of_mem_getLast?_chunksOf (hn : 0 < n) (xs : List α) :
    ∀ c ∈ (chunksOf n xs).getLast?, 0 < c.length ∧ c.length ≤ n := by
  induction xs using chunksOf.induct n with
  | case1 => simp
  | case2 x xs h => omega
  | case3 x xs h ih =>
      rw [chunksOf_of_ne_nil hn _ (List.cons_ne_nil x xs), List.getLast?_cons]
      by_cases hrest : (x :: xs).drop n = []
      · intro c hc
        simp only [hrest, chunksOf_nil, List.getLast?_nil, Option.getD_none, Option.mem_def,
          Option.some.injEq] at hc
        subst hc
        simp only [List.length_take, List.length_cons]; omega
      · obtain ⟨d, hd⟩ := Option.ne_none_iff_exists'.mp
          (by rwa [Ne, List.getLast?_eq_none_iff, chunksOf_eq_nil_iff hn])
        rw [hd, Option.getD_some]
        intro c hc
        exact ih c (by rw [hd]; exact hc)

/-- There are no more chunks than items. -/
theorem length_chunksOf_le (hn : 0 < n) (xs : List α) : (chunksOf n xs).length ≤ xs.length := by
  induction xs using chunksOf.induct n with
  | case1 => simp
  | case2 x xs h => omega
  | case3 x xs h ih =>
      rw [chunksOf_of_ne_nil hn _ (List.cons_ne_nil x xs), List.length_cons]
      simp only [List.length_drop, List.length_cons] at ih ⊢
      omega

/-- The chunk at index `i` is the `n` items from `i * n` on. -/
theorem getElem?_chunksOf (hn : 0 < n) :
    ∀ (i : Nat) (xs : List α), i * n < xs.length → (chunksOf n xs)[i]? = some ((xs.drop (i * n)).take n)
  | 0, xs, h => by
      rw [chunksOf_of_ne_nil hn xs (List.ne_nil_of_length_pos (by omega))]
      simp
  | i + 1, xs, h => by
      rw [chunksOf_of_ne_nil hn xs (List.ne_nil_of_length_pos (by rw [Nat.succ_mul] at h; omega)),
        List.getElem?_cons_succ, getElem?_chunksOf hn i (xs.drop n)
          (by rw [List.length_drop, Nat.succ_mul] at *; omega),
        List.drop_drop, Nat.succ_mul, Nat.add_comm n]

end chunksOf

/-! ## The loop of `chunk` -/

section chunkLoop

variable (list : List Value) (size : GoInt64)

/-- The slice the loop takes at an index `k` below the length: the next `size` items. -/
theorem sliceExpr_chunk {k : Nat} (i e : GoInt64) (hi : i.val = k) (hk : k < list.length)
    (he : e.val = min (k + size.val) list.length) (hs : 0 < size.val) :
    sliceExpr list i e = .ok ((list.drop k).take size.val.toNat) := by
  rw [sliceExpr, if_pos (by omega), List.drop_take, he, hi, Int.toNat_ofNat]
  congr 1
  by_cases h : k + size.val ≤ list.length
  · congr 1; omega
  · rw [List.take_of_length_le (by simp; omega), List.take_of_length_le (by simp; omega)]

/-- **The loop computes the chunks.** Started at an index `k` that is `0` or at least
`size`, with enough fuel, the loop appends the chunks of the items from `k` on. -/
theorem chunkLoop_eq (hs : 0 < size.val) (hlen : list.length ≤ 2^62) :
    ∀ (fuel k : Nat) (i : GoInt64) (acc : List Value), i.val = k → (k = 0 ∨ size.val ≤ k) →
      list.length - k < fuel →
      chunkLoop list (.ofNat list.length) size fuel i acc =
        .ok (acc ++ (chunksOf size.val.toNat (list.drop k)).map .slice)
  | 0, k, i, acc, _, _, hfuel => by omega
  | fuel + 1, k, i, acc, hi, hinv, hfuel => by
      have hl : (GoInt64.ofNat list.length).val = list.length := GoInt64.ofNat_val_of_lt (by omega)
      rw [chunkLoop]
      by_cases hlt : k < list.length
      · have hsum : (i + size).val = k + size.val := by
          have := size.lt_max
          rw [GoInt64.add_val_of_range (by omega) (by rcases hinv with h | h <;> omega), hi]
        have hend : (if i + size > GoInt64.ofNat list.length then GoInt64.ofNat list.length
            else i + size).val = min (k + size.val) list.length := by
          split_ifs with h
          · simp only [gt_iff_lt, GoInt64.lt_iff, hl, hsum] at h; rw [hl]; omega
          · simp only [gt_iff_lt, GoInt64.lt_iff, hl, hsum] at h; rw [hsum]; omega
        rw [if_pos (by simp [hl, hi, hlt])]
        simp only
        rw [sliceExpr_chunk list size i _ hi hlt hend hs]
        simp only
        rw [chunkLoop_eq hs hlen fuel (k + size.val.toNat) (i + size) _ (by omega) (by omega)
          (by omega), chunksOf_of_ne_nil (by omega) (list.drop k) (by simpa using hlt),
          List.drop_drop]
        simp
      · rw [if_neg (by simp [hl, hi]; omega), List.drop_of_length_le (by omega)]
        simp

end chunkLoop

/-! ## `chunk` -/

/-- **`chunk` partitions its list.** For every list of at most `2^62` items (every slice Go
can allocate), a step `size ≥ 1` gives `⌈len / size⌉` chunks, without a panic and without
an overflow of the loop's index, whose concatenation is the list; every chunk but the
last has `size` items and the last between `1` and `size`. A step `size ≤ 0` is an
error. -/
theorem chunk_partitions_list (lib : GoLib) (L : List Value) (size : GoInt64)
    (hlen : L.length ≤ 2^62) :
    (size.val ≤ 0 → ∃ err, stdChunk lib [.slice L, .int size] = .error err) ∧
    (0 < size.val → ∃ chunks : List (List Value),
      stdChunk lib [.slice L, .int size] = .ok (newValue (.slice (chunks.map .slice))) ∧
      chunks.length = (L.length + size.val.toNat - 1) / size.val.toNat ∧
      chunks.flatten = L ∧
      (∀ c ∈ chunks.dropLast, c.length = size.val.toNat) ∧
      (∀ c ∈ chunks.getLast?, 0 < c.length ∧ c.length ≤ size.val.toNat)) := by
  constructor
  · intro hs
    simp only [stdChunk, Value.sliceValue_slice, Value.intValue_int, GoInt64.le_iff,
      GoInt64.zero_val, hs, if_true]
    exact ⟨_, rfl⟩
  · intro hs
    have hn : 0 < size.val.toNat := by omega
    refine ⟨chunksOf size.val.toNat L, ?_, length_chunksOf hn L, flatten_chunksOf hn L,
      length_of_mem_dropLast_chunksOf hn L, length_of_mem_getLast?_chunksOf hn L⟩
    simp only [stdChunk, Value.sliceValue_slice, Value.intValue_int, GoInt64.le_iff,
      GoInt64.zero_val]
    rw [if_neg (by omega), chunkLoop_eq L size hs hlen (L.length + 1) 0 0 [] rfl (Or.inl rfl)
      (by omega)]
    rfl

theorem chunk_partitions_five_by_two :
    [Value.int 1, .int 2, .int 3, .int 4, .int 5].length ≤ 2^62 ∧
    ((2 : GoInt64).val ≤ 0 → ∃ err, stdChunk GoLib.trivial
      [.slice [.int 1, .int 2, .int 3, .int 4, .int 5], .int 2] = .error err) ∧
    (0 < (2 : GoInt64).val → ∃ chunks : List (List Value),
      stdChunk GoLib.trivial [.slice [.int 1, .int 2, .int 3, .int 4, .int 5], .int 2] =
        .ok (newValue (.slice (chunks.map .slice))) ∧
      chunks.length = ([Value.int 1, .int 2, .int 3, .int 4, .int 5].length +
        (2 : GoInt64).val.toNat - 1) / (2 : GoInt64).val.toNat ∧
      chunks.flatten = [.int 1, .int 2, .int 3, .int 4, .int 5] ∧
      (∀ c ∈ chunks.dropLast, c.length = (2 : GoInt64).val.toNat) ∧
      (∀ c ∈ chunks.getLast?, 0 < c.length ∧ c.length ≤ (2 : GoInt64).val.toNat)) :=
  ⟨by decide, chunk_partitions_list GoLib.trivial _ 2 (by decide)⟩

/-! ## Reading the chunks with `at` -/

/-- `chunk` with a step `size ≥ 1` gives the chunks of `chunksOf`. -/
theorem stdChunk_of_pos (lib : GoLib) {L : List Value} {size : GoInt64} (hs : 0 < size.val)
    (hlen : L.length ≤ 2^62) :
    stdChunk lib [.slice L, .int size] =
      .ok (newValue (.slice ((chunksOf size.val.toNat L).map .slice))) := by
  simp only [stdChunk, Value.sliceValue_slice, Value.intValue_int, GoInt64.le_iff, GoInt64.zero_val]
  rw [if_neg (by omega), chunkLoop_eq L size hs hlen (L.length + 1) 0 0 [] rfl (Or.inl rfl) (by omega)]
  rfl

/-- `at` on a sequence at an index below its length. -/
theorem stdAt_slice (lib : GoLib) {items : List Value} {i : Nat} (hi : i < items.length)
    (hlen : items.length < 2^63) : stdAt lib [.slice items, .int (.ofNat i)] = .ok (.static items[i]) := by
  have hval : (GoInt64.ofNat i).val = i := GoInt64.ofNat_val_of_lt (by omega)
  obtain ⟨y, hy, hat⟩ := @stdAt_in_range lib (.slice items) (.int (.ofNat i)) (.ofNat i) (.inl rfl)
    (Value.intValue_int lib _) (by omega) (by rw [hval, Value.count, GoInt64.ofNat_val_of_lt hlen]; omega)
  rw [hat, newValue]
  simp only [Value.itemAt?, hval, Int.toNat_ofNat, List.getElem?_eq_getElem hi, Option.some.injEq] at hy
  rw [hy]

/-- **`at` reads the chunks of `chunk` as the list they came from.** For every list of at
most `2^62` items and every step `size ≥ 1`: the item at index `j < size` of the chunk at
index `i` is the item of the list at index `i * size + j`. -/
theorem at_reads_chunks (lib : GoLib) (L : List Value) (size : GoInt64) (hs : 0 < size.val)
    (hlen : L.length ≤ 2^62) (i j : Nat) (hj : j < size.val.toNat)
    (hij : i * size.val.toNat + j < L.length) :
    ∃ chunks c, stdChunk lib [.slice L, .int size] = .ok (.static (.slice chunks)) ∧
      stdAt lib [.slice chunks, .int (.ofNat i)] = .ok (.static c) ∧
      stdAt lib [c, .int (.ofNat j)] = .ok (.static L[i * size.val.toNat + j]) := by
  have hn : 0 < size.val.toNat := by omega
  have hi : i * size.val.toNat < L.length := Nat.lt_of_le_of_lt (Nat.le_add_right _ _) hij
  have hchunk := getElem?_chunksOf hn i L hi
  obtain ⟨hcount, hget⟩ := List.getElem?_eq_some_iff.mp hchunk
  have hchunks := length_chunksOf_le hn L
  refine ⟨_, _, stdChunk_of_pos lib hs hlen,
    stdAt_slice lib (by simpa using hcount) (by simp; omega), ?_⟩
  simp only [List.getElem_map, hget]
  rw [stdAt_slice lib (by simp; omega) (by simp; omega)]
  simp [List.getElem_take, List.getElem_drop]

theorem at_reads_chunks_five_by_two :
    0 < (2 : GoInt64).val ∧ [Value.int 1, .int 2, .int 3, .int 4, .int 5].length ≤ 2^62 ∧
    1 < (2 : GoInt64).val.toNat ∧
    1 * (2 : GoInt64).val.toNat + 1 < [Value.int 1, .int 2, .int 3, .int 4, .int 5].length ∧
    ∃ chunks c, stdChunk GoLib.trivial [.slice [.int 1, .int 2, .int 3, .int 4, .int 5], .int 2] =
        .ok (.static (.slice chunks)) ∧
      stdAt GoLib.trivial [.slice chunks, .int (.ofNat 1)] = .ok (.static c) ∧
      stdAt GoLib.trivial [c, .int (.ofNat 1)] = .ok (.static (.int 4)) :=
  ⟨by decide, by decide, by decide, by decide,
    at_reads_chunks GoLib.trivial _ 2 (by decide) (by decide) 1 1 (by decide) (by decide)⟩

end TestkubeExpressions
