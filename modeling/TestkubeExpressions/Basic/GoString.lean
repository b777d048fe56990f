import Mathlib.Data.List.Infix

set_option autoImplicit false

/-! # Go strings and the `strings` functions `split` and `join` call

A Go `string` is a sequence of bytes that need not be valid UTF-8, so it is modelled as a
list of bytes. The handlers `join` and `split` are thin wrappers around `strings.Join`
and `strings.Split`; this module models those two functions with the helpers they use
(`strings.Index`, and `utf8.DecodeRuneInString` for the split on the empty separator)
and proves the two round trips between them:

* `join_split`: joining the pieces of a split with the same separator gives the string
  back, for every string and every separator;
* `split_join`: splitting a join gives the pieces back, when the separator is not empty
  and occurs in the joined string only where `strings.Join` put it.
-/

namespace TestkubeExpressions

/-- A Go `string`: its bytes. -/
abbrev GoString := List UInt8

/-- The bytes of a Lean string literal, for the texts the source writes as literals. -/
def GoString.ofString (s : String) : GoString := s.toUTF8.toList

namespace Strings

/-! ## `strings.Index` -/

/-- `strings.Index(s, sep)`: the offset of the first occurrence of `sep` in `s`. -/
def index (s sep : GoString) : Option Nat :=
  if sep.isPrefixOf s then some 0 else
  match s with
  | [] => none
  | _ :: t => (index t sep).map (· + 1)

theorem index_cons_of_no_match {b : UInt8} {t sep : GoString} (h : ¬ sep <+: b :: t) :
    index (b :: t) sep = (index t sep).map (· + 1) := by
  rw [index, if_neg (by simpa using h)]

/-- `index` finds the first occurrence. -/
theorem index_eq_some_iff (s sep : GoString) (m : Nat) :
    index s sep = some m ↔ sep <+: s.drop m ∧ ∀ p < m, ¬ sep <+: s.drop p := by
  induction s generalizing m with
  | nil =>
      cases m with
      | zero => simp [index]
      | succ m =>
          simp only [index, List.isPrefixOf_iff_prefix, List.drop_nil]
          split_ifs with h
          · simp only [List.prefix_nil] at h
            simpa [h] using ⟨0, by omega⟩
          · simp [h]
  | cons b t ih =>
      by_cases h : sep <+: b :: t
      · simp only [index, List.isPrefixOf_iff_prefix, h, if_true, Option.some.injEq]
        constructor
        · rintro rfl; simpa using h
        · rintro ⟨-, hm⟩
          by_contra hne
          exact hm 0 (by omega) h
      · rw [index_cons_of_no_match h]
        cases m with
        | zero => simp [h]
        | succ m =>
            simp only [Option.map_eq_some', ih, List.drop_succ_cons]
            constructor
            · rintro ⟨k, ⟨hk, hlt⟩, hkm⟩
              obtain rfl : k = m := by omega
              refine ⟨hk, fun p hp => ?_⟩
              cases p with
              | zero => exact h
              | succ p => exact hlt p (by omega)
            · rintro ⟨hk, hlt⟩
              exact ⟨m, ⟨hk, fun p hp => hlt (p + 1) (by omega)⟩, rfl⟩

/-- `index` fails exactly when there is no occurrence. -/
theorem index_eq_none_iff (s sep : GoString) :
    index s sep = none ↔ ∀ p, ¬ sep <+: s.drop p := by
  constructor
  · intro h p hp
    induction s generalizing p with
    | nil =>
        simp only [index, List.isPrefixOf_iff_prefix] at h
        split_ifs at h with h'
        exact h' (by simpa using hp)
    | cons b t ih =>
        by_cases hb : sep <+: b :: t
        · simp [index, hb] at h
        · rw [index_cons_of_no_match hb, Option.map_eq_none'] at h
          cases p with
          | zero => exact hb hp
          | succ p => exact ih h p hp
  · intro h
    cases hi : index s sep with
    | none => rfl
    | some m => exact absurd ((index_eq_some_iff s sep m).mp hi).1 (h m)

/-- An occurrence found by `index` lies inside the string. -/
theorem index_add_length_le {s sep : GoString} {m : Nat} (hsep : sep ≠ [])
    (h : index s sep = some m) : m + sep.length ≤ s.length := by
  have hp := ((index_eq_some_iff s sep m).mp h).1
  have := hp.length_le
  have : sep.length ≠ 0 := by simpa using hsep
  simp only [List.length_drop] at *
  omega

/-! ## `strings.Join` -/

/-- `strings.Join(elems, sep)`: the elements, with `sep` between each two. -/
def join : List GoString → GoString → GoString
  | [], _ => []
  | [x], _ => x
  | x :: y :: rest, sep => x ++ sep ++ join (y :: rest) sep

theorem join_cons_of_ne_nil (x : GoString) {xs : List GoString} (sep : GoString)
    (h : xs ≠ []) : join (x :: xs) sep = x ++ sep ++ join xs sep := by
  cases xs with
  | nil => exact absurd rfl h
  | cons y rest => rfl

/-- With the empty separator `join` concatenates. -/
theorem join_nil_sep (xs : List GoString) : join xs [] = xs.flatten := by
  induction xs with
  | nil => rfl
  | cons x xs ih => cases xs with
    | nil => simp [join]
    | cons y rest => simp [join, ih]

/-! ## `strings.Split` on the empty separator

`strings.Split(s, "")` cuts `s` after each UTF-8 sequence (`explode`); the length of a
sequence is what `utf8.DecodeRuneInString` reports. -/

/-- The continuation bytes `0x80`–`0xBF` of UTF-8. -/
def isContinuation (b : UInt8) : Bool := 0x80 ≤ b && b ≤ 0xBF

/-- The tables `first` and `acceptRanges` of package `unicode/utf8` for a byte that starts a
multi-byte sequence: the length of the sequence and the range its second byte must lie
in. `none` for an ASCII byte and for a byte that cannot start a sequence. -/
def leadingByte (b : UInt8) : Option (Nat × UInt8 × UInt8) :=
  if b < 0xC2 then none
  else if b < 0xE0 then some (2, 0x80, 0xBF)
  else if b = 0xE0 then some (3, 0xA0, 0xBF)
  else if b < 0xED then some (3, 0x80, 0xBF)
  else if b = 0xED then some (3, 0x80, 0x9F)
  else if b < 0xF0 then some (3, 0x80, 0xBF)
  else if b = 0xF0 then some (4, 0x90, 0xBF)
  else if b < 0xF4 then some (4, 0x80, 0xBF)
  else if b = 0xF4 then some (4, 0x80, 0x8F)
  else none

/-- The `size` result of `utf8.DecodeRuneInString(s)`: the length of the UTF-8 sequence
that starts `s`, `1` when its first byte does not start a valid sequence, `0` for the
empty string. -/
def runeSize : GoString → Nat
  | [] => 0
  | b0 :: rest =>
    match leadingByte b0, rest with
    | some (n, lo, hi), b1 :: rest =>
      if b1 < lo || hi < b1 then 1 else
      if n = 2 then 2 else
      match rest with
      | b2 :: rest =>
        if !isContinuation b2 then 1 else
        if n = 3 then 3 else
        match rest with
        | b3 :: _ => if isContinuation b3 then 4 else 1
        | [] => 1
      | [] => 1
    | _, _ => 1

/-- A non-empty string starts with a sequence of one to all of its bytes. -/
theorem runeSize_pos_le {s : GoString} (h : s ≠ []) : 0 < runeSize s ∧ runeSize s ≤ s.length := by
  match s with
  | [] => exact absurd rfl h
  | b0 :: rest =>
      rcases hb : leadingByte b0 with _ | ⟨n, lo, hi⟩
      · simp [runeSize, hb]
      · rcases rest with _ | ⟨b1, _ | ⟨b2, _ | ⟨b3, rest⟩⟩⟩ <;>
          simp only [runeSize, hb] <;> (try split_ifs) <;> simp

/-- `explode(s, -1)` of package `strings`, what `strings.Split(s, "")` returns: one string
per UTF-8 sequence of `s`, each invalid byte on its own. (The source counts the sequences
with `utf8.RuneCountInString` first and cuts as many times; cutting until the string is
empty gives the same pieces.) -/
def explode : GoString → List GoString
  | [] => []
  | b :: rest => (b :: rest).take (runeSize (b :: rest)) :: explode ((b :: rest).drop (runeSize (b :: rest)))
termination_by s => s.length
decreasing_by
  simp only [List.length_drop]
  exact Nat.sub_lt (List.length_pos.mpr (List.cons_ne_nil _ _))
    (runeSize_pos_le (List.cons_ne_nil _ _)).1

/-- The pieces of `explode` are consecutive: together they are the string. -/
theorem flatten_explode (s : GoString) : (explode s).flatten = s := by
  induction s using explode.induct with
  | case1 => simp [explode]
  | case2 b rest ih => rw [explode, List.flatten_cons, ih, List.take_append_drop]

/-- `genSplit(s, sep, 0, -1)` of package `strings` for a non-empty `sep`, what
`strings.Split(s, sep)` returns: the text before the first occurrence of `sep`, then the
split of the text after it. (The source counts the occurrences with `strings.Count`
first and cuts that many times; cutting until no occurrence is left gives the same
pieces.) -/
def genSplit (sep : GoString) (hsep : sep ≠ []) (s : GoString) : List GoString :=
  match _h : index s sep with
  | none => [s]
  | some m => s.take m :: genSplit sep hsep (s.drop (m + sep.length))
termination_by s.length
decreasing_by
  have := index_add_length_le hsep _h
  have : sep.length ≠ 0 := by simpa using hsep
  simp only [List.length_drop]
  omega

theorem genSplit_of_index_none {sep : GoString} (hsep : sep ≠ []) {s : GoString}
    (h : index s sep = none) : genSplit sep hsep s = [s] := by
  rw [genSplit]; split <;> simp_all

theorem genSplit_of_index_some {sep : GoString} (hsep : sep ≠ []) {s : GoString} {m : Nat}
    (h : index s sep = some m) :
    genSplit sep hsep s = s.take m :: genSplit sep hsep (s.drop (m + sep.length)) := by
  rw [genSplit]; split <;> simp_all

theorem genSplit_ne_nil (sep : GoString) (hsep : sep ≠ []) (s : GoString) :
    genSplit sep hsep s ≠ [] := by
  rw [genSplit]; split <;> simp

/-- `strings.Split(s, sep)`. -/
def split (s sep : GoString) : List GoString :=
  if h : sep = [] then explode s else genSplit sep h s

/-! ## The two round trips -/

theorem join_genSplit (sep : GoString) (hsep : sep ≠ []) (s : GoString) :
    join (genSplit sep hsep s) sep = s := by
  induction s using genSplit.induct sep hsep with
  | case1 s h => rw [genSplit_of_index_none hsep h, join]
  | case2 s m h ih =>
      obtain ⟨t, ht⟩ := ((index_eq_some_iff s sep m).mp h).1
      have hrest : s.drop (m + sep.length) = t := by rw [← List.drop_drop, ← ht, List.drop_left]
      rw [genSplit_of_index_some hsep h, join_cons_of_ne_nil _ _ (genSplit_ne_nil _ _ _), ih,
        hrest, List.append_assoc, ht, List.take_append_drop]

/-- **Joining a split gives the string back**, for every string and every separator. -/
theorem join_split (s sep : GoString) : join (split s sep) sep = s := by
  unfold split
  split_ifs with h
  · rw [h, join_nil_sep, flatten_explode]
  · exact join_genSplit sep h s

/-- The offsets at which `join elems sep` puts a separator. -/
def separatorOffsets (sep : GoString) : List GoString → List Nat
  | [] => []
  | [_] => []
  | x :: y :: rest => x.length :: (separatorOffsets sep (y :: rest)).map (· + (x.length + sep.length))

theorem genSplit_join (sep : GoString) (hsep : sep ≠ []) :
    ∀ (elems : List GoString), elems ≠ [] →
      (∀ p, sep <+: (join elems sep).drop p → p ∈ separatorOffsets sep elems) →
      genSplit sep hsep (join elems sep) = elems
  | [], h, _ => absurd rfl h
  | [x], _, hocc => by
      rw [join, genSplit_of_index_none hsep]
      exact (index_eq_none_iff x sep).mpr fun p hp => by simpa [separatorOffsets] using hocc p hp
  | x :: y :: rest, _, hocc => by
      have hsep' : sep.length ≠ 0 := by simpa using hsep
      have hidx : index (join (x :: y :: rest) sep) sep = some x.length := by
        rw [index_eq_some_iff]
        refine ⟨by simp [join], fun p hp hp' => ?_⟩
        have := hocc p hp'
        simp only [separatorOffsets, List.mem_cons, List.mem_map] at this
        rcases this with h1 | ⟨q, -, hq⟩ <;> omega
      rw [genSplit_of_index_some hsep hidx]
      have htail : (join (x :: y :: rest) sep).drop (x.length + sep.length) = join (y :: rest) sep := by
        simp [join, List.drop_append_eq_append_drop]
      rw [htail, genSplit_join sep hsep (y :: rest) (by simp)]
      · simp [join]
      · intro p hp
        have := hocc (x.length + sep.length + p) (by rwa [← List.drop_drop, htail])
        simp only [separatorOffsets, List.mem_cons, List.mem_map] at this
        rcases this with h1 | ⟨q, hq, hqp⟩
        · omega
        · obtain rfl : q = p := by omega
          exact hq

/-- **Splitting a join gives the pieces back**, when the separator is not empty and occurs
in the joined string only at the offsets where `join` put it. -/
theorem split_join (elems : List GoString) (sep : GoString) (hne : elems ≠ []) (hsep : sep ≠ [])
    (hocc : ∀ p, sep <+: (join elems sep).drop p → p ∈ separatorOffsets sep elems) :
    split (join elems sep) sep = elems := by
  rw [split, dif_neg hsep, genSplit_join sep hsep elems hne hocc]

end Strings

end TestkubeExpressions
