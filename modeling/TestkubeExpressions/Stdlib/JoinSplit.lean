import TestkubeExpressions.Stdlib.Functions

set_option autoImplicit false

/-! # `join` and `split` are inverse

At the level of the handlers: `split` returns the sequence of the pieces of
`strings.Split`, `join` reads the text of each item back (a string is its own text) and
calls `strings.Join`. The two round trips of `Basic/GoString.lean` then carry over, with
the explicit separator and with the default `","` of both.
-/

namespace TestkubeExpressions

variable (lib : GoLib)

/-- The texts of a sequence of strings are the strings. -/
theorem texts_of_strings (parts : List GoString) :
    (parts.map Value.string).map (fun x => valueIgnoringError (x.stringValue lib)) = parts := by
  simp [Function.comp_def]

theorem stdSplit_sep (s sep : GoString) :
    stdSplit lib [.string s, .string sep] =
      .ok (newValue (.slice ((Strings.split s sep).map .string))) := rfl

theorem stdSplit_default (s : GoString) :
    stdSplit lib [.string s] = .ok (newValue (.slice ((Strings.split s comma).map .string))) := rfl

theorem stdJoin_sep (parts : List GoString) (sep : GoString) :
    stdJoin lib [.slice (parts.map .string), .string sep] =
      .ok (newValue (.string (Strings.join parts sep))) := by
  simp only [stdJoin, Value.isNone, Value.isSlice, Value.sliceValue_slice, texts_of_strings]
  rfl

theorem stdJoin_default (parts : List GoString) :
    stdJoin lib [.slice (parts.map .string)] = .ok (newValue (.string (Strings.join parts comma))) := by
  simp only [stdJoin, Value.isNone, Value.isSlice, Value.sliceValue_slice, texts_of_strings]
  rfl

/-- **`join` and `split` are mutually inverse.** For every string and every separator
(the empty one included, and also with both separators omitted), `join` of the value
`split` returns is the string. Conversely, for a non-empty list of strings and a
non-empty separator that occurs in the joined string only where `join` put it, `split`
of the joined string is the list. -/
theorem join_split_inverse :
    (∀ s sep : GoString, ∃ parts,
      stdSplit lib [.string s, .string sep] = .ok (newValue parts) ∧
      stdJoin lib [parts, .string sep] = .ok (newValue (.string s))) ∧
    (∀ s : GoString, ∃ parts,
      stdSplit lib [.string s] = .ok (newValue parts) ∧
      stdJoin lib [parts] = .ok (newValue (.string s))) ∧
    (∀ (parts : List GoString) (sep : GoString), parts ≠ [] → sep ≠ [] →
      (∀ p, sep <+: (Strings.join parts sep).drop p → p ∈ Strings.separatorOffsets sep parts) →
      stdJoin lib [.slice (parts.map .string), .string sep] =
        .ok (newValue (.string (Strings.join parts sep))) ∧
      stdSplit lib [.string (Strings.join parts sep), .string sep] =
        .ok (newValue (.slice (parts.map .string)))) := by
  refine ⟨fun s sep => ⟨_, stdSplit_sep lib s sep, ?_⟩, fun s => ⟨_, stdSplit_default lib s, ?_⟩,
    fun parts sep hne hsep hocc => ⟨stdJoin_sep lib parts sep, ?_⟩⟩
  · rw [stdJoin_sep, Strings.join_split]
  · rw [stdJoin_default, Strings.join_split]
  · rw [stdSplit_sep, Strings.split_join parts sep hne hsep hocc]

/-- The converse at the pieces `"a"`, `"b"` and the separator `","`, which occurs in
`"a,b"` only where `join` put it. -/
theorem join_split_inverse_ab :
    [[97], [98]] ≠ ([] : List GoString) ∧ ([44] : GoString) ≠ [] ∧
    (∀ p, ([44] : GoString) <+: (Strings.join [[97], [98]] [44]).drop p →
      p ∈ Strings.separatorOffsets [44] [[97], [98]]) ∧
    stdJoin GoLib.trivial [.slice ([[97], [98]].map .string), .string [44]] =
      .ok (newValue (.string (Strings.join [[97], [98]] [44]))) ∧
    stdSplit GoLib.trivial [.string (Strings.join [[97], [98]] [44]), .string [44]] =
      .ok (newValue (.slice ([[97], [98]].map .string))) := by
  have hocc : ∀ p, ([44] : GoString) <+: (Strings.join [[97], [98]] [44]).drop p →
      p ∈ Strings.separatorOffsets [44] [[97], [98]] := by
    intro p hp
    rcases p with _ | _ | _ | p <;> simp_all [Strings.join, Strings.separatorOffsets]
  exact ⟨by simp, by simp, hocc,
    (join_split_inverse GoLib.trivial).2.2 [[97], [98]] [44] (by simp) (by simp) hocc⟩

end TestkubeExpressions
