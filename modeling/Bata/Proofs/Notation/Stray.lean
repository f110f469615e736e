import Bata.Proofs.Notation.Sections
import Bata.Proofs.Toque.Warning
import Mathlib.Data.Set.Function

namespace Bata.Notation

/-- How many characters the first `i` lines give to a drum. -/
def columnsAbove (ls : List (List Char)) (d : Drum) (i : Nat) : Nat :=
  (contentLines (ls.take i) d).flatten.length

/-- Line `i` is the content line `l` in a section of the drum. -/
structure IsLineOf (ls : List (List Char)) (d : Drum) (i : Nat) (l : List Char) : Prop where
  line : ls[i]? = some l
  content : IsContent l
  drum : sectionOf (ls.take i) = some d

/-- A character in the section of a drum, with its line and its place in that line. -/
structure Stray where
  drum : Drum
  line : Nat
  index : Nat
  symbol : Char
  deriving DecidableEq, Repr

namespace Stray

/-- It stands there, and for no stroke. -/
def StandsIn (ls : List (List Char)) (s : Stray) : Prop :=
  ∃ l, IsLineOf ls s.drum s.line l ∧ l[s.index]? = some s.symbol ∧
    s.symbol ∉ ['-', 'A', 'P', 'S', 'I']

def column (ls : List (List Char)) (s : Stray) : Nat :=
  columnsAbove ls s.drum s.line + s.index

def warning (ls : List (List Char)) (s : Stray) : Warning :=
  .unknownSymbol s.drum (s.column ls) s.symbol

end Stray

/-- The value of the last time header, or else the signature that stands alone. -/
def signatureOf (text : String) : String :=
  ((bodyLines text).filter IsTime).getLast?.elim ((bareLine? text).elim "" String.ofList)
    (valueAfter timeLabel)

theorem contentLines_take_succ {ls : List (List Char)} {i : Nat} {l : List Char}
    (h : ls[i]? = some l) (d : Drum) :
    contentLines (ls.take (i + 1)) d = contentLines (ls.take i) d ++
      if IsContent l ∧ sectionOf (ls.take i) = some d then [l] else [] := by
  rw [List.take_add_one, h, Option.toList_some, contentLines_concat]

theorem contentLines_take_prefix (ls : List (List Char)) (d : Drum) {i j : Nat} (h : i ≤ j) :
    contentLines (ls.take i) d <+: contentLines (ls.take j) d := by
  induction j, h using Nat.le_induction with
  | base => exact List.prefix_rfl
  | succ j _ ih =>
    cases hj : ls[j]? with
    | none =>
      have hend : ls.length ≤ j := List.getElem?_eq_none_iff.1 hj
      rw [List.take_of_length_le hend] at ih
      rwa [List.take_of_length_le (Nat.le_succ_of_le hend)]
    | some l =>
      rw [contentLines_take_succ hj]
      exact ih.trans (List.prefix_append _ _)

/-- What a content line adds stands right behind what the lines above it gave. -/
theorem IsLineOf.exists_flatten_eq {ls : List (List Char)} {d : Drum} {i j : Nat} {l : List Char}
    (hl : IsLineOf ls d i l) (h : i < j) :
    ∃ more, (contentLines (ls.take j) d).flatten =
      (contentLines (ls.take i) d).flatten ++ (l ++ more) := by
  obtain ⟨more, hmore⟩ := contentLines_take_prefix ls d (Nat.succ_le_of_lt h)
  refine ⟨more.flatten, ?_⟩
  rw [← hmore, contentLines_take_succ hl.line, if_pos ⟨hl.content, hl.drum⟩]
  simp

theorem IsLineOf.columnsAbove_add_length_le {ls : List (List Char)} {d : Drum} {i j : Nat}
    {l : List Char} (hl : IsLineOf ls d i l) (h : i < j) :
    columnsAbove ls d i + l.length ≤ columnsAbove ls d j := by
  obtain ⟨more, hmore⟩ := hl.exists_flatten_eq h
  rw [columnsAbove, columnsAbove, hmore, List.length_append, List.length_append]
  omega

theorem exists_line_of_getElem? {ls : List (List Char)} {d : Drum} {column n : Nat} {c : Char}
    (h : (contentLines (ls.take n) d).flatten[column]? = some c) :
    ∃ i l k, IsLineOf ls d i l ∧ l[k]? = some c ∧ columnsAbove ls d i + k = column := by
  induction n with
  | zero => simp [contentLines] at h
  | succ n ih =>
    cases hn : ls[n]? with
    | none =>
      have hend : ls.length ≤ n := List.getElem?_eq_none_iff.1 hn
      rw [List.take_of_length_le (Nat.le_succ_of_le hend)] at h
      rw [List.take_of_length_le hend] at ih
      exact ih h
    | some l =>
      rw [contentLines_take_succ hn] at h
      by_cases hl : IsContent l ∧ sectionOf (ls.take n) = some d
      · rw [if_pos hl, List.flatten_append, List.flatten_singleton, List.getElem?_append] at h
        -- the column is in a line above, or in this one
        split_ifs at h with habove
        · exact ih h
        · refine ⟨n, l, _, ⟨hn, hl.1, hl.2⟩, h, ?_⟩
          rw [columnsAbove]
          omega
      · rw [if_neg hl, List.append_nil] at h
        exact ih h

theorem getElem?_flatten_contentLines {ls : List (List Char)} {d : Drum} {column : Nat} {c : Char} :
    (contentLines ls d).flatten[column]? = some c ↔
      ∃ i l k, IsLineOf ls d i l ∧ l[k]? = some c ∧ columnsAbove ls d i + k = column := by
  constructor
  · intro h
    rw [← List.take_length (l := ls)] at h
    exact exists_line_of_getElem? h
  · rintro ⟨i, l, k, hl, hk, rfl⟩
    have hi : i < ls.length := (List.getElem?_eq_some_iff.1 hl.line).1
    have hklt : k < l.length := (List.getElem?_eq_some_iff.1 hk).1
    obtain ⟨more, hmore⟩ := hl.exists_flatten_eq hi
    rw [List.take_length] at hmore
    rw [hmore, columnsAbove, List.getElem?_append_right (Nat.le_add_right _ _),
      Nat.add_sub_cancel_left, List.getElem?_append_left hklt, hk]

theorem part_ofText (text : String) (d : Drum) :
    (Toque.ofText text).part d = String.ofList (contentLines (bodyLines text) d).flatten := by
  rw [ofText_eq_readLines, part_readLines rfl]

theorem part_ofText_ne_empty_iff {text : String} {d : Drum} :
    (Toque.ofText text).part d ≠ "" ↔ ∃ l ∈ contentLines (bodyLines text) d, l ≠ [] := by
  rw [part_ofText, Ne, String.ofList_eq_empty_iff, List.flatten_eq_nil_iff]
  push Not
  rfl

theorem forall_mem_part_ofText_iff {text : String} {d : Drum} {p : Char → Prop} :
    (∀ c ∈ ((Toque.ofText text).part d).toList, p c) ↔
      ∀ l ∈ contentLines (bodyLines text) d, ∀ c ∈ l, p c := by
  rw [part_ofText, String.toList_ofList, List.forall_mem_flatten]

theorem timeSignature_ofText (text : String) :
    (Toque.ofText text).timeSignature = signatureOf text := by
  rw [ofText_eq_readLines, timeSignature_readLines rfl]
  rfl

theorem unknownSymbol_mem_warnings_ofText {text : String} {d : Drum} {column : Nat} {c : Char} :
    .unknownSymbol d column c ∈ (Toque.ofText text).warnings ↔
      ∃ s : Stray, s.StandsIn (bodyLines text) ∧
        s.warning (bodyLines text) = .unknownSymbol d column c := by
  rw [Toque.unknownSymbol_mem_warnings, part_ofText, String.toList_ofList,
    getElem?_flatten_contentLines, Stroke.ofSymbol?_eq_none_iff]
  constructor
  · rintro ⟨⟨i, l, k, hl, hk, rfl⟩, hc⟩
    exact ⟨⟨d, i, k, c⟩, ⟨l, hl, hk, hc⟩, rfl⟩
  · rintro ⟨s, ⟨l, hl, hk, hc⟩, hs⟩
    obtain ⟨rfl, rfl, rfl⟩ := Warning.unknownSymbol.inj hs
    exact ⟨⟨s.line, l, s.index, hl, hk, rfl⟩, hc⟩

namespace Stray

/-- The later of two strays of a drum has a column beyond the whole line of the earlier one. -/
theorem column_lt {ls : List (List Char)} {s u : Stray} (hs : s.StandsIn ls)
    (hdrum : s.drum = u.drum) (hline : s.line < u.line) : s.column ls < u.column ls := by
  obtain ⟨l, hl, hindex, -⟩ := hs
  have hlength : s.index < l.length := (List.getElem?_eq_some_iff.1 hindex).1
  have hbelow := hl.columnsAbove_add_length_le hline
  rw [column, column, ← hdrum]
  omega

theorem warning_injOn (ls : List (List Char)) : Set.InjOn (warning ls) {s | s.StandsIn ls} := by
  intro s hs u hu h
  obtain ⟨hdrum, hcolumn, hsymbol⟩ := Warning.unknownSymbol.inj h
  have hline : s.line = u.line := by
    rcases Nat.lt_trichotomy s.line u.line with hlt | heq | hgt
    · exact absurd hcolumn (column_lt hs hdrum hlt).ne
    · exact heq
    · exact absurd hcolumn (column_lt hu hdrum.symm hgt).ne'
  have hindex : s.index = u.index := by
    rw [column, column, hdrum, hline] at hcolumn
    exact Nat.add_left_cancel hcolumn
  cases s
  cases u
  simp_all

end Stray

/-- One warning of an unknown symbol for each stray character, and no warning at all where the
signature is known and each drum has something to play and only strokes and rests. -/
theorem warnings_of_text (text : String) :
    Set.BijOn (Stray.warning (bodyLines text)) {s | s.StandsIn (bodyLines text)}
        {w | w ∈ (Toque.ofText text).warnings ∧ ∃ d column c, w = .unknownSymbol d column c} ∧
      (Toque.ofText text).warnings.Nodup ∧
      ((Toque.ofText text).warnings = [] ↔
        (signatureOf text = "4/4" ∨ signatureOf text = "6/8") ∧
          (∀ d, ∃ l ∈ contentLines (bodyLines text) d, l ≠ []) ∧
          ∀ d, ∀ l ∈ contentLines (bodyLines text) d, ∀ c ∈ l, c ∈ ['-', 'A', 'P', 'S', 'I']) := by
  refine ⟨⟨fun s hs => ⟨?_, _, _, _, rfl⟩, Stray.warning_injOn _, ?_⟩,
    (Toque.ofText text).pairwise_warnings.imp Warning.Before.ne, ?_⟩
  · exact unknownSymbol_mem_warnings_ofText.2 ⟨s, hs, rfl⟩
  · rintro w ⟨hw, d, column, c, rfl⟩
    exact unknownSymbol_mem_warnings_ofText.1 hw
  · rw [Toque.warnings_eq_nil_iff, timeSignature_ofText]
    simp only [part_ofText_ne_empty_iff, forall_mem_part_ofText_iff]

example : (Toque.ofText "6/8\nIya\n A?\nOkonkolo\nX\nIya\n-!").warnings =
    [.unknownSymbol .okonkolo 0 'X', .noSymbols .itotele, .unknownSymbol .iya 1 '?',
      .unknownSymbol .iya 3 '!'] := by decide

end Bata.Notation
