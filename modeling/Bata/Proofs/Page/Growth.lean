import Bata.Proofs.Toque.Warning
import Mathlib.Data.List.Basic

namespace Bata

open Markup

namespace Warning

def isOf (d : Drum) : Warning → Bool
  | .unknownSignature _ => false
  | .unknownSymbol e _ _ => e = d
  | .noSymbols e => e = d

end Warning

/-- A cell with nothing in its picture. -/
def DataCell.IsBlank (cell : DataCell) : Prop :=
  cell.content = [.element "svg" [] []]

/-- How the rows of a table with `n` columns grow when `more` is put behind the `k` symbols of a
drum. -/
structure RowsGrow (d : Drum) (n k : Nat) (more : List Char)
    (upper lower upper' lower' : TableRow) (row row' : Drum → TableRow) : Prop where
  upperCells : upper'.cells.take n = upper.cells
  lowerCells : lower'.cells.take n = lower.cells
  otherCells : ∀ e ≠ d, (row' e).cells.take n = (row e).cells ∧
    ∀ cell ∈ (row' e).cells.drop n, cell.IsBlank
  oldCells : (row' d).cells.take k = (row d).cells.take k
  newCells : (((row' d).cells.drop k).take more.length).map DataCell.content =
    more.map fun c => [.element "svg" [] (Toque.glyph d c)]
  lastCells : ∀ cell ∈ (row' d).cells.drop (k + more.length), cell.IsBlank

namespace Toque

def append (t : Toque) (d : Drum) (more : String) : Toque :=
  { t with parts := t.parts.append d more }

/-- The warnings about some symbols, the first of which stands in column `k`. -/
def symbolWarnings (d : Drum) (k : Nat) (symbols : List Char) : List Warning :=
  (symbols.zipIdx k).filterMap fun (c, column) =>
    if c ∈ ['-', 'A', 'P', 'S', 'I'] then none else some (.unknownSymbol d column c)

theorem part_append (t : Toque) (d : Drum) (more : String) :
    (t.append d more).part d = t.part d ++ more := by
  rw [part, append, Parts.get?_append, if_pos rfl]
  rfl

theorem part_append_of_ne (t : Toque) {d e : Drum} (h : e ≠ d) (more : String) :
    (t.append d more).part e = t.part e := by
  rw [part, append, Parts.get?_append, if_neg h]
  rfl

theorem columns_append (t : Toque) (d : Drum) (more : String) :
    (t.append d more).columns = max t.columns ((t.part d).length + more.length) := by
  have hown : ((t.append d more).part d).length = (t.part d).length + more.length := by
    rw [part_append, String.length_append]
  apply eq_of_forall_ge_iff
  intro n
  rw [columns_le_iff, Nat.max_le, columns_le_iff]
  constructor
  · intro h
    have hd := h d
    rw [hown] at hd
    refine ⟨fun e => ?_, hd⟩
    by_cases he : e = d
    · rw [he]
      omega
    · rw [← part_append_of_ne t he more]
      exact h e
  · rintro ⟨hold, hnew⟩ e
    by_cases he : e = d
    · rwa [he, hown]
    · rw [part_append_of_ne t he]
      exact hold e

theorem symbolAt_append_of_ne (t : Toque) {d e : Drum} (h : e ≠ d) (more : String) (i : Nat) :
    (t.append d more).symbolAt e i = t.symbolAt e i := by
  rw [symbolAt, symbolAt, part_append_of_ne t h]

theorem symbolAt_append_of_lt (t : Toque) {d : Drum} {i : Nat} (h : i < (t.part d).length)
    (more : String) : (t.append d more).symbolAt d i = t.symbolAt d i := by
  rw [symbolAt, symbolAt, part_append, String.toList_append,
    List.getD_append _ _ _ _ (by rwa [String.length_toList])]

theorem symbolAt_append_add (t : Toque) (d : Drum) (more : String) (i : Nat) :
    (t.append d more).symbolAt d ((t.part d).length + i) =
      more.toList.getD i Stroke.rest.symbol := by
  rw [symbolAt, part_append, String.toList_append,
    List.getD_append_right _ _ _ _ (by rw [String.length_toList]; omega), String.length_toList,
    Nat.add_sub_cancel_left]

theorem forall_mem_drop_map_range {α : Type} {p : α → Prop} {f : Nat → α} {m : Nat}
    (h : ∀ i, m ≤ i → p (f i)) (n : Nat) : ∀ x ∈ ((List.range n).map f).drop m, p x := by
  intro x hx
  obtain ⟨i, hi, rfl⟩ := List.mem_drop_iff_getElem.1 hx
  rw [List.getElem_map, List.getElem_range]
  exact h _ (Nat.le_add_right m i)

theorem isBlank_drumCell {t : Toque} {d : Drum} {i : Nat} (h : (t.part d).length ≤ i) :
    (t.drumCell d i).IsBlank := by
  have hrest : t.symbolAt d i = '-' :=
    List.getD_eq_default _ _ (by rwa [String.length_toList])
  have hglyph : glyph d (t.symbolAt d i) = [] := glyph_eq_nil_iff.2 (.inl hrest)
  rw [DataCell.IsBlank, drumCell, hglyph]

theorem drumCell_append_of_ne (t : Toque) {d e : Drum} (h : e ≠ d) (more : String) :
    (t.append d more).drumCell e = t.drumCell e := by
  funext i
  rw [drumCell, drumCell, symbolAt_append_of_ne t h]
  rfl

theorem drumCell_append_of_lt (t : Toque) {d : Drum} {i : Nat} (h : i < (t.part d).length)
    (more : String) : (t.append d more).drumCell d i = t.drumCell d i := by
  rw [drumCell, drumCell, symbolAt_append_of_lt t h]
  rfl

theorem rowsGrow_append (t : Toque) (d : Drum) (more : String) :
    RowsGrow d t.columns (t.part d).length more.toList t.upperRow t.lowerRow
      (t.append d more).upperRow (t.append d more).lowerRow t.drumRow (t.append d more).drumRow := by
  have hk := t.length_part_le_columns d
  have hcolumns := t.columns_append d more
  have hlength := String.length_toList (s := more)
  have hn : t.columns ≤ (t.append d more).columns := by omega
  refine ⟨take_map_range _ hn, take_map_range _ hn, ?_, ?_, ?_, ?_⟩
  · intro e he
    rw [drumRow, drumRow, drumCell_append_of_ne t he]
    exact ⟨take_map_range _ hn, forall_mem_drop_map_range
      (fun i hi => isBlank_drumCell ((t.length_part_le_columns e).trans hi)) _⟩
  · rw [drumRow, drumRow, take_map_range _ hk, take_map_range _ (hk.trans hn)]
    apply List.map_congr_left
    intro i hi
    exact drumCell_append_of_lt t (List.mem_range.1 hi) more
  · apply List.ext_getElem
    · simp [drumRow]
      omega
    · intro i hi _
      have hmore : i < more.toList.length := by
        simp at hi
        omega
      simp only [drumRow, drumCell, List.getElem_map, List.getElem_take, List.getElem_drop,
        List.getElem_range, symbolAt_append_add, List.getD_eq_getElem _ _ hmore]
  · apply forall_mem_drop_map_range
    intro i hi
    apply isBlank_drumCell
    rwa [part_append, String.length_append, ← hlength]

theorem symbolWarnings_append (d : Drum) (k : Nat) (xs ys : List Char) :
    symbolWarnings d k (xs ++ ys) =
      symbolWarnings d k xs ++ symbolWarnings d (k + xs.length) ys := by
  rw [symbolWarnings, List.zipIdx_append, List.filterMap_append]
  rfl

theorem map_unknownSymbols (d : Drum) (symbols : List Char) :
    (unknownSymbols symbols).map (fun (column, c) => Warning.unknownSymbol d column c) =
      symbolWarnings d 0 symbols := by
  rw [unknownSymbols, symbolWarnings, List.map_filterMap]
  apply List.filterMap_congr
  rintro ⟨c, column⟩ -
  simp only [Option.isNone_iff_eq_none, Stroke.ofSymbol?_eq_none_iff]
  split_ifs <;> rfl

theorem partWarnings_eq (t : Toque) (d : Drum) :
    t.partWarnings d =
      if t.part d = "" then [.noSymbols d] else symbolWarnings d 0 (t.part d).toList := by
  rw [partWarnings, map_unknownSymbols]

theorem noSymbols_not_mem_symbolWarnings (d : Drum) (k : Nat) (symbols : List Char) :
    .noSymbols d ∉ symbolWarnings d k symbols := by
  intro h
  obtain ⟨⟨c, column⟩, -, hw⟩ := List.mem_filterMap.1 h
  dsimp only at hw
  split_ifs at hw
  cases hw

theorem isOf_of_mem_partWarnings {t : Toque} {d e : Drum} {w : Warning}
    (h : w ∈ t.partWarnings e) : w.isOf d = decide (e = d) := by
  obtain ⟨-, rfl⟩ | ⟨i, c, -, rfl⟩ := mem_partWarnings.1 h
  · rfl
  · rfl

theorem partWarnings_append_of_ne (t : Toque) {d e : Drum} (h : e ≠ d) (more : String) :
    (t.append d more).partWarnings e = t.partWarnings e := by
  rw [partWarnings, partWarnings, part_append_of_ne t h]

/-- With symbols that are added, a part that had none is no longer warned of. -/
theorem partWarnings_append (t : Toque) (d : Drum) (more : String) :
    (t.append d more).partWarnings d =
      (if more = "" then t.partWarnings d
        else (t.partWarnings d).filter (· ≠ .noSymbols d)) ++
          symbolWarnings d (t.part d).length more.toList := by
  rw [partWarnings_eq, partWarnings_eq, part_append]
  by_cases hmore : more = ""
  · subst hmore
    rw [String.append_empty, if_pos rfl]
    exact (List.append_nil _).symm
  · have hne : t.part d ++ more ≠ "" := fun h => hmore (String.append_eq_empty_iff.1 h).2
    have hkept : (symbolWarnings d 0 (t.part d).toList).filter (· ≠ .noSymbols d) =
        symbolWarnings d 0 (t.part d).toList := by
      rw [List.filter_eq_self]
      intro w hw
      rw [decide_eq_true_eq]
      rintro rfl
      exact noSymbols_not_mem_symbolWarnings _ _ _ hw
    rw [if_neg hne, if_neg hmore, String.toList_append, symbolWarnings_append, Nat.zero_add,
      String.length_toList]
    by_cases hpart : t.part d = ""
    · rw [if_pos hpart, hpart]
      simp [symbolWarnings]
    · rw [if_neg hpart, hkept]

theorem exists_all_eq (d : Drum) : ∃ ds es, Drum.all = ds ++ d :: es ∧ d ∉ ds ∧ d ∉ es := by
  cases d with
  | okonkolo => exact ⟨[], [.itotele, .iya], rfl, by decide, by decide⟩
  | itotele => exact ⟨[.okonkolo], [.iya], rfl, by decide, by decide⟩
  | iya => exact ⟨[.okonkolo, .itotele], [], rfl, by decide, by decide⟩

theorem isOf_eq_false_of_mem_flatMap {t : Toque} {d : Drum} {ds : List Drum} (h : d ∉ ds) :
    ∀ w ∈ ds.flatMap t.partWarnings, w.isOf d = false := by
  intro w hw
  obtain ⟨e, he, hmem⟩ := List.mem_flatMap.1 hw
  rw [isOf_of_mem_partWarnings hmem, decide_eq_false_iff_not]
  rintro rfl
  exact h he

theorem flatMap_partWarnings_append (t : Toque) {d : Drum} {ds : List Drum} (h : d ∉ ds)
    (more : String) : ds.flatMap (t.append d more).partWarnings = ds.flatMap t.partWarnings := by
  apply List.flatMap_congr
  intro e he
  apply partWarnings_append_of_ne
  rintro rfl
  exact h he

theorem isOf_eq_false_of_mem_signatureWarnings {t : Toque} {w : Warning} (h : w ∈ t.signatureWarnings)
    (d : Drum) : w.isOf d = false := by
  rw [(mem_signatureWarnings.1 h).2]
  rfl

theorem exists_warnings_append (t : Toque) (d : Drum) (more : String) :
    ∃ before own after, t.warnings = before ++ own ++ after ∧
      (t.append d more).warnings =
        before ++ ((if more = "" then own else own.filter (· ≠ .noSymbols d)) ++
          symbolWarnings d (t.part d).length more.toList) ++ after ∧
      (∀ w ∈ own, w.isOf d = true) ∧ ∀ w ∈ before ++ after, w.isOf d = false := by
  obtain ⟨ds, es, hall, hds, hes⟩ := exists_all_eq d
  refine ⟨t.signatureWarnings ++ ds.flatMap t.partWarnings, t.partWarnings d,
    es.flatMap t.partWarnings, ?_, ?_, ?_, ?_⟩
  · rw [warnings, hall, List.flatMap_append, List.flatMap_cons]
    simp only [List.append_assoc]
  · rw [warnings, hall, List.flatMap_append, List.flatMap_cons, partWarnings_append,
      flatMap_partWarnings_append t hds, flatMap_partWarnings_append t hes]
    simp only [List.append_assoc]
    rfl
  · intro w hw
    rw [isOf_of_mem_partWarnings hw, decide_eq_true_eq]
  · intro w hw
    rw [List.mem_append, List.mem_append] at hw
    obtain (hw | hw) | hw := hw
    · exact isOf_eq_false_of_mem_signatureWarnings hw d
    · exact isOf_eq_false_of_mem_flatMap hds w hw
    · exact isOf_eq_false_of_mem_flatMap hes w hw

/-- More symbols for a drum extend its row and its warnings and change nothing else, but for blank
cells that fill the other rows up and for the warning that the drum has no symbols. -/
theorem append_only_extends (t : Toque) (d : Drum) (more : String) :
    (t.append d more).columns = max t.columns ((t.part d).length + more.length) ∧
      (∃ upper lower row upper' lower' row',
        tableRows? t.document = some (upper :: lower :: Drum.all.map row) ∧
          tableRows? (t.append d more).document =
            some (upper' :: lower' :: Drum.all.map row') ∧
          RowsGrow d t.columns (t.part d).length more.toList upper lower upper' lower' row row') ∧
      ∃ before own after, t.warnings = before ++ own ++ after ∧
        (t.append d more).warnings =
          before ++ ((if more = "" then own else own.filter (· ≠ .noSymbols d)) ++
            symbolWarnings d (t.part d).length more.toList) ++ after ∧
        (∀ w ∈ own, w.isOf d = true) ∧ ∀ w ∈ before ++ after, w.isOf d = false :=
  ⟨t.columns_append d more,
    ⟨_, _, _, _, _, _, t.tableRows?_eq, (t.append d more).tableRows?_eq, t.rowsGrow_append d more⟩,
    t.exists_warnings_append d more⟩

example : warnings ⟨"", "4/4", Parts.append ⟨none, some "A?", none⟩ .itotele "S!"⟩ =
    [.noSymbols .okonkolo, .unknownSymbol .itotele 1 '?', .unknownSymbol .itotele 3 '!',
      .noSymbols .iya] := by decide

end Toque

end Bata
