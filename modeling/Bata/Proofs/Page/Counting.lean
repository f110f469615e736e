import Bata.Proofs.Chart
import Bata.Proofs.Page.Likeness
import Bata.Proofs.Text.Basic

namespace Bata

open Markup

namespace DataCell

/-- The number that is written in a cell. -/
def number? (cell : DataCell) : Option Nat :=
  match innerTextOfAll cell.content with
  | [] => none
  | d :: ds => some (Text.ofDecimal (d :: ds))

def isBarLine (cell : DataCell) : Bool :=
  cell.kind = "bar-line"

end DataCell

def numberAt? (cells : List DataCell) (i : Nat) : Option Nat :=
  cells[i]?.bind DataCell.number?

def barLineAt (cells : List DataCell) (i : Nat) : Bool :=
  cells[i]?.any DataCell.isBarLine

/-- The first column, and each column right behind a bar line. -/
def BeginsBar (cells : List DataCell) : Nat → Prop
  | 0 => True
  | i + 1 => barLineAt cells i = true

/-- What the two counting rows say about the `n` columns of a row and about its bar lines. -/
structure CountsColumns (unit bar n : Nat) (upper lower row : List DataCell) : Prop where
  length_eq : row.length = n
  barLines : row.countP DataCell.isBarLine = n / bar
  /-- From one up to the number of groups, of which the last may be cut short. -/
  upperNumbers : upper.filterMap DataCell.number? = List.range' 1 ((n + unit - 1) / unit)
  upperPlaces : ∀ i < n, (numberAt? upper i).isSome = true ↔ BeginsBar row i
  lowerStarts : ∀ i < n, numberAt? lower i = some 1 ↔ BeginsBar row i
  lowerGrows : ∀ i, i + 1 < n → ¬BeginsBar row (i + 1) →
    numberAt? lower (i + 1) = (numberAt? lower i).map (· + 1)
  lowerEnds : ∀ i < n, numberAt? lower i = some bar ↔ barLineAt row i = true
  /-- The last number above a column or before it, and the number below, tell which column it is. -/
  position : ∀ i < n, ∃ u l,
    ((upper.take (i + 1)).filterMap DataCell.number?).getLast? = some u ∧
      numberAt? lower i = some l ∧ 1 ≤ u ∧ 1 ≤ l ∧ i = (u - 1) * unit + (l - 1)

section cells

variable {cells : List DataCell} {n : Nat}

theorem exists_getElem?_of_map {α : Type} {f : DataCell → α} {g : Nat → α}
    (h : cells.map f = (List.range n).map g) {i : Nat} (hi : i < n) :
    ∃ cell, cells[i]? = some cell ∧ f cell = g i := by
  have hget := congrArg (·[i]?) h
  simpa [List.getElem?_range hi] using hget

theorem numberAt?_eq {number : Nat → Option Nat}
    (h : cells.map DataCell.number? = (List.range n).map number) {i : Nat} (hi : i < n) :
    numberAt? cells i = number i := by
  obtain ⟨cell, hcell, hnumber⟩ := exists_getElem?_of_map h hi
  rw [numberAt?, hcell, Option.bind_some, hnumber]

theorem barLineAt_eq {ends : Nat → Bool}
    (h : cells.map DataCell.isBarLine = (List.range n).map ends) {i : Nat} (hi : i < n) :
    barLineAt cells i = ends i := by
  obtain ⟨cell, hcell, hends⟩ := exists_getElem?_of_map h hi
  rw [barLineAt, hcell, Option.any_some, hends]

theorem filterMap_number?_eq {number : Nat → Option Nat}
    (h : cells.map DataCell.number? = (List.range n).map number) :
    cells.filterMap DataCell.number? = (List.range n).filterMap number := by
  have hnumbers := congrArg (List.filterMap id) h
  rwa [List.filterMap_map, List.filterMap_map] at hnumbers

theorem map_number?_take {number : Nat → Option Nat}
    (h : cells.map DataCell.number? = (List.range n).map number) {k : Nat} (hk : k ≤ n) :
    (cells.take k).map DataCell.number? = (List.range k).map number := by
  rw [List.map_take, h, take_map_range _ hk]

theorem countP_isBarLine_eq {ends : Nat → Bool}
    (h : cells.map DataCell.isBarLine = (List.range n).map ends) :
    cells.countP DataCell.isBarLine = (List.range n).countP ends := by
  have hends := congrArg (List.countP id) h
  rwa [List.countP_map, List.countP_map] at hends

end cells

namespace Toque

theorem groupsAreBars_ruling (t : Toque) : t.ruling.GroupsAreBars := by
  have hlength := t.meter.barLength_eq_four_or_six
  have hgroup := t.meter.groupLength_eq_barLength
  refine ⟨?_, hgroup.symm⟩
  change 0 < t.meter.groupLength
  omega

theorem number?_numberText (kind : String) (n : Nat) :
    DataCell.number? ⟨kind, [Page.numberText n]⟩ = some n := by
  have htext : innerTextOfAll [Page.numberText n] = Text.decimal n := by
    simp [innerTextOfAll, innerText, Page.numberText]
  obtain ⟨d, ds, hds⟩ := List.exists_cons_of_ne_nil (Text.decimal_ne_nil n)
  have hvalue := Text.ofDecimal_decimal n
  rw [hds] at htext hvalue
  simp only [DataCell.number?, htext, hvalue]

theorem map_number?_upperRow (t : Toque) :
    t.upperRow.cells.map DataCell.number? = (List.range t.columns).map t.ruling.groupNumber? := by
  have hgroup : t.ruling.groupLength = t.meter.groupLength := rfl
  rw [upperRow, List.map_map]
  apply List.map_congr_left
  intro i _
  rw [Function.comp_apply, Ruling.groupNumber?, hgroup]
  split_ifs with hi
  · exact number?_numberText _ _
  · rfl

theorem map_number?_lowerRow (t : Toque) :
    t.lowerRow.cells.map DataCell.number? =
      (List.range t.columns).map fun i => some (t.ruling.placeInGroup i) := by
  rw [lowerRow, List.map_map]
  apply List.map_congr_left
  intro i _
  exact number?_numberText _ _

theorem map_isBarLine (t : Toque) (content : Nat → List Markup) :
    ((List.range t.columns).map fun i => ⟨t.columnKind i, content i⟩).map DataCell.isBarLine =
      (List.range t.columns).map t.ruling.endsBar := by
  rw [List.map_map]
  apply List.map_congr_left
  intro i _
  rw [Function.comp_apply, ← barKind_eq, DataCell.isBarLine]
  cases t.ruling.endsBar i <;> rfl

theorem map_isBarLine_of_mem {t : Toque} {row : TableRow}
    (h : row ∈ t.upperRow :: t.lowerRow :: Drum.all.map t.drumRow) :
    row.cells.map DataCell.isBarLine = (List.range t.columns).map t.ruling.endsBar := by
  rw [List.mem_cons, List.mem_cons, List.mem_map] at h
  obtain rfl | rfl | ⟨d, -, rfl⟩ := h
  · exact t.map_isBarLine _
  · exact t.map_isBarLine _
  · exact t.map_isBarLine _

theorem beginsBar_iff {t : Toque} {cells : List DataCell}
    (h : cells.map DataCell.isBarLine = (List.range t.columns).map t.ruling.endsBar) {i : Nat}
    (hi : i < t.columns) : BeginsBar cells i ↔ t.ruling.StartsBar i := by
  cases i with
  | zero => exact Iff.rfl
  | succ i => rw [BeginsBar, Ruling.StartsBar, barLineAt_eq h (by omega)]

theorem countsColumns {t : Toque} {cells : List DataCell}
    (h : cells.map DataCell.isBarLine = (List.range t.columns).map t.ruling.endsBar) :
    CountsColumns t.meter.groupLength t.meter.barLength t.columns t.upperRow.cells t.lowerRow.cells
      cells := by
  have hruling := t.groupsAreBars_ruling
  have hupper := t.map_number?_upperRow
  have hlower := t.map_number?_lowerRow
  refine ⟨?_, ?_, ?_, ?_, ?_, ?_, ?_, ?_⟩
  · simpa using congrArg List.length h
  · rw [countP_isBarLine_eq h, Ruling.countP_endsBar_range]
    rfl
  · rw [filterMap_number?_eq hupper, Ruling.filterMap_groupNumber?_range hruling.pos]
    rfl
  · intro i hi
    rw [numberAt?_eq hupper hi, beginsBar_iff h hi, Ruling.isSome_groupNumber?,
      Ruling.startsBar_iff hruling]
  · intro i hi
    rw [numberAt?_eq hlower hi, beginsBar_iff h hi, Option.some_inj,
      Ruling.placeInGroup_eq_one_iff hruling]
  · intro i hi hbegins
    rw [beginsBar_iff h hi] at hbegins
    rw [numberAt?_eq hlower hi, numberAt?_eq hlower (by omega), Option.map_some,
      Ruling.placeInGroup_succ hruling hbegins]
  · intro i hi
    rw [numberAt?_eq hlower hi, barLineAt_eq h hi, Option.some_inj]
    exact Ruling.placeInGroup_eq_barLength_iff hruling
  · intro i hi
    refine ⟨i / t.ruling.groupLength + 1, t.ruling.placeInGroup i, ?_, numberAt?_eq hlower hi, ?_⟩
    · rw [filterMap_number?_eq (map_number?_take hupper hi),
        Ruling.getLast?_groupNumber?_range hruling.pos]
    · refine ⟨Nat.le_add_left 1 _, Nat.le_add_left 1 _, ?_⟩
      exact (Nat.div_add_mod' i t.ruling.groupLength).symm

/-- In every document the numbers and the bar lines fit together, whatever the signature is and
however many columns there are. -/
theorem counting_rows_agree (t : Toque) :
    ∃ upper lower drums, tableRows? t.document = some (upper :: lower :: drums) ∧
      drums.length = 3 ∧ ∀ row ∈ upper :: lower :: drums,
        CountsColumns t.meter.groupLength t.meter.barLength t.columns upper.cells lower.cells
          row.cells :=
  ⟨t.upperRow, t.lowerRow, Drum.all.map t.drumRow, t.tableRows?_eq, rfl,
    fun _ hrow => countsColumns (map_isBarLine_of_mem hrow)⟩

end Toque

end Bata
