import Bata.Proofs.Page.Table
import Mathlib.Tactic.Common

namespace Bata

open Markup

theorem Stroke.figure_injective (fill : String) : Function.Injective (Stroke.figure fill) := by
  intro s s' h
  cases s <;> cases s' <;> simp_all [Stroke.figure, Figure.circle, Figure.triangle]

namespace Meter

theorem groupLength_eq_barLength (m : Meter) : m.groupLength = m.barLength := by
  cases m <;> rfl

theorem barLength_eq_four_or_six (m : Meter) : m.barLength = 4 ∨ m.barLength = 6 := by
  cases m <;> decide

end Meter

namespace Toque

/-- The stroke that is drawn in a column. A rest, of which nothing is drawn, stands for an unknown
symbol, for the columns after the end of a part and for a drum without an entry. -/
def strokeAt (t : Toque) (d : Drum) (i : Nat) : Stroke :=
  (((t.parts.get? d).bind fun part => part.toList[i]?).bind Stroke.ofSymbol?).getD .rest

/-- What has to be the same for two toques to have one document. -/
structure LooksLike (a b : Toque) : Prop where
  title : a.name ++ " in " ++ a.timeSignature = b.name ++ " in " ++ b.timeSignature
  upperLabel : a.meter.upperLabel = b.meter.upperLabel
  lowerLabel : a.meter.lowerLabel = b.meter.lowerLabel
  columns : a.columns = b.columns
  /-- No bar of either length is over in three columns. -/
  bars : a.meter.barLength = b.meter.barLength ∨ a.columns ≤ 3
  strokes : ∀ d, ∀ i < a.columns, a.strokeAt d i = b.strokeAt d i

theorem drawn_symbolAt (t : Toque) (d : Drum) (i : Nat) :
    Stroke.drawn (t.symbolAt d i) = t.strokeAt d i := by
  have hrest : Stroke.drawn Stroke.rest.symbol = .rest := by decide
  rw [strokeAt, symbolAt, part, List.getD_eq_getElem?_getD]
  cases t.parts.get? d with
  | none => simpa using hrest
  | some p =>
    simp only [Option.getD_some, Option.bind_some]
    cases p.toList[i]? with
    | none => simpa using hrest
    | some c => rfl

/-- As long as no bar is over, bars of either length look the same. -/
theorem LooksLike.ruling_eq {a b : Toque} (h : LooksLike a b) {i : Nat} (hi : i < a.columns) :
    a.ruling.endsBar i = b.ruling.endsBar i ∧
      a.ruling.groupNumber? i = b.ruling.groupNumber? i ∧
        a.ruling.placeInGroup i = b.ruling.placeInGroup i := by
  simp only [ruling, Ruling.endsBar, Ruling.groupNumber?, Ruling.placeInGroup,
    Meter.groupLength_eq_barLength]
  obtain hbars | hshort := h.bars
  · rw [hbars]
    exact ⟨rfl, rfl, rfl⟩
  · have hfirst : ∀ m : Meter, (i + 1) % m.barLength = i + 1 ∧ i % m.barLength = i ∧
        i / m.barLength = 0 := by
      intro m
      have hlong : i + 1 < m.barLength := by
        have := m.barLength_eq_four_or_six
        omega
      exact ⟨Nat.mod_eq_of_lt hlong, Nat.mod_eq_of_lt (by omega), Nat.div_eq_of_lt (by omega)⟩
    simp only [hfirst, and_self]

theorem LooksLike.chart_eq {a b : Toque} (h : LooksLike a b) : a.chart = b.chart := by
  have hupper : a.chart.upper = b.chart.upper := by
    simp only [chart, Ruling.row_map_range, ← h.columns]
    refine List.map_congr_left fun i hi => ?_
    obtain ⟨hends, hnumber, -⟩ := h.ruling_eq (List.mem_range.1 hi)
    rw [hends, hnumber]
  have hlower : a.chart.lower = b.chart.lower := by
    simp only [chart, Ruling.row_map_range, ← h.columns]
    refine List.map_congr_left fun i hi => ?_
    obtain ⟨hends, -, hplace⟩ := h.ruling_eq (List.mem_range.1 hi)
    rw [hends, hplace]
  have hrow : a.chart.row = b.chart.row := by
    funext d
    simp only [chart, strokes_eq_map_range, drawn_symbolAt, Ruling.row_map_range,
      ← h.columns]
    refine List.map_congr_left fun i hi => ?_
    rw [(h.ruling_eq (List.mem_range.1 hi)).1, h.strokes d i (List.mem_range.1 hi)]
  have htitle : a.chart.title = b.chart.title := h.title
  have hupperLabel : a.chart.upperLabel = b.chart.upperLabel := h.upperLabel
  have hlowerLabel : a.chart.lowerLabel = b.chart.lowerLabel := h.lowerLabel
  calc a.chart
      = ⟨a.chart.title, a.chart.upperLabel, a.chart.lowerLabel, a.chart.upper, a.chart.lower,
          a.chart.row⟩ := rfl
    _ = b.chart := by rw [htitle, hupperLabel, hlowerLabel, hupper, hlower, hrow]

theorem title_eq_of_page {c c' : Chart} (h : c.page = c'.page) : c.title = c'.title := by
  simp only [Chart.page, Page.body, onLines_cons, element.injEq, List.cons.injEq, text.injEq] at h
  simp_all

theorem rows_eq_of_document {a b : Toque} (h : a.document = b.document) :
    a.upperRow = b.upperRow ∧ a.lowerRow = b.lowerRow ∧ ∀ d, a.drumRow d = b.drumRow d := by
  have hrows : (a.upperRow :: a.lowerRow :: Drum.all.map a.drumRow) =
      b.upperRow :: b.lowerRow :: Drum.all.map b.drumRow := by
    have hread := congrArg tableRows? h
    rw [tableRows?_eq, tableRows?_eq] at hread
    exact Option.some.inj hread
  simp only [List.cons.injEq, List.map_inj_left] at hrows
  exact ⟨hrows.1, hrows.2.1, fun d => hrows.2.2 d (Drum.mem_all d)⟩

/-- With a fourth column, the bar line under it tells the two lengths of a bar apart. -/
theorem barLength_eq_of_columnKind {a b : Toque} (h : a.columnKind 3 = b.columnKind 3) :
    a.meter.barLength = b.meter.barLength := by
  rw [columnKind, columnKind] at h
  obtain ha | ha := a.meter.barLength_eq_four_or_six <;>
    obtain hb | hb := b.meter.barLength_eq_four_or_six <;>
      simp_all

theorem looksLike_of_document {a b : Toque} (h : a.document = b.document) : LooksLike a b := by
  obtain ⟨hupper, hlower, hdrum⟩ := rows_eq_of_document h
  have hpage : a.chart.page = b.chart.page := by
    have hread := read?_document a
    rw [h, read?_document] at hread
    exact (Option.some.inj hread).symm
  have hcolumns : a.columns = b.columns := by
    have hlength := congrArg (fun row => row.cells.length) hlower
    simpa [lowerRow] using hlength
  have hcell : ∀ d, ∀ i < a.columns, a.drumCell d i = b.drumCell d i := by
    intro d i hi
    have hget := getElem?_drumRow hi d
    rw [hdrum, getElem?_drumRow (hcolumns ▸ hi)] at hget
    exact (Option.some.inj hget).symm
  refine ⟨title_eq_of_page hpage, congrArg TableRow.label hupper, congrArg TableRow.label hlower,
    hcolumns, ?_, ?_⟩
  · by_cases hshort : a.columns ≤ 3
    · exact .inr hshort
    · have hkind := congrArg DataCell.kind (hcell .iya 3 (by omega))
      exact .inl (barLength_eq_of_columnKind hkind)
  · intro d i hi
    have hcontent := congrArg DataCell.content (hcell d i hi)
    simp only [drumCell, ← figure_drawn, drawn_symbolAt, List.cons.injEq, element.injEq, true_and,
      and_true] at hcontent
    exact Stroke.figure_injective _ hcontent

/-- A document tells the title, the labels, the columns, the bars that are over and the strokes of
its toque, and nothing else. -/
theorem document_eq_iff_looksLike (a b : Toque) : a.document = b.document ↔ LooksLike a b := by
  constructor
  · exact looksLike_of_document
  · intro h
    rw [document, document, h.chart_eq]

end Toque

end Bata
