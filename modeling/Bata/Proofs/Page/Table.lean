import Bata.Proofs.Chart
import Bata.Proofs.Page.Document
import Bata.Text.Basic

namespace Bata

namespace Markup

def hasTag (tag : String) : Markup → Bool
  | .text _ => false
  | .element name _ _ => name = tag
  | .closed name _ => name = tag

def attribute? (name : String) : Markup → Option String
  | .text _ => none
  | .element _ attributes _ => attributes.lookup name
  | .closed _ attributes => attributes.lookup name

def children : Markup → List Markup
  | .element _ _ ms => ms
  | _ => []

mutual

/-- The elements of a tag in the order in which they open. -/
def elements (tag : String) : Markup → List Markup
  | .text _ => []
  | .element name attributes ms =>
    if name = tag then .element name attributes ms :: elementsOfAll tag ms
    else elementsOfAll tag ms
  | .closed name attributes => if name = tag then [.closed name attributes] else []

def elementsOfAll (tag : String) : List Markup → List Markup
  | [] => []
  | m :: ms => m.elements tag ++ elementsOfAll tag ms

end

mutual

/-- The text at any depth. -/
def innerText : Markup → List Char
  | .text value => value.toList
  | .element _ _ ms => innerTextOfAll ms
  | .closed _ _ => []

def innerTextOfAll : List Markup → List Char
  | [] => []
  | m :: ms => m.innerText ++ innerTextOfAll ms

end

end Markup

open Markup

structure DataCell where
  kind : String
  content : List Markup

structure TableRow where
  kind : Option String
  label : String
  cells : List DataCell

def DataCell.ofMarkup (td : Markup) : DataCell :=
  ⟨(td.attribute? "class").getD "", td.children⟩

def TableRow.ofMarkup (tr : Markup) : TableRow :=
  let tds := tr.children.filter (hasTag "td")
  ⟨tr.attribute? "class",
    tds.head?.elim "" fun td => String.ofList (Text.trim td.innerText),
    tds.tail.map DataCell.ofMarkup⟩

def tableRows? (document : String) : Option (List TableRow) :=
  (read? document.toList).map fun page => (page.elements "tr").map TableRow.ofMarkup

namespace Toque

def columnKind (t : Toque) (i : Nat) : String :=
  if (i + 1) % t.meter.barLength = 0 then "bar-line" else ""

def upperRow (t : Toque) : TableRow where
  kind := some "count-row quarter"
  label := t.meter.upperLabel
  cells := (List.range t.columns).map fun i => ⟨t.columnKind i,
    if i % t.meter.groupLength = 0 then
      [.text (String.ofList (Text.decimal (i / t.meter.groupLength + 1)))]
    else []⟩

def lowerRow (t : Toque) : TableRow where
  kind := some "count-row sixteenth"
  label := t.meter.lowerLabel
  cells := (List.range t.columns).map fun i => ⟨t.columnKind i,
    [.text (String.ofList (Text.decimal (i % t.meter.groupLength + 1)))]⟩

/-- What is drawn for a symbol, nothing when it is unknown. -/
def glyph (d : Drum) (c : Char) : List Markup :=
  (Stroke.ofSymbol? c).elim [] (Stroke.figure d.colour)

def drumCell (t : Toque) (d : Drum) (i : Nat) : DataCell :=
  ⟨t.columnKind i, [.element "svg" [] (glyph d (t.symbolAt d i))]⟩

def drumRow (t : Toque) (d : Drum) : TableRow where
  kind := none
  label := d.name
  cells := (List.range t.columns).map (t.drumCell d)

end Toque

namespace Markup

theorem elementsOfAll_append (tag : String) (ms ns : List Markup) :
    elementsOfAll tag (ms ++ ns) = elementsOfAll tag ms ++ elementsOfAll tag ns := by
  induction ms with
  | nil => rfl
  | cons m ms ih => rw [List.cons_append, elementsOfAll, elementsOfAll, ih, List.append_assoc]

theorem elementsOfAll_onLines (tag : String) (ms : List Markup) :
    elementsOfAll tag (onLines ms) = ms.flatMap (elements tag) := by
  induction ms with
  | nil => rfl
  | cons m ms ih => simp [onLines_cons, elementsOfAll, elements, ih]

theorem filter_onLines (tag : String) (ms : List Markup) :
    (onLines ms).filter (hasTag tag) = ms.filter (hasTag tag) := by
  induction ms with
  | nil => rfl
  | cons m ms ih =>
    rw [onLines_cons, List.filter_cons_of_neg (by simp [hasTag]), List.filter_cons, List.filter_cons,
      ih]

theorem elements_row (attributes : List (String × String)) {ms : List Markup}
    (h : ∀ m ∈ ms, elements "tr" m = []) :
    elements "tr" (.element "tr" attributes (onLines ms)) =
      [.element "tr" attributes (onLines ms)] := by
  rw [elements, if_pos rfl, elementsOfAll_onLines, List.flatMap_eq_nil_iff.2 h]

end Markup

namespace Page

theorem elements_upperCell (c : Cell (Option Nat)) : elements "tr" (upperCell c) = [] := by
  obtain ⟨barEnd, content⟩ := c
  cases content <;> rfl

theorem elements_lowerCell (c : Cell Nat) : elements "tr" (lowerCell c) = [] := rfl

theorem elements_strokeCell (fill : String) (c : Cell Stroke) :
    elements "tr" (strokeCell fill c) = [] := by
  obtain ⟨barEnd, s⟩ := c
  cases s <;> rfl

theorem elements_countingRow (kind label : String) {cells : List Markup}
    (h : ∀ c ∈ cells, elements "tr" c = []) :
    elements "tr" (countingRow kind label cells) = [countingRow kind label cells] :=
  elements_row _ (List.forall_mem_cons.2 ⟨rfl, h⟩)

theorem elements_strokeRow (d : Drum) (cells : List (Cell Stroke)) :
    elements "tr" (strokeRow d cells) = [strokeRow d cells] :=
  elements_row _ (List.forall_mem_cons.2
    ⟨rfl, List.forall_mem_map.2 fun c _ => elements_strokeCell d.colour c⟩)

theorem elements_table (c : Chart) :
    elements "tr" (table c) =
      countingRow "quarter" c.upperLabel (c.upper.map upperCell) ::
        countingRow "sixteenth" c.lowerLabel (c.lower.map lowerCell) ::
          Drum.all.map fun d => strokeRow d (c.row d) := by
  have hupper : elements "tr" (countingRow "quarter" c.upperLabel (c.upper.map upperCell)) =
      [countingRow "quarter" c.upperLabel (c.upper.map upperCell)] :=
    elements_countingRow _ _ (List.forall_mem_map.2 fun x _ => elements_upperCell x)
  have hlower : elements "tr" (countingRow "sixteenth" c.lowerLabel (c.lower.map lowerCell)) =
      [countingRow "sixteenth" c.lowerLabel (c.lower.map lowerCell)] :=
    elements_countingRow _ _ (List.forall_mem_map.2 fun x _ => elements_lowerCell x)
  have hcounts : elementsOfAll "tr"
      [.text "\n", countingRow "quarter" c.upperLabel (c.upper.map upperCell),
        .text "\n", countingRow "sixteenth" c.lowerLabel (c.lower.map lowerCell)] =
      [countingRow "quarter" c.upperLabel (c.upper.map upperCell),
        countingRow "sixteenth" c.lowerLabel (c.lower.map lowerCell)] := by
    simp [elementsOfAll, elements, hupper, hlower]
  have hdrums : ∀ ds : List Drum, elementsOfAll "tr"
      (ds.flatMap (fun d => [.text "\n\n", strokeRow d (c.row d)]) ++ [.text "\n"]) =
        ds.map fun d => strokeRow d (c.row d) := by
    intro ds
    induction ds with
    | nil => rfl
    | cons d ds ih =>
      rw [List.flatMap_cons, List.append_assoc, elementsOfAll_append, ih]
      simp [elementsOfAll, elements, elements_strokeRow]
  rw [table, elements, if_neg (by decide), List.append_assoc, elementsOfAll_append, hcounts, hdrums]
  rfl

theorem elements_page (c : Chart) : elements "tr" c.page = elements "tr" (table c) := by
  have hhead : elements "tr" head = [] := rfl
  have hlegend : elements "tr" legendBox = [] := rfl
  -- the title is one text, in which no element can open
  have hbody : elements "tr" (body c) = elements "tr" (table c) := by
    rw [body, elements, if_neg (by decide), elementsOfAll_onLines]
    simp [elements, elementsOfAll, hlegend]
  rw [Chart.page, elements, if_neg (by decide), elementsOfAll_onLines]
  simp [hhead, hbody]

end Page

theorem DataCell.ofMarkup_cell (barEnd : Bool) (content : List Markup) :
    DataCell.ofMarkup (Page.cell barEnd content) =
      ⟨if barEnd then "bar-line" else "", content⟩ := rfl

theorem TableRow.ofMarkup_row (attributes : List (String × String)) {label : Markup}
    {cells : List Markup} (hl : hasTag "td" label = true)
    (hc : ∀ c ∈ cells, hasTag "td" c = true) :
    ofMarkup (.element "tr" attributes (onLines (label :: cells))) =
      ⟨attributes.lookup "class", String.ofList (Text.trim label.innerText),
        cells.map DataCell.ofMarkup⟩ := by
  have htds : (onLines (label :: cells)).filter (hasTag "td") = label :: cells := by
    rw [filter_onLines, List.filter_eq_self]
    exact List.forall_mem_cons.2 ⟨hl, hc⟩
  simp only [ofMarkup, children, htds]
  rfl

namespace Toque

theorem barKind_eq (t : Toque) (i : Nat) :
    (if t.ruling.endsBar i then "bar-line" else "") = t.columnKind i := by
  have hends : t.ruling.endsBar i = true ↔ (i + 1) % t.meter.barLength = 0 := decide_eq_true_iff
  exact if_congr hends rfl rfl

theorem figure_drawn (d : Drum) (c : Char) : (Stroke.drawn c).figure d.colour = glyph d c := by
  rw [Stroke.drawn, glyph]
  cases Stroke.ofSymbol? c <;> rfl

theorem cells_row {α : Type} (t : Toque) (f : Nat → α) (content : α → List Markup) :
    ((t.ruling.row ((List.range t.columns).map f)).map
        fun c => Page.cell c.barEnd (content c.content)).map DataCell.ofMarkup =
      (List.range t.columns).map fun i => ⟨t.columnKind i, content (f i)⟩ := by
  rw [Ruling.row_map_range, List.map_map, List.map_map]
  apply List.map_congr_left
  intro i _
  rw [Function.comp_apply, Function.comp_apply, DataCell.ofMarkup_cell, barKind_eq]

theorem ofMarkup_countingRow {α : Type} (t : Toque) (kind label : String) (f : Nat → α)
    (content : α → List Markup) :
    TableRow.ofMarkup (Page.countingRow kind label
        ((t.ruling.row ((List.range t.columns).map f)).map
          fun c => Page.cell c.barEnd (content c.content))) =
      ⟨some ("count-row " ++ kind), String.ofList (Text.trim label.toList),
        (List.range t.columns).map fun i => ⟨t.columnKind i, content (f i)⟩⟩ := by
  have hlabel : innerText (.element "td" [("class", "count-label")] [.text label]) =
      label.toList := by
    simp [innerText, innerTextOfAll]
  rw [Page.countingRow, TableRow.ofMarkup_row _ rfl (List.forall_mem_map.2 fun _ _ => rfl), hlabel,
    cells_row]
  rfl

theorem ofMarkup_upperRow (t : Toque) :
    TableRow.ofMarkup (Page.countingRow "quarter" t.chart.upperLabel
      (t.chart.upper.map Page.upperCell)) = t.upperRow := by
  have hrow := t.ofMarkup_countingRow "quarter" t.meter.upperLabel t.ruling.groupNumber?
    fun n? => n?.toList.map Page.numberText
  have hlabel : String.ofList (Text.trim t.meter.upperLabel.toList) = t.meter.upperLabel := by
    cases t.meter <;> decide
  have hgroup : t.ruling.groupLength = t.meter.groupLength := rfl
  have hnumber : ∀ i, (t.ruling.groupNumber? i).toList.map Page.numberText =
      if i % t.meter.groupLength = 0 then
        [.text (String.ofList (Text.decimal (i / t.meter.groupLength + 1)))]
      else [] := by
    intro i
    rw [Ruling.groupNumber?, hgroup]
    split_ifs <;> rfl
  simp only [hlabel, hnumber] at hrow
  exact hrow

theorem ofMarkup_lowerRow (t : Toque) :
    TableRow.ofMarkup (Page.countingRow "sixteenth" t.chart.lowerLabel
      (t.chart.lower.map Page.lowerCell)) = t.lowerRow := by
  have hrow := t.ofMarkup_countingRow "sixteenth" t.meter.lowerLabel t.ruling.placeInGroup
    fun n => [Page.numberText n]
  have hlabel : String.ofList (Text.trim t.meter.lowerLabel.toList) = t.meter.lowerLabel := by
    cases t.meter <;> decide
  rw [hlabel] at hrow
  exact hrow

theorem ofMarkup_strokeRow (t : Toque) (d : Drum) :
    TableRow.ofMarkup (Page.strokeRow d (t.chart.row d)) = t.drumRow d := by
  have hlabel : String.ofList (Text.trim
      (innerText (.element "td" [] [.element "b" [] [.text d.name]]))) = d.name := by
    cases d <;> decide
  -- the strokes are those of the symbols that fill the part up to the last column
  have hcells := t.cells_row (fun i => Stroke.drawn (t.symbolAt d i))
    fun s => [.element "svg" [] (s.figure d.colour)]
  rw [← strokes_eq_map_range] at hcells
  simp only [figure_drawn] at hcells
  have hrow : (t.chart.row d).map (Page.strokeCell d.colour) =
      (t.ruling.row (t.strokes d)).map fun c =>
        Page.cell c.barEnd [.element "svg" [] (c.content.figure d.colour)] := rfl
  rw [Page.strokeRow, hrow, TableRow.ofMarkup_row _ rfl (List.forall_mem_map.2 fun _ _ => rfl),
    hlabel, hcells]
  rfl

theorem tableRows?_eq (t : Toque) :
    tableRows? t.document = some (t.upperRow :: t.lowerRow :: Drum.all.map t.drumRow) := by
  have hdrums : Drum.all.map (fun d => TableRow.ofMarkup (Page.strokeRow d (t.chart.row d))) =
      Drum.all.map t.drumRow :=
    List.map_congr_left fun d _ => t.ofMarkup_strokeRow d
  rw [tableRows?, read?_document, Option.map_some, Page.elements_page, Page.elements_table,
    List.map_cons, List.map_cons, ofMarkup_upperRow, ofMarkup_lowerRow, List.map_map]
  exact congrArg (fun rows => some (t.upperRow :: t.lowerRow :: rows)) hdrums

theorem getElem?_drumRow {t : Toque} {i : Nat} (hi : i < t.columns) (d : Drum) :
    (t.drumRow d).cells[i]? = some (t.drumCell d i) := by
  rw [drumRow, List.getElem?_map, List.getElem?_range hi, Option.map_some]

/-- The table holds the numbers and the strokes of every column, and no symbol of a part is lost. -/
theorem tableRows?_document (t : Toque) :
    tableRows? t.document =
        some [t.upperRow, t.lowerRow, t.drumRow .okonkolo, t.drumRow .itotele, t.drumRow .iya] ∧
      ∀ (d : Drum) (i : Nat) (c : Char), (t.part d).toList[i]? = some c →
        (t.drumRow d).cells[i]? = some ⟨t.columnKind i, [.element "svg" [] (glyph d c)]⟩ := by
  refine ⟨t.tableRows?_eq, ?_⟩
  intro d i c hc
  obtain ⟨hi, hsymbol⟩ := symbolAt_of_getElem? hc
  rw [getElem?_drumRow hi, drumCell, hsymbol]

end Toque

end Bata
