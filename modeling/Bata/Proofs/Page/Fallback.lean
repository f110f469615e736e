import Bata.Proofs.Page.Heading
import Bata.Proofs.Toque.Warning

namespace Bata

open Markup

namespace Page

/-- The text of a document around its heading and the labels of its counting rows. -/
structure Surround where
  beforeHeading : List Char
  beforeUpperLabel : List Char
  beforeLowerLabel : List Char
  rest : List Char

def labelCell (label : String) : List Char :=
  "<td class=\"count-label\">".toList ++ escape label ++ "</td>".toList

def Surround.fill (s : Surround) (heading upperLabel lowerLabel : String) : List Char :=
  s.beforeHeading ++ "<h2>".toList ++ escape heading ++ "</h2>".toList ++
    s.beforeUpperLabel ++ labelCell upperLabel ++
    s.beforeLowerLabel ++ labelCell lowerLabel ++ s.rest

def rowStart (kind : String) : List Char :=
  openingChars "tr" [("class", "count-row " ++ kind)] ++ ['>', '\n']

def rowEnd (cells : List Markup) : List Char :=
  cells.flatMap (fun m => '\n' :: m.chars) ++ '\n' :: closingChars "tr"

theorem labelCell_eq (label : String) :
    labelCell label = chars (.element "td" [("class", "count-label")] [.text label]) := by
  have hopen : "<td class=\"count-label\">".toList =
      openingChars "td" [("class", "count-label")] ++ ['>'] := by
    simp [openingChars, attributeChars, escape, escapeChar]
  have hclose : "</td>".toList = closingChars "td" := by decide
  -- by congruence, as a rewrite would compare the two literals character by character
  have hcell : labelCell label =
      openingChars "td" [("class", "count-label")] ++ ['>'] ++ escape label ++ closingChars "td" :=
    congrArg₂ (· ++ escape label ++ ·) hopen hclose
  rw [hcell]
  simp [chars, charsOfAll]

theorem chars_countingRow (kind label : String) (cells : List Markup) :
    (countingRow kind label cells).chars = rowStart kind ++ (labelCell label ++ rowEnd cells) := by
  rw [labelCell_eq, countingRow, chars, charsOfAll_onLines, List.flatMap_cons, rowStart, rowEnd]
  simp only [List.append_assoc, List.cons_append, List.nil_append]

def drumRows (c : Chart) : List Markup :=
  Drum.all.flatMap fun d => [.text "\n\n", strokeRow d (c.row d)]

theorem chars_table (c : Chart) :
    (table c).chars = openingMark "table" ++ '\n' ::
      ((countingRow "quarter" c.upperLabel (c.upper.map upperCell)).chars ++ '\n' ::
        ((countingRow "sixteenth" c.lowerLabel (c.lower.map lowerCell)).chars ++
          (charsOfAll (drumRows c) ++ '\n' :: closingChars "table"))) := by
  have hnewline : escape "\n" = ['\n'] := by decide
  rw [table, chars_plain]
  simp only [charsOfAll_append, charsOfAll, chars_text, hnewline, drumRows, List.append_assoc,
    List.cons_append, List.nil_append, List.append_nil]

def surround (c : Chart) : Surround where
  beforeHeading := beforeTitle
  beforeUpperLabel := '\n' :: (openingMark "table" ++ '\n' :: rowStart "quarter")
  beforeLowerLabel := rowEnd (c.upper.map upperCell) ++ '\n' :: rowStart "sixteenth"
  rest := rowEnd (c.lower.map lowerCell) ++ (charsOfAll (drumRows c) ++ '\n' ::
    (closingChars "table" ++ '\n' :: (openingMark "h3" ++ afterLegendMark)))

theorem chars_page_eq_fill (c : Chart) :
    c.page.chars ++ ['\n'] = (surround c).fill c.title c.upperLabel c.lowerLabel := by
  have hopen : "<h2>".toList = openingMark "h2" := by decide
  have hclose : "</h2>".toList = closingChars "h2" := by decide
  rw [chars_page, chars_table, chars_countingRow, chars_countingRow, Surround.fill, hopen, hclose]
  simp only [surround, List.append_assoc, List.cons_append]

end Page

namespace Toque

def inCommonTime (t : Toque) : Toque :=
  { t with timeSignature := "4/4" }

theorem meter_inCommonTime (t : Toque) : t.inCommonTime.meter = .common := by
  rw [meter, inCommonTime, Meter.ofSignature, if_pos rfl]

section other

variable {t : Toque} (h : t.meter = .other)
include h

theorem ruling_inCommonTime : t.inCommonTime.ruling = t.ruling := by
  rw [ruling, ruling, meter_inCommonTime, h]
  rfl

theorem surround_inCommonTime : Page.surround t.inCommonTime.chart = Page.surround t.chart := by
  have hupper : t.inCommonTime.chart.upper = t.chart.upper := by
    simp only [chart, ruling_inCommonTime h]
    rfl
  have hlower : t.inCommonTime.chart.lower = t.chart.lower := by
    simp only [chart, ruling_inCommonTime h]
    rfl
  have hrow : t.inCommonTime.chart.row = t.chart.row := by
    simp only [chart, strokes, ruling_inCommonTime h]
    rfl
  rw [Page.surround, Page.surround, Page.drumRows, Page.drumRows, hupper, hlower, hrow]

theorem columnKind_inCommonTime : t.inCommonTime.columnKind = t.columnKind := by
  funext i
  rw [← barKind_eq, ← barKind_eq, ruling_inCommonTime h]

theorem upperRow_inCommonTime :
    t.upperRow = { t.inCommonTime.upperRow with label := "Gruppi" } := by
  simp only [upperRow, columnKind_inCommonTime h, meter_inCommonTime, h]
  rfl

theorem lowerRow_inCommonTime :
    t.lowerRow = { t.inCommonTime.lowerRow with label := "Suddivisioni" } := by
  simp only [lowerRow, columnKind_inCommonTime h, meter_inCommonTime, h]
  rfl

theorem drumRow_inCommonTime (d : Drum) : t.inCommonTime.drumRow d = t.drumRow d := by
  have hcell : t.inCommonTime.drumCell d = t.drumCell d := by
    funext i
    rw [drumCell, drumCell, columnKind_inCommonTime h]
    rfl
  rw [drumRow, drumRow, hcell]
  rfl

theorem warnings_inCommonTime :
    t.warnings = .unknownSignature t.timeSignature :: t.inCommonTime.warnings := by
  have hsignature : t.inCommonTime.signatureWarnings = [] := by
    rw [signatureWarnings, meter_inCommonTime]
    rfl
  rw [warnings, warnings, hsignature, signatureWarnings, if_pos h]
  rfl

end other

/-- Whatever the unknown signature is, only the heading, the labels of the counting rows and one
warning more tell the document from that in `4/4`. -/
theorem document_of_unknown_signature {t : Toque} (hcommon : t.timeSignature ≠ "4/4")
    (hcompound : t.timeSignature ≠ "6/8") :
    (∃ s : Page.Surround,
      t.document.toList =
          s.fill (t.name ++ " in " ++ t.timeSignature) "Gruppi" "Suddivisioni" ∧
        t.inCommonTime.document.toList =
          s.fill (t.name ++ " in " ++ "4/4") "Quarti" "Sedicesimi") ∧
      (∃ (upper lower : TableRow) (drums : List TableRow),
        tableRows? t.document = some
            ({ upper with label := "Gruppi" } :: { lower with label := "Suddivisioni" } :: drums) ∧
          tableRows? t.inCommonTime.document = some
            ({ upper with label := "Quarti" } :: { lower with label := "Sedicesimi" } :: drums) ∧
          drums.length = 3) ∧
      t.warnings = .unknownSignature t.timeSignature :: t.inCommonTime.warnings := by
  have hmeter : t.meter = .other := Meter.ofSignature_eq_other.2 ⟨hcommon, hcompound⟩
  refine ⟨⟨Page.surround t.chart, ?_, ?_⟩,
    ⟨t.inCommonTime.upperRow, t.inCommonTime.lowerRow, Drum.all.map t.drumRow, ?_, ?_, rfl⟩,
    warnings_inCommonTime hmeter⟩
  · rw [document, String.toList_ofList, Page.chars_page_eq_fill]
    simp only [chart, hmeter]
    rfl
  · rw [document, String.toList_ofList, Page.chars_page_eq_fill, surround_inCommonTime hmeter]
    simp only [chart, meter_inCommonTime]
    rfl
  · rw [tableRows?_eq, ← upperRow_inCommonTime hmeter, ← lowerRow_inCommonTime hmeter]
  · have hdrums : Drum.all.map t.inCommonTime.drumRow = Drum.all.map t.drumRow :=
      List.map_congr_left fun d _ => drumRow_inCommonTime hmeter d
    rw [tableRows?_eq, hdrums]
    simp only [upperRow, lowerRow, meter_inCommonTime]
    rfl

theorem document_of_unknown_signature_spaced :
    ("6 / 8" ≠ "4/4" ∧ "6 / 8" ≠ "6/8") ∧
      (∃ s : Page.Surround,
        (document ⟨"A & B", "6 / 8", ⟨none, some "AX-P-", none⟩⟩).toList =
            s.fill "A & B in 6 / 8" "Gruppi" "Suddivisioni" ∧
          (document ⟨"A & B", "4/4", ⟨none, some "AX-P-", none⟩⟩).toList =
            s.fill "A & B in 4/4" "Quarti" "Sedicesimi") ∧
      warnings ⟨"A & B", "6 / 8", ⟨none, some "AX-P-", none⟩⟩ =
        .unknownSignature "6 / 8" :: warnings ⟨"A & B", "4/4", ⟨none, some "AX-P-", none⟩⟩ := by
  have h := document_of_unknown_signature (t := ⟨"A & B", "6 / 8", ⟨none, some "AX-P-", none⟩⟩)
    (by decide) (by decide)
  exact ⟨⟨by decide, by decide⟩, h.1, h.2.2⟩

end Toque

end Bata
