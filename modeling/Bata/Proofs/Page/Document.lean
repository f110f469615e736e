import Bata.Page
import Bata.Proofs.Markup.Reader
import Bata.Proofs.Markup.Tidy
import Bata.Proofs.Text.Basic
import Mathlib.Tactic.Common

namespace Bata

open Markup

variable {extra : List Char}

theorem Markup.tidyAll_figure (d : Drum) (s : Stroke) : TidyAll extra (s.figure d.colour) := by
  cases s with
  | rest => trivial
  | openTone | pressed | slap =>
    apply tidyAll_singleton
    cases d <;> exact tidy_closed (by decide) (by decide) (by decide)
  | mordito =>
    have hcircle : Tidy extra (Figure.circle d.colour []) := by
      cases d <;> exact tidy_closed (by decide) (by decide) (by decide)
    have htriangle : Tidy extra (Figure.triangle "15,7.3 21,20 9,20" "1.5" d.colour) := by
      cases d <;> exact tidy_closed (by decide) (by decide) (by decide)
    exact ⟨hcircle, tidyAll_singleton htriangle, fun h => by cases h⟩

namespace Page

theorem tidy_cell (barEnd : Bool) {content : List Markup} (h : TidyAll extra content) :
    Tidy extra (cell barEnd content) := by
  have hkind : Holds extra (if barEnd then "bar-line" else "") := by
    cases barEnd <;> exact holds_of_all (by decide)
  exact tidy_classed (by decide) hkind h

theorem tidy_numberText (n : Nat) : Tidy extra (numberText n) := by
  have hne : String.ofList (Text.decimal n) ≠ "" := by
    have hdigits : Text.decimal n ≠ [] := Nat.toDigits_ne_nil
    simpa using hdigits
  refine ⟨hne, fun c hc => ?_⟩
  rw [String.toList_ofList] at hc
  have hdigit := Text.isDigit_of_mem_decimal hc
  exact .inl (isPlain_of_isAlphanum (by simp [Char.isAlphanum, hdigit]))

theorem tidy_upperCell (c : Cell (Option Nat)) : Tidy extra (upperCell c) := by
  apply tidy_cell
  cases c.content with
  | none => trivial
  | some n => exact tidyAll_singleton (tidy_numberText n)

theorem tidy_lowerCell (c : Cell Nat) : Tidy extra (lowerCell c) :=
  tidy_cell _ (tidyAll_singleton (tidy_numberText _))

theorem tidy_strokeCell (d : Drum) (c : Cell Stroke) : Tidy extra (strokeCell d.colour c) := by
  apply tidy_cell
  apply tidyAll_singleton
  exact tidy_plain (by decide) (tidyAll_figure d _)

theorem tidy_countingRow {kind label : String} (hk : Holds extra ("count-row " ++ kind))
    (hl : Tidy extra (.text label)) {cells : List Markup}
    (h : ∀ c ∈ cells, Tidy extra c ∧ isText c = false) :
    Tidy extra (countingRow kind label cells) := by
  have hlabel : Tidy extra (.element "td" [("class", "count-label")] [.text label]) :=
    tidy_classed (by decide) (holds_of_all (by decide)) (tidyAll_singleton hl)
  apply tidy_classed (by decide) hk
  exact tidyAll_onLines (List.forall_mem_cons.2 ⟨⟨hlabel, rfl⟩, h⟩)

theorem tidy_strokeRow (d : Drum) (cells : List (Cell Stroke)) :
    Tidy extra (strokeRow d cells) := by
  have hname : Tidy extra (.text d.name) := by
    cases d <;> exact tidy_text (by decide) (by decide)
  have hbold : Tidy extra (.element "b" [] [.text d.name]) :=
    tidy_plain (by decide) (tidyAll_singleton hname)
  have hlabel : Tidy extra (.element "td" [] [.element "b" [] [.text d.name]]) :=
    tidy_plain (by decide) (tidyAll_singleton hbold)
  apply tidy_plain (by decide)
  apply tidyAll_onLines
  refine List.forall_mem_cons.2 ⟨⟨hlabel, rfl⟩, ?_⟩
  rw [List.forall_mem_map]
  exact fun c _ => ⟨tidy_strokeCell d c, rfl⟩

theorem tidy_table {c : Chart} (hu : Tidy extra (.text c.upperLabel))
    (hl : Tidy extra (.text c.lowerLabel)) : Tidy extra (table c) := by
  have hnewline : Tidy extra (.text "\n") := tidy_text (by decide) (by decide)
  have hgap : Tidy extra (.text "\n\n") := tidy_text (by decide) (by decide)
  have hupper : Tidy extra (countingRow "quarter" c.upperLabel (c.upper.map upperCell)) :=
    tidy_countingRow (holds_of_all (by decide)) hu
      (List.forall_mem_map.2 fun x _ => ⟨tidy_upperCell x, rfl⟩)
  have hlower : Tidy extra (countingRow "sixteenth" c.lowerLabel (c.lower.map lowerCell)) :=
    tidy_countingRow (holds_of_all (by decide)) hl
      (List.forall_mem_map.2 fun x _ => ⟨tidy_lowerCell x, rfl⟩)
  -- each drum brings the empty line before its row, so the induction is on the drums
  have hdrums : ∀ ds : List Drum, TidyAll extra
      (ds.flatMap (fun d => [.text "\n\n", strokeRow d (c.row d)]) ++ [.text "\n"]) := by
    intro ds
    induction ds with
    | nil => exact tidyAll_singleton hnewline
    | cons d ds ih =>
      rw [List.flatMap_cons, List.append_assoc]
      exact tidyAll_text_cons hgap (tidy_strokeRow d _) rfl ih
  apply tidy_plain (by decide)
  rw [List.append_assoc]
  exact tidyAll_text_cons hnewline hupper rfl
    (tidyAll_text_cons hnewline hlower rfl (hdrums _))

theorem tidy_legendItem {entry : Stroke × String} (h : entry ∈ legend) :
    Tidy extra (legendItem entry) := by
  have hsvg : Tidy extra (.element "svg" [] (entry.1.figure Drum.okonkolo.colour)) :=
    tidy_plain (by decide) (tidyAll_figure .okonkolo _)
  have hsymbol : Tidy extra (.element "div" [("class", "legend-symbol")]
      [.element "svg" [] (entry.1.figure Drum.okonkolo.colour)]) :=
    tidy_classed (by decide) (holds_of_all (by decide)) (tidyAll_singleton hsvg)
  have hlegend : ∀ entry ∈ legend,
      (entry.1.symbol.toString ++ ": " ++ entry.2).toList.all isPlain = true := by decide
  have hmeaning : Tidy extra
      (.element "span" [] [.text (entry.1.symbol.toString ++ ": " ++ entry.2)]) :=
    tidy_plain (by decide) (tidyAll_singleton (tidy_text (by simp) (hlegend entry h)))
  apply tidy_classed (by decide) (holds_of_all (by decide))
  exact tidyAll_onLines (List.forall_mem_cons.2 ⟨⟨hsymbol, rfl⟩,
    List.forall_mem_singleton.2 ⟨hmeaning, rfl⟩⟩)

theorem tidy_legendBox : Tidy extra legendBox := by
  apply tidy_classed (by decide) (holds_of_all (by decide))
  exact tidyAll_onLines (List.forall_mem_map.2 fun _ h => ⟨tidy_legendItem h, rfl⟩)

theorem holds_styleRule {r : StyleRule} (hs : Holds extra r.selector)
    (hd : ∀ d ∈ r.declarations, Holds extra d) : Holds extra r.text := by
  have hends : ∀ d ∈ r.declarations.map (· ++ ";"), Holds extra d :=
    List.forall_mem_map.2 fun d h => holds_append (hd d h) (holds_of_all (by decide))
  have hlines : ∀ d ∈ (r.declarations.map (· ++ ";")).map fun d => "        " ++ d ++ "\n",
      Holds extra d :=
    List.forall_mem_map.2 fun d h => holds_append
      (holds_append (holds_of_all (by decide)) (hends d h)) (holds_of_all (by decide))
  have hselector : Holds extra ("    " ++ r.selector) := holds_append (holds_of_all (by decide)) hs
  rw [StyleRule.text]
  split
  · exact holds_append (holds_append (holds_append hselector (holds_of_all (by decide)))
      (holds_join hlines)) (holds_of_all (by decide))
  · exact holds_append (holds_append (holds_append hselector (holds_of_all (by decide)))
      (holds_intercalate (holds_of_all (by decide)) hends)) (holds_of_all (by decide))

theorem holds_styleSheet : Holds extra styleSheet := by
  -- rule by rule, as the whole sheet is too long a text to be computed
  have hrules : ∀ r ∈ styleRules, r.selector.toList.all isPlain = true ∧
      ∀ d ∈ r.declarations, d.toList.all isPlain = true := by decide +kernel
  exact holds_join (List.forall_mem_map.2 fun r hr => holds_styleRule
    (holds_of_all (hrules r hr).1) fun d hd => holds_of_all ((hrules r hr).2 d hd))

theorem tidy_head : Tidy extra head := by
  have hsheet : Tidy extra (.text ("\n" ++ styleSheet)) :=
    ⟨by simp, holds_append (holds_of_all (by decide)) holds_styleSheet⟩
  have hstyle : Tidy extra (.element "style" [] [.text ("\n" ++ styleSheet)]) :=
    tidy_plain (by decide) (tidyAll_singleton hsheet)
  apply tidy_plain (by decide)
  exact tidyAll_onLines (List.forall_mem_singleton.2 ⟨hstyle, rfl⟩)

theorem tidy_body {c : Chart} (ht : Tidy extra (.text c.title))
    (hu : Tidy extra (.text c.upperLabel)) (hl : Tidy extra (.text c.lowerLabel)) :
    Tidy extra (body c) := by
  have htitle : Tidy extra (.element "h2" [] [.text c.title]) :=
    tidy_plain (by decide) (tidyAll_singleton ht)
  have hlegend : Tidy extra (.element "h3" [] [.text "Legenda dei simboli:"]) :=
    tidy_plain (by decide) (tidyAll_singleton (tidy_text (by decide) (by decide)))
  apply tidy_plain (by decide)
  apply tidyAll_onLines
  intro m hm
  simp only [List.mem_cons, List.not_mem_nil, or_false] at hm
  rcases hm with rfl | rfl | rfl | rfl
  · exact ⟨htitle, rfl⟩
  · exact ⟨tidy_table hu hl, rfl⟩
  · exact ⟨hlegend, rfl⟩
  · exact ⟨tidy_legendBox, rfl⟩

end Page

namespace Toque

theorem tidy_upperLabel (t : Toque) : Tidy extra (.text t.chart.upperLabel) := by
  simp only [chart]
  cases t.meter <;> exact tidy_text (by decide) (by decide)

theorem tidy_lowerLabel (t : Toque) : Tidy extra (.text t.chart.lowerLabel) := by
  simp only [chart]
  cases t.meter <;> exact tidy_text (by decide) (by decide)

theorem tidy_table (t : Toque) : Tidy extra (Page.table t.chart) :=
  Page.tidy_table t.tidy_upperLabel t.tidy_lowerLabel

/-- Of the characters of a page only those of its title are not fixed. -/
theorem tidy_page (t : Toque) : Tidy t.title.toList t.chart.page := by
  have htitle : Tidy t.title.toList (.text t.chart.title) :=
    ⟨by simp [chart, title], fun _ hc => .inr hc⟩
  have hbody : Tidy t.title.toList (Page.body t.chart) :=
    Page.tidy_body htitle t.tidy_upperLabel t.tidy_lowerLabel
  apply tidy_plain (by decide)
  exact tidyAll_onLines (List.forall_mem_cons.2 ⟨⟨Page.tidy_head, rfl⟩,
    List.forall_mem_singleton.2 ⟨hbody, rfl⟩⟩)

/-- No text of a toque is ever taken for markup. -/
theorem read?_document (t : Toque) : read? t.document.toList = some t.chart.page := by
  rw [document, String.toList_ofList]
  exact read?_chars t.tidy_page rfl

end Toque

end Bata
