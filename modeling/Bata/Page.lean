import Bata.Chart
import Bata.Text.Basic

namespace Bata

structure StyleRule where
  selector : String
  declarations : List String
  /-- Each declaration on a line of its own. -/
  spread : Bool

namespace StyleRule

def text (r : StyleRule) : String :=
  let declarations := r.declarations.map (· ++ ";")
  if r.spread then
    "    " ++ r.selector ++ " \x7b\n" ++
      String.join (declarations.map fun d => "        " ++ d ++ "\n") ++ "    \x7d\n"
  else
    "    " ++ r.selector ++ " \x7b " ++ " ".intercalate declarations ++ " \x7d\n"

end StyleRule

def styleRules : List StyleRule := [
  ⟨"body", ["background-color: rgb(100, 100, 100)", "color: white", "font-family: sans-serif"],
    true⟩,
  ⟨"table", ["border-collapse: collapse", "margin-top: 20px"], false⟩,
  ⟨"td", ["width: 30px", "height: 30px", "text-align: center", "border: 1px solid #aaa",
    "background-color: rgb(100, 100, 100)", "vertical-align: middle"], true⟩,
  ⟨".bar-line", ["border-right: 3px solid white !important"], false⟩,
  ⟨"svg", ["width: 30px", "height: 30px"], false⟩,
  ⟨".legend-item", ["display: flex", "align-items: center", "margin-bottom: 5px"], false⟩,
  ⟨".legend-symbol", ["margin-right: 10px"], false⟩,
  ⟨"h2, h3", ["color: white"], false⟩,
  ⟨".count-row td", ["font-size: 0.8em", "font-weight: bold", "color: #eee", "border: none",
    "background-color: transparent"], true⟩,
  ⟨".count-row.quarter td", ["border-bottom: 1px solid #777"], true⟩,
  ⟨".count-label", ["width: 80px", "text-align: left", "padding-left: 5px", "font-weight: bold"],
    true⟩]

def styleSheet : String :=
  String.join (styleRules.map StyleRule.text)

open Markup

namespace Page

def cell (barEnd : Bool) (content : List Markup) : Markup :=
  .element "td" [("class", if barEnd then "bar-line" else "")] content

def numberText (n : Nat) : Markup :=
  .text (String.ofList (Text.decimal n))

def upperCell (c : Cell (Option Nat)) : Markup :=
  cell c.barEnd (c.content.toList.map numberText)

def lowerCell (c : Cell Nat) : Markup :=
  cell c.barEnd [numberText c.content]

def strokeCell (fill : String) (c : Cell Stroke) : Markup :=
  cell c.barEnd [.element "svg" [] (c.content.figure fill)]

def countingRow (kind label : String) (cells : List Markup) : Markup :=
  .element "tr" [("class", "count-row " ++ kind)]
    (onLines (.element "td" [("class", "count-label")] [.text label] :: cells))

def strokeRow (d : Drum) (cells : List (Cell Stroke)) : Markup :=
  .element "tr" []
    (onLines (.element "td" [] [.element "b" [] [.text d.name]] ::
      cells.map (strokeCell d.colour)))

/-- Rows of drums have an empty line before them. -/
def table (c : Chart) : Markup :=
  .element "table" [] (
    [.text "\n", countingRow "quarter" c.upperLabel (c.upper.map upperCell),
      .text "\n", countingRow "sixteenth" c.lowerLabel (c.lower.map lowerCell)] ++
    Drum.all.flatMap (fun d => [.text "\n\n", strokeRow d (c.row d)]) ++ [.text "\n"])

def legend : List (Stroke × String) :=
  [(.openTone, "Suono aperto"), (.pressed, "Suono pressionato"), (.slap, "Slap sulla culatta"),
    (.mordito, "Insieme - mordito")]

def legendItem (entry : Stroke × String) : Markup :=
  .element "div" [("class", "legend-item")] (onLines [
    .element "div" [("class", "legend-symbol")]
      [.element "svg" [] (entry.1.figure Drum.okonkolo.colour)],
    .element "span" [] [.text (entry.1.symbol.toString ++ ": " ++ entry.2)]])

def legendBox : Markup :=
  .element "div" [("class", "legend-container")] (onLines (legend.map legendItem))

def head : Markup :=
  .element "head" [] (onLines [.element "style" [] [.text ("\n" ++ styleSheet)]])

def body (c : Chart) : Markup :=
  .element "body" [] (onLines [
    .element "h2" [] [.text c.title],
    table c,
    .element "h3" [] [.text "Legenda dei simboli:"],
    legendBox])

end Page

def Chart.page (c : Chart) : Markup :=
  .element "html" [] (onLines [Page.head, Page.body c])

def Toque.document (t : Toque) : String :=
  String.ofList (t.chart.page.chars ++ ['\n'])

end Bata
