import Bata.Markup
import Bata.Toque

namespace Bata

structure Ruling where
  columns : Nat
  barLength : Nat
  groupLength : Nat
  deriving DecidableEq, Repr

namespace Ruling

def endsBar (r : Ruling) (i : Nat) : Bool :=
  (i + 1) % r.barLength = 0

/-- The number of the group that begins on column `i`. -/
def groupNumber? (r : Ruling) (i : Nat) : Option Nat :=
  if i % r.groupLength = 0 then some (i / r.groupLength + 1) else none

/-- The place of column `i` in its group, from one. -/
def placeInGroup (r : Ruling) (i : Nat) : Nat :=
  i % r.groupLength + 1

/-- The first `columns` of the given symbols, with `filler` where there are too few. -/
def fit (r : Ruling) (filler : Char) (symbols : List Char) : List Char :=
  (symbols ++ List.replicate r.columns filler).take r.columns

end Ruling

structure Cell (α : Type) where
  barEnd : Bool
  content : α
  deriving DecidableEq, Repr

def Ruling.row {α : Type} (r : Ruling) (contents : List α) : List (Cell α) :=
  contents.mapIdx fun i x => ⟨r.endsBar i, x⟩

structure Chart where
  title : String
  upperLabel : String
  lowerLabel : String
  upper : List (Cell (Option Nat))
  lower : List (Cell Nat)
  row : Drum → List (Cell Stroke)

/-- What is drawn for a symbol: nothing, as for a rest, when it stands for no stroke. -/
def Stroke.drawn (c : Char) : Stroke :=
  (ofSymbol? c).getD .rest

namespace Toque

def ruling (t : Toque) : Ruling :=
  ⟨t.columns, t.meter.barLength, t.meter.groupLength⟩

def title (t : Toque) : String :=
  t.name ++ " in " ++ t.timeSignature

/-- The strokes of a drum, with rests after the end of its part. -/
def strokes (t : Toque) (d : Drum) : List Stroke :=
  (t.ruling.fit Stroke.rest.symbol (t.part d).toList).map Stroke.drawn

def chart (t : Toque) : Chart where
  title := t.title
  upperLabel := t.meter.upperLabel
  lowerLabel := t.meter.lowerLabel
  upper := t.ruling.row ((List.range t.columns).map t.ruling.groupNumber?)
  lower := t.ruling.row ((List.range t.columns).map t.ruling.placeInGroup)
  row d := t.ruling.row (t.strokes d)

end Toque

namespace Figure

/-- In the middle of a cell of 30 by 30 units. -/
def circle (fill : String) (more : List (String × String)) : Markup :=
  .closed "circle" ([("cx", "15"), ("cy", "15"), ("r", "10"), ("stroke", "white"),
    ("stroke-width", "2"), ("fill", fill)] ++ more)

def triangle (points width fill : String) : Markup :=
  .closed "polygon" [("points", points), ("stroke", "white"), ("stroke-width", width),
    ("fill", fill)]

end Figure

open Figure in
/-- A rest is not drawn; open tone and slap together are a triangle inside a circle. -/
def Stroke.figure (fill : String) : Stroke → List Markup
  | .rest => []
  | .openTone => [circle fill []]
  | .pressed => [circle fill [("stroke-dasharray", "4")]]
  | .slap => [triangle "15,5 25,25 5,25" "2" fill]
  | .mordito => [circle fill [], triangle "15,7.3 21,20 9,20" "1.5" fill]

end Bata
