import Bata.Text.Quoted

namespace Bata

inductive Drum where
  | okonkolo
  | itotele
  | iya
  deriving DecidableEq, Repr

namespace Drum

/-- From the smallest drum to the largest, the order of their rows. -/
def all : List Drum :=
  [.okonkolo, .itotele, .iya]

def name : Drum → String
  | .okonkolo => "Okonkolo"
  | .itotele => "Itotele"
  | .iya => "Iya"

def ofName? (s : String) : Option Drum :=
  all.find? (·.name = s)

def colour : Drum → String
  | .okonkolo => "rgb(200, 0, 0)"
  | .itotele => "rgb(255, 200, 0)"
  | .iya => "rgb(0, 0, 150)"

def rank : Drum → Nat
  | .okonkolo => 0
  | .itotele => 1
  | .iya => 2

instance : Ord Drum where
  compare a b := compare a.rank b.rank

theorem mem_all (d : Drum) : d ∈ all := by
  cases d <;> simp [all]

theorem ofName?_name (d : Drum) : ofName? d.name = some d := by
  cases d <;> decide

theorem name_inj {d e : Drum} : d.name = e.name ↔ d = e := by
  refine ⟨fun h => ?_, congrArg name⟩
  have hd := ofName?_name d
  rw [h, ofName?_name] at hd
  exact (Option.some.inj hd).symm

theorem name_of_ofName? {s : String} {d : Drum} (h : ofName? s = some d) : d.name = s := by
  simpa using List.find?_some h

end Drum

inductive Stroke where
  | rest
  | openTone
  | pressed
  | slap
  /-- Open tone and slap together. -/
  | mordito
  deriving DecidableEq, Repr

namespace Stroke

def all : List Stroke :=
  [.rest, .openTone, .pressed, .slap, .mordito]

def symbol : Stroke → Char
  | .rest => '-'
  | .openTone => 'A'
  | .pressed => 'P'
  | .slap => 'S'
  | .mordito => 'I'

def ofSymbol? (c : Char) : Option Stroke :=
  all.find? (·.symbol = c)

theorem ofSymbol?_symbol (s : Stroke) : ofSymbol? s.symbol = some s := by
  cases s <;> decide

theorem symbol_of_ofSymbol? {c : Char} {s : Stroke} (h : ofSymbol? c = some s) : s.symbol = c := by
  simpa using List.find?_some h

end Stroke

inductive Meter where
  | common
  | compound
  /-- Any signature but `4/4` and `6/8`, laid out as `4/4`. -/
  | other
  deriving DecidableEq, Repr

namespace Meter

def ofSignature (s : String) : Meter :=
  if s = "4/4" then .common else if s = "6/8" then .compound else .other

/-- Columns from one bar line to the next. -/
def barLength : Meter → Nat
  | .compound => 6
  | _ => 4

/-- Columns that share one number of the upper counting row. -/
def groupLength : Meter → Nat
  | .compound => 6
  | _ => 4

def upperLabel : Meter → String
  | .common => "Quarti"
  | _ => "Gruppi"

def lowerLabel : Meter → String
  | .common => "Sedicesimi"
  | _ => "Suddivisioni"

theorem ofSignature_eq_other {s : String} :
    ofSignature s = .other ↔ s ≠ "4/4" ∧ s ≠ "6/8" := by
  unfold ofSignature
  split
  · simp_all
  · split <;> simp_all

end Meter

/-- What is written for each drum; a drum may have no entry. -/
structure Parts where
  okonkolo : Option String
  itotele : Option String
  iya : Option String
  deriving DecidableEq, Repr

namespace Parts

def get? (p : Parts) : Drum → Option String
  | .okonkolo => p.okonkolo
  | .itotele => p.itotele
  | .iya => p.iya

def set (p : Parts) (d : Drum) (entry : Option String) : Parts :=
  match d with
  | .okonkolo => { p with okonkolo := entry }
  | .itotele => { p with itotele := entry }
  | .iya => { p with iya := entry }

def empty : Parts :=
  ⟨none, none, none⟩

/-- Every drum has an entry, with nothing in it. -/
def blank : Parts :=
  ⟨some "", some "", some ""⟩

def insert (p : Parts) (d : Drum) (part : String) : Parts :=
  p.set d (some part)

def erase (p : Parts) (d : Drum) : Parts :=
  p.set d none

/-- Adds to the end of a part, from nothing where the drum has no entry. -/
def append (p : Parts) (d : Drum) (more : String) : Parts :=
  p.insert d ((p.get? d).getD "" ++ more)

def toList (p : Parts) : List (Drum × String) :=
  Drum.all.filterMap fun d => (p.get? d).map (d, ·)

theorem get?_set (p : Parts) (d e : Drum) (x : Option String) :
    (p.set d x).get? e = if e = d then x else p.get? e := by
  cases d <;> cases e <;> rfl

theorem get?_insert (p : Parts) (d e : Drum) (part : String) :
    (p.insert d part).get? e = if e = d then some part else p.get? e :=
  get?_set p d e (some part)

theorem get?_erase (p : Parts) (d e : Drum) :
    (p.erase d).get? e = if e = d then none else p.get? e :=
  get?_set p d e none

theorem get?_append (p : Parts) (d e : Drum) (more : String) :
    (p.append d more).get? e =
      if e = d then some ((p.get? d).getD "" ++ more) else p.get? e :=
  get?_insert p d e _

theorem ext_get? {p q : Parts} (h : ∀ d, p.get? d = q.get? d) : p = q := by
  cases p; cases q
  exact congr (congr (congrArg Parts.mk (h .okonkolo)) (h .itotele)) (h .iya)

end Parts

structure Toque where
  name : String
  timeSignature : String
  parts : Parts
  deriving DecidableEq, Repr

namespace Toque

def blank : Toque :=
  ⟨"", "", .blank⟩

/-- What is written for a drum, nothing where it has no entry. -/
def part (t : Toque) (d : Drum) : String :=
  (t.parts.get? d).getD ""

/-- The number of columns: the length of the longest part in characters. -/
def columns (t : Toque) : Nat :=
  (Drum.all.map fun d => (t.part d).length).foldr max 0

def meter (t : Toque) : Meter :=
  .ofSignature t.timeSignature

theorem ext_get? {s t : Toque} (hname : s.name = t.name)
    (htime : s.timeSignature = t.timeSignature)
    (hparts : ∀ d, s.parts.get? d = t.parts.get? d) : s = t := by
  cases s; cases t
  exact congr (congr (congrArg Toque.mk hname) htime) (Parts.ext_get? hparts)

end Toque

/-- What cannot be drawn as it is written: an unknown signature is laid out as `4/4`, an unknown
symbol leaves its cell blank, and a drum without symbols has an empty row. -/
inductive Warning where
  | unknownSignature (signature : String)
  | unknownSymbol (drum : Drum) (column : Nat) (symbol : Char)
  | noSymbols (drum : Drum)
  deriving DecidableEq, Repr

namespace Warning

def messageHiding (hidden : Char → Bool) : Warning → String
  | .unknownSignature s =>
    "unrecognized time signature " ++ Text.quoteText hidden s ++ ", bar lines assume 4/4"
  | .unknownSymbol d column c =>
    d.name ++ ": unrecognized symbol " ++ Text.quoteChar hidden c ++ " at column " ++
      String.ofList (Text.decimal column) ++ ", rendered blank"
  | .noSymbols d => d.name ++ ": no symbols, rendered as an empty row"

def message (w : Warning) : String :=
  w.messageHiding Text.isHidden

end Warning

namespace Toque

def signatureWarnings (t : Toque) : List Warning :=
  if t.meter = .other then [.unknownSignature t.timeSignature] else []

/-- The symbols that stand for no stroke, with their columns counted from zero. -/
def unknownSymbols (symbols : List Char) : List (Nat × Char) :=
  symbols.zipIdx.filterMap fun (c, column) =>
    if (Stroke.ofSymbol? c).isNone then some (column, c) else none

def partWarnings (t : Toque) (d : Drum) : List Warning :=
  if t.part d = "" then [.noSymbols d]
  else (unknownSymbols (t.part d).toList).map fun (column, c) => .unknownSymbol d column c

/-- The signature first, then the drums in the order of their rows. -/
def warnings (t : Toque) : List Warning :=
  t.signatureWarnings ++ Drum.all.flatMap t.partWarnings

end Toque

end Bata
