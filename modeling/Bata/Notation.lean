import Bata.Text.Basic
import Bata.Toque

namespace Bata

namespace Notation

inductive Line where
  | name (value : String)
  | time (signature : String)
  | heading (drum : Drum)
  /-- Symbols for the drum whose section this is, or a remark before the first section. -/
  | content (symbols : String)
  deriving DecidableEq, Repr

def nameLabel : String := "Toque:"

def timeLabel : String := "Time:"

/-- A label wins over a drum's name, and only the exact name is a heading. -/
def Line.ofChars (cs : List Char) : Line :=
  match nameLabel.toList.isPrefixOf? cs with
  | some value => .name (String.ofList (Text.trim value))
  | none =>
    match timeLabel.toList.isPrefixOf? cs with
    | some value => .time (String.ofList (Text.trim value))
    | none =>
      match Drum.ofName? (String.ofList cs) with
      | some d => .heading d
      | none => .content (String.ofList cs)

def trimmedLines (text : String) : List (List Char) :=
  (Text.lines text.toList).map Text.trim

inductive Header where
  /-- By a labelled line, or not at all. -/
  | labelled
  /-- Alone on the first line that is not blank. -/
  | bare
  deriving DecidableEq, Repr

def Header.name : Header → String
  | .labelled => "Labelled"
  | .bare => "BareTimeSignature"

def isNumeral (cs : List Char) : Bool :=
  !cs.isEmpty && cs.all Char.isDigit

/-- ASCII digits, a slash, ASCII digits. -/
def isSignature (cs : List Char) : Bool :=
  match cs.dropWhile (· ≠ '/') with
  | [] => false
  | _ :: lower => isNumeral (cs.takeWhile (· ≠ '/')) && isNumeral lower

def startsWithLabel (cs : List Char) : Bool :=
  nameLabel.toList.isPrefixOf cs || timeLabel.toList.isPrefixOf cs

/-- The signature alone at the top of trimmed lines, with the lines that follow it. -/
def bareSignature? (ls : List (List Char)) : Option (List Char × List (List Char)) :=
  match ls.dropWhile List.isEmpty with
  | [] => none
  | l :: rest => if !startsWithLabel l && isSignature l then some (l, rest) else none

theorem isSignature_cons {c : Char} (h : c.isDigit = false) (cs : List Char) :
    isSignature (c :: cs) = false := by
  by_cases hc : c = '/'
  · subst hc
    simp [isSignature, isNumeral]
  · unfold isSignature
    split
    · rfl
    · simp [isNumeral, hc, h]

/-- Both labels start with a letter. -/
theorem isSignature_of_startsWithLabel {cs : List Char} (h : startsWithLabel cs = true) :
    isSignature cs = false := by
  rw [startsWithLabel, Bool.or_eq_true, List.isPrefixOf_iff_prefix, List.isPrefixOf_iff_prefix] at h
  obtain ⟨rest, rfl⟩ | ⟨rest, rfl⟩ := h
  · exact isSignature_cons (by decide) _
  · exact isSignature_cons (by decide) _

theorem bareSignature?_eq (ls : List (List Char)) :
    bareSignature? ls =
      match ls.dropWhile List.isEmpty with
      | [] => none
      | l :: rest => if isSignature l then some (l, rest) else none := by
  rw [bareSignature?]
  split
  · rfl
  · rename_i l rest _
    cases hlabel : startsWithLabel l with
    | false => rfl
    | true => simp [isSignature_of_startsWithLabel hlabel]

def Header.ofText (text : String) : Header :=
  match bareSignature? (trimmedLines text) with
  | none => .labelled
  | some _ => .bare

structure Reading where
  toque : Toque
  drum? : Option Drum
  deriving DecidableEq, Repr

/-- The last header of a kind counts, a section grows by each of its content lines, and a header
does not end the section it stands in. -/
def Reading.next (r : Reading) : Line → Reading
  | .name value => { r with toque.name := value }
  | .time signature => { r with toque.timeSignature := signature }
  | .heading d => { r with drum? := some d }
  | .content symbols =>
    match r.drum? with
    | none => r
    | some d => { r with toque.parts := r.toque.parts.append d symbols }

def readLines (start : Toque) (ls : List (List Char)) : Toque :=
  ((ls.map Line.ofChars).foldl Reading.next ⟨start, none⟩).toque

end Notation

open Notation in
def Toque.ofText (text : String) : Toque :=
  match bareSignature? (trimmedLines text) with
  | none => readLines .blank (trimmedLines text)
  | some (signature, rest) =>
    readLines { Toque.blank with timeSignature := String.ofList signature } rest

end Bata
