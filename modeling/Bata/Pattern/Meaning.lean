import Bata.Pattern
import Bata.Pattern.Tree

namespace Bata.Pattern

/-- Where all of Unicode counts there is no list of letters, digits and cases; where only ASCII
counts, nothing may match that is not a character. -/
abbrev Meant := Except Fault

def refuse {α : Type} (flaw : Flaw) (span : Span) : Meant α :=
  .error ⟨flaw, span, none⟩

/-- Names count without blanks, dashes and underscores, in any case and without `is` at the
start. -/
def propertyKey (name : List Char) : List Char :=
  let name := match name with
    | i :: s :: rest => if i.toLower = 'i' ∧ s.toLower = 's' then rest else name
    | _ => name
  (name.filter fun c => c ≤ '\x7f' && c ≠ ' ' && c ≠ '_' && c ≠ '-').map Char.toLower

/-- No property is known; three names can only be values of one. -/
def propertyFlaw (name : List Char) : Flaw :=
  if propertyKey name ∈ ["cf".toList, "sc".toList, "lc".toList] then .propertyValueUnknown
  else .propertyUnknown

def Literal.meaning (f : Flags) (l : Literal) : Meant Char :=
  if !f.wide && l.isByte && '\x7f' < l.char then refuse .bytesOutsideText l.span else return l.char

def ShortSet.chars : ShortSet → CharSet
  | .digit => CharSet.digit
  | .space => CharSet.space
  | .word => CharSet.word

def ShortSet.meaning (f : Flags) (s : ShortSet) (negated : Bool) (span : Span) : Meant CharSet :=
  if f.wide then refuse .wideShortSet span
  else if negated then refuse .bytesOutsideText span
  else return s.chars

def propertyMeaning (f : Flags) (name : List Char) (span : Span) : Meant CharSet :=
  if f.wide then refuse (propertyFlaw name) span else refuse .unicodeNotAllowed span

def Literal.setMeaning (f : Flags) (l : Literal) : Meant Char := do
  let c ← l.meaning f
  if !f.wide && '\x7f' < c then refuse .unicodeNotAllowed l.span else return c

def Item.setMeaning (f : Flags) : Item → Meant CharSet
  | .literal l => do
    let c ← l.setMeaning f
    return [⟨c, c⟩]
  | .short s negated span => s.meaning f negated span
  | .property name span => propertyMeaning f name span

namespace SetTree

mutual

/-- Whether characters have been named since letters were last taken in any case. -/
def namesChars : SetTree → Bool
  | .item (.literal _) | .range _ _ => true
  | .union items _ => anyNamesChars items
  | _ => false

def anyNamesChars : List SetTree → Bool
  | [] => false
  | s :: ss => s.namesChars || anyNamesChars ss

end

def inAnyCase (f : Flags) (namesChars : Bool) (span : Span) (chars : CharSet) : Meant CharSet :=
  if !f.anyCase then return chars
  else if !f.wide then return chars.anyCase
  else if namesChars then refuse .wideAnyCase span
  else return chars

def negate (f : Flags) (negated : Bool) (span : Span) (chars : CharSet) : Meant CharSet :=
  if !negated then return chars
  else if f.wide then return chars.compl
  else refuse .bytesOutsideText span

def combine (l r : CharSet) : SetOperator → CharSet
  | .intersection => l.inter r
  | .difference => l.diff r
  | .symmetricDifference => l.symmDiff r

mutual

def meaning (f : Flags) : SetTree → Meant CharSet
  | .empty _ => return []
  | .item i => i.setMeaning f
  | .range first last => do return [⟨← first.setMeaning f, ← last.setMeaning f⟩]
  | .named chars negated span => do
    negate f negated span (← inAnyCase f true span (CharSet.ofRanges chars))
  | .brackets negated body span => do
    let chars ← body.meaning f
    negate f negated span (← inAnyCase f body.namesChars span chars)
  | .union items _ => unionMeaning f items
  | .combined o left right _ => do
    let l ← left.meaning f
    let r ← right.meaning f
    let r ← inAnyCase f right.namesChars right.span r
    let l ← inAnyCase f left.namesChars left.span l
    return combine l r o

def unionMeaning (f : Flags) : List SetTree → Meant CharSet
  | [] => return []
  | s :: ss => do
    let chars ← s.meaning f
    return (← unionMeaning f ss).union chars

end

end SetTree

/-- A literal in any case is a set, if it is a letter. -/
def Literal.pattern (f : Flags) (l : Literal) : Meant Pattern := do
  let c ← l.meaning f
  if !f.anyCase then return .literal [c]
  else if f.wide then refuse .wideAnyCase l.span
  else return ofSet (CharSet.anyCase [⟨c, c⟩]) false

def Item.pattern (f : Flags) : Item → Meant Pattern
  | .literal l => l.pattern f
  | .short s negated span => do return ofSet (← s.meaning f negated span) f.wide
  | .property name span => do return ofSet (← propertyMeaning f name span) f.wide

def dotChars (f : Flags) : CharSet :=
  if f.dotAll then CharSet.everything
  else if f.returns then (CharSet.ofChars ['\n', '\r']).compl
  else (CharSet.ofChars ['\n']).compl

def dotPattern (f : Flags) (span : Span) : Meant Pattern :=
  if f.wide then return .set (dotChars f) true else refuse .bytesOutsideText span

namespace Tree

mutual

def meaning : Tree → Meant Pattern
  | .empty | .flags => return .empty
  | .item f i => i.pattern f
  | .dot f span => dotPattern f span
  | .assertion a => return .assertion a
  | .set f s => do return ofSet (← s.meaning f) f.wide
  | .repeated body least most greedy _ => do return (← body.meaning).times least most greedy
  | .group number body _ => do
    let p ← body.meaning
    return match number with
      | some n => .group n p
      | none => p
  | .sequence parts _ => do return .sequence (← meanings parts)
  | .choice alternatives _ => do return .choice (← meanings alternatives)

def meanings : List Tree → Meant (List Pattern)
  | [] => return []
  | t :: ts => do
    let p ← t.meaning
    return p :: (← meanings ts)

end

end Tree

end Bata.Pattern
