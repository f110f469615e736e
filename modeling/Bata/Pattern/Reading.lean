import Bata.Pattern.Item
import Bata.Text.Letter

namespace Bata.Pattern

open Reader

structure Draft where
  start : Nat
  /-- The alternatives that are complete, the latest first. -/
  alternatives : List Tree
  place : Nat
  /-- Its parts with the places where they begin, the latest first. -/
  parts : List (Tree × Nat)

namespace Draft

def blank (start : Nat) : Draft :=
  ⟨start, [], start, []⟩

def add (d : Draft) (t : Tree) (start : Nat) : Draft :=
  { d with parts := (t, start) :: d.parts }

def sequence (d : Draft) (stop : Nat) : Tree :=
  match d.parts with
  | [] => .empty
  | [(t, _)] => t
  | parts => .sequence (parts.reverse.map (·.1)) ⟨d.place, stop⟩

def endAlternative (d : Draft) (bar : Nat) : Draft :=
  { d with alternatives := d.sequence bar :: d.alternatives, place := bar + 1, parts := [] }

def finish (d : Draft) (stop : Nat) : Tree :=
  match d.alternatives with
  | [] => d.sequence stop
  | alternatives => .choice ((d.sequence stop :: alternatives).reverse) ⟨d.start, stop⟩

end Draft

/-- A group that is open: where, what stood before it, and the flags that hold after it. -/
structure Group where
  start : Nat
  number : Option Nat
  before : Draft
  outer : Flags

structure Progress where
  groups : List Group
  draft : Draft
  numbered : Nat
  names : List (List Char × Span)

def popPart (d : Draft) (start : Nat) : Reader (Tree × Nat × Draft) :=
  match d.parts with
  | (.flags, _) :: _ | [] => fail .nothingToRepeat start start
  | (t, i) :: parts => return (t, i, { d with parts := parts })

/-- Whether a repetition is greedy: a question mark after it turns that over. -/
def readGreed : Reader Bool := do
  let marked ← accept ["?"]
  return marked == (← flags).short

/-- A decimal number in a counted repetition; what is wrong with it counts once it is needed. -/
def readCount : Reader (Except Fault Nat) := do
  skip ((← get).rest.takeWhile Text.isBlank).length
  let start ← here
  let digits ← Reader.takeWhile Char.isDigit
  let stop ← here
  let _ ← Reader.takeWhile Text.isBlank
  let n := Text.ofDecimal digits
  return if digits.isEmpty then .error ⟨.countEmpty, ⟨start, stop⟩, none⟩
    else if UInt32.size ≤ n then .error ⟨.countTooLarge, ⟨start, stop⟩, none⟩
    else .ok n

structure Counts where
  least : Nat
  most : Option Nat
  greedy : Bool

def readCounts : Reader Counts := do
  let start ← here
  let unclosed : Reader Unit := do
    if (← next?).isNone then fail .countUnclosed start (← here)
  step
  unclosed
  let least ← readCount
  unclosed
  let (least, most) ←
    if (← next?) = some ',' then do
      step
      unclosed
      if (← next?) = some '\x7d' then pure ((← MonadExcept.ofExcept least), none)
      else do
        let n ← MonadExcept.ofExcept least
        let most ← MonadExcept.ofExcept (← readCount)
        pure (n, some most)
    else do
      let n ← MonadExcept.ofExcept least
      pure (n, some n)
  if (← next?) ≠ some '\x7d' then fail .countUnclosed start (← here)
  step
  let greedy ← readGreed
  if most.any (· < least) then fail .countOrder start (← here)
  return ⟨least, most, greedy⟩

/-- A letter or an underscore first, and numerals, dots and brackets after it. -/
def isNameChar (first : Bool) (c : Char) : Bool :=
  c = '_' || Text.isLetter c ||
    (!first && (Text.isNumeral c || c = '.' || c = '[' || c = ']'))

def readName (names : List (List Char × Span)) : Reader (List Char × Span) := do
  let start ← here
  let rest := (← get).rest
  let name := rest.takeWhile (· ≠ '>')
  match name.zipIdx.find? fun (c, i) => !isNameChar (i = 0) c with
  | some (_, i) => fail .groupNameCharacter (start + i) (start + i + 1)
  | none =>
    let stop := start + name.length
    if name.length = rest.length then fail .groupNameUnclosed stop stop
    skip (name.length + 1)
    if name.isEmpty then fail .groupNameEmpty start start
    match names.find? (·.1 = name) with
    | some (_, earlier) => throw ⟨.groupNameDuplicate, ⟨start, stop⟩, some earlier⟩
    | none => return (name, ⟨start, stop⟩)

/-- The letters of flags up to a colon or parenthesis, after those of `seen`, and the flags they
make of `f`. A dash turns off what follows it. Each letter takes a character. -/
def readFlags : Nat → List (Char × Nat) → Flags → Reader (Flags × Bool)
  | 0, _, _ => fail .flagAtEnd 0 0
  | fuel + 1, seen, f => do
    let i ← here
    match ← next? with
    | none => fail .flagAtEnd i i
    | some c =>
      let negated := seen.any (·.1 = '-')
      if c = ':' || c = ')' then
        match seen with
        | ('-', j) :: _ => fail .flagDanglingNegation j (j + 1)
        | _ => return (f, !seen.isEmpty)
      else
        let f ← if c = '-' then pure f else
          match f.set? (!negated) c with
          | some f => pure f
          | none => fail .flagUnknown i (i + 1)
        match seen.find? (·.1 = c) with
        | some (_, j) =>
          throw ⟨if c = '-' then .flagRepeatedNegation else .flagDuplicate, ⟨i, i + 1⟩,
            some ⟨j, j + 1⟩⟩
        | none =>
          skip 1
          readFlags fuel ((c, i) :: seen) f

namespace Progress

def add (p : Progress) (t : Tree) (start : Nat) : Progress :=
  { p with draft := p.draft.add t start }

def openGroup (p : Progress) (start : Nat) (number : Option Nat) : Reader Progress := do
  let place ← here
  return { p with
    groups := ⟨start, number, p.draft, ← flags⟩ :: p.groups
    draft := .blank place
    numbered := number.getD p.numbered }

/-- A group from its parenthesis on, or a setting of flags for the rest of the group it is in. -/
def readGroup (p : Progress) : Reader Progress := do
  let start ← here
  step
  let inner ← here
  if ← accept ["?=", "?!", "?<=", "?<!"] then fail .lookAround start (← here)
  if ← accept ["?P<", "?<"] then
    let name ← readName p.names
    { p with names := name :: p.names }.openGroup start (some (p.numbered + 1))
  else if ← accept ["?"] then
    if (← next?).isNone then fail .groupUnclosed start (start + 1)
    let (f, any) ← readFlags ((← get).rest.length + 1) [] (← flags)
    let closing ← next?
    skip 1
    if closing = some ')' then
      if !any then fail .nothingToRepeat inner inner
      setFlags f
      return p.add .flags start
    else
      let opened ← p.openGroup start none
      setFlags f
      return opened
  else p.openGroup start (some (p.numbered + 1))

def closeGroup (p : Progress) : Reader Progress := do
  let place ← here
  match p.groups with
  | [] => fail .groupUnopened place (place + 1)
  | g :: groups =>
    setFlags g.outer
    skip 1
    let group := Tree.group g.number (p.draft.finish place) ⟨g.start, place + 1⟩
    return { p with groups := groups, draft := g.before.add group g.start }

def repeatLast (p : Progress) (least : Nat) (most : Option Nat) : Reader Progress := do
  let (body, start, draft) ← popPart p.draft (← here)
  skip 1
  let greedy ← readGreed
  let repetition := Tree.repeated body least most greedy ⟨start, ← here⟩
  return { p with draft := draft.add repetition start }

def repeatCounted (p : Progress) : Reader Progress := do
  let (body, start, draft) ← popPart p.draft (← here)
  let counts ← readCounts
  let repetition := Tree.repeated body counts.least counts.most counts.greedy ⟨start, ← here⟩
  return { p with draft := draft.add repetition start }

def readPart (p : Progress) (c : Char) : Reader Progress := do
  let f ← flags
  let start ← here
  match c with
  | '(' => p.readGroup
  | ')' => p.closeGroup
  | '|' =>
    skip 1
    return { p with draft := p.draft.endAlternative start }
  | '[' => return p.add (.set f (← readSet)) start
  | '?' => p.repeatLast 0 (some 1)
  | '*' => p.repeatLast 0 none
  | '+' => p.repeatLast 1 none
  | '\x7b' => p.repeatCounted
  | '\\' =>
    match ← readEscape with
    | .item i => return p.add (.item f i) start
    | .assertion a _ => return p.add (.assertion a) start
  | _ =>
    skip 1
    return match c with
      | '.' => p.add (.dot f ⟨start, start + 1⟩) start
      | '^' => p.add (.assertion f.lineStart) start
      | '$' => p.add (.assertion f.lineEnd) start
      | _ => p.add (.item f (.literal (plainLiteral c start))) start

/-- Each part takes a character, which bounds their number. -/
def read : Nat → Progress → Reader Tree
  | 0, p => return p.draft.finish (← here)
  | fuel + 1, p => do
    gap
    match ← next?, p.groups with
    | some c, _ => read fuel (← p.readPart c)
    | none, [] => return p.draft.finish (← here)
    | none, g :: _ => fail .groupUnclosed g.start (g.start + 1)

end Progress

def Tree.ofChars (cs : List Char) : Except Fault Tree :=
  ((Progress.read (cs.length + 1) ⟨[], .blank 0, 0, []⟩).run ⟨0, cs, .initial⟩).map (·.1)

end Bata.Pattern
