import Bata.Pattern.Tree
import Bata.Text.Basic

namespace Bata.Pattern

/-- What has not been read, with the place where it begins and the flags that hold there. -/
structure Cursor where
  place : Nat
  rest : List Char
  flags : Flags

def Cursor.advance : Nat → Cursor → Cursor
  | 0, c => c
  | n + 1, c =>
    match c.rest with
    | [] => c
    | _ :: rest => advance n { c with place := c.place + 1, rest := rest }

abbrev Reader := StateT Cursor (Except Fault)

namespace Reader

def fail {α : Type} (flaw : Flaw) (start stop : Nat) : Reader α :=
  throw ⟨flaw, ⟨start, stop⟩, none⟩

def here : Reader Nat :=
  return (← get).place

def flags : Reader Flags :=
  return (← get).flags

def setFlags (f : Flags) : Reader Unit :=
  modify fun c => { c with flags := f }

def next? : Reader (Option Char) :=
  return (← get).rest.head?

def skip (n : Nat) : Reader Unit :=
  modify (Cursor.advance n)

/-- How many characters count for nothing; a remark goes from a hash to the end of its line. -/
def idle (remark : Bool) : List Char → Nat
  | [] => 0
  | c :: cs =>
    if remark then idle (c ≠ '\n') cs + 1
    else if Text.isBlank c then idle false cs + 1
    else if c = '#' then idle true cs + 1
    else 0

def gap : Reader Unit := do
  let c ← get
  if c.flags.spaced then skip (idle false c.rest)

def step : Reader Unit := do
  skip 1
  gap

def accept (words : List String) : Reader Bool := do
  let rest := (← get).rest
  match words.find? (·.toList.isPrefixOf rest) with
  | none => return false
  | some word =>
    skip word.length
    return true

/-- Past at most `n` characters for which `p` holds, each with what counts for nothing after it. -/
def takeAtMost (p : Char → Bool) : Nat → Reader (List Char)
  | 0 => return []
  | n + 1 => do
    match ← next? with
    | none => return []
    | some c =>
      if p c then
        step
        return c :: (← takeAtMost p n)
      else return []

def takeWhile (p : Char → Bool) : Reader (List Char) := do
  takeAtMost p (← get).rest.length

end Reader

inductive Escape where
  | item (i : Item)
  | assertion (a : Assertion) (span : Span)

open Reader

def metaCharacters : List Char :=
  "\\.+*?()|[]\x7b\x7d^$#&-~".toList

/-- Any other ASCII character may be escaped if no letter, digit or angle. -/
def standsForItself (c : Char) : Bool :=
  c ∈ metaCharacters || (c ≤ '\x7f' && !c.isAlphanum && c ≠ '<' && c ≠ '>')

def shortEscape? : Char → Option Char
  | 'a' => some '\x07'
  | 'f' => some '\x0c'
  | 't' => some '\t'
  | 'n' => some '\n'
  | 'r' => some '\r'
  | 'v' => some '\x0b'
  | _ => none

/-- A capital stands for the characters that are not in the set. -/
def shortSet? : Char → Option (ShortSet × Bool)
  | 'd' => some (.digit, false)
  | 's' => some (.space, false)
  | 'w' => some (.word, false)
  | 'D' => some (.digit, true)
  | 'S' => some (.space, true)
  | 'W' => some (.word, true)
  | _ => none

def wordEdge? : Char → Option WordEdge
  | 'b' => some .boundary
  | 'B' => some .noBoundary
  | '<' => some .start
  | '>' => some .stop
  | _ => none

def namedEdge? : String → Option WordEdge
  | "start" => some .start
  | "end" => some .stop
  | "start-half" => some .halfStart
  | "end-half" => some .halfStop
  | _ => none

def isHexDigit (c : Char) : Bool :=
  (Text.hexValue? c).isSome

def hexCharacter (digits : List Char) (start stop : Nat) : Reader Char :=
  match Text.ofHexadecimal? digits with
  | some n => if n.isValidChar then return Char.ofNat n else fail .hexNoCharacter start stop
  | none => fail .hexNoCharacter start stop

def readHexDigits : Nat → Reader (List Char)
  | 0 => return []
  | n + 1 => do
    match ← next? with
    | none => fail .escapeAtEnd (← here) (← here)
    | some c =>
      if !isHexDigit c then fail .hexDigit (← here) ((← here) + 1)
      step
      return c :: (← readHexDigits n)

def readHexBraces : Reader Char := do
  let brace ← here
  step
  let digits ← takeWhile isHexDigit
  match ← next? with
  | none => fail .escapeAtEnd brace (← here)
  | some c =>
    let stop ← here
    if c ≠ '\x7d' then fail .hexDigit stop (stop + 1)
    step
    if digits.isEmpty then fail .hexEmpty brace (← here)
    hexCharacter digits (brace + 1) stop

def hexWidth : Char → Nat
  | 'x' => 2
  | 'u' => 4
  | _ => 8

def readHex (backslash : Nat) (letter : Char) : Reader Literal := do
  step
  match ← next? with
  | none => fail .escapeAtEnd (← here) (← here)
  | some '\x7b' =>
    let c ← readHexBraces
    return ⟨c, ⟨backslash, ← here⟩, false⟩
  | some _ =>
    let start ← here
    let digits ← readHexDigits (hexWidth letter)
    let c ← hexCharacter digits start (← here)
    return ⟨c, ⟨backslash, ← here⟩, letter = 'x'⟩

def readProperty : Reader (List Char) := do
  step
  match ← next? with
  | none => fail .escapeAtEnd (← here) (← here)
  | some '\\' => fail .propertyName (← here) ((← here) + 1)
  | some '\x7b' =>
    step
    let name ← takeWhile (· ≠ '\x7d')
    if (← next?).isNone then fail .escapeAtEnd (← here) (← here)
    skip 1
    return name
  | some c =>
    step
    return [c]

def isEdgeChar (c : Char) : Bool :=
  c.isAlpha || c = '-'

/-- The kind of a word boundary in braces after it. Braces that begin otherwise count
repetitions. -/
def readEdge (backslash : Nat) : Reader WordEdge := do
  let before ← get
  if before.rest.head? ≠ some '\x7b' then return .boundary
  step
  let start ← here
  match ← next? with
  | none => fail .wordBoundaryAtEnd backslash start
  | some c =>
    if !isEdgeChar c then
      modify fun _ => before
      return .boundary
    let name ← takeWhile isEdgeChar
    let stop ← here
    if (← next?) ≠ some '\x7d' then fail .wordBoundaryUnclosed before.place stop
    skip 1
    match namedEdge? (String.ofList name) with
    | some edge => return edge
    | none => fail .wordBoundaryUnknown start stop

def readLetterEscape (backslash : Nat) (c : Char) : Reader Escape := do
  let stop ← here
  let span : Span := ⟨backslash, stop⟩
  if standsForItself c then return .item (.literal ⟨c, span, false⟩)
  if let some d := shortEscape? c then return .item (.literal ⟨d, span, false⟩)
  if let some (s, negated) := shortSet? c then return .item (.short s negated span)
  if c = 'A' then return .assertion .textStart span
  if c = 'z' then return .assertion .textEnd span
  let wide := (← flags).wide
  match wordEdge? c with
  | some .boundary =>
    let edge ← readEdge backslash
    return .assertion (.word edge wide) ⟨backslash, ← here⟩
  | some edge => return .assertion (.word edge wide) span
  | none => fail .escapeUnknown backslash stop

def readEscape : Reader Escape := do
  let start ← here
  skip 1
  match ← next? with
  | none => fail .escapeAtEnd start (← here)
  | some c =>
    if c.isDigit then fail .backreference start ((← here) + 1)
    if c = 'x' || c = 'u' || c = 'U' then return .item (.literal (← readHex start c))
    if c = 'p' || c = 'P' then
      let name ← readProperty
      return .item (.property name ⟨start, ← here⟩)
    skip 1
    readLetterEscape start c

structure OpenSet where
  start : Nat
  opened : Nat
  negated : Bool
  pending : Option (SetTree × SetOperator)
  place : Nat
  /-- The items, the latest first. -/
  items : List SetTree

namespace OpenSet

def add (o : OpenSet) (s : SetTree) : OpenSet :=
  { o with items := s :: o.items }

def union (o : OpenSet) : SetTree :=
  match o.items with
  | [] => .empty o.place
  | [s] => s
  | last :: _ =>
    let items := o.items.reverse
    .union items ⟨(items.head?.map (·.span.start)).getD o.place, last.span.stop⟩

def body (o : OpenSet) : SetTree :=
  match o.pending with
  | none => o.union
  | some (left, operator) =>
    let right := o.union
    .combined operator left right ⟨left.span.start, right.span.stop⟩

def combine (o : OpenSet) (operator : SetOperator) (place : Nat) : OpenSet :=
  { o with pending := some (o.body, operator), place := place, items := [] }

def close (o : OpenSet) (stop : Nat) : SetTree :=
  .brackets o.negated o.body ⟨o.start, stop⟩

end OpenSet

def namedAfterColon? (cs : List Char) : Option (CharSet × Bool × Nat) :=
  let (negated, cs) := match cs with
    | '^' :: rest => (true, rest)
    | _ => (false, cs)
  let name := cs.takeWhile (· ≠ ':')
  if [':', ']'].isPrefixOf (cs.drop name.length) then
    (CharSet.named? (String.ofList name)).map fun s =>
      (s, negated, (if negated then 1 else 0) + name.length + 2)
  else none

def failUnclosed {α : Type} (start stop : Nat) : Reader α :=
  fail .setUnclosed start stop

def stepInside (span : Reader Span) : Reader Unit := do
  step
  if (← next?).isNone then
    let s ← span
    failUnclosed s.start s.stop

def plainLiteral (c : Char) (place : Nat) : Literal :=
  ⟨c, ⟨place, place + 1⟩, false⟩

/-- Dashes at the start of a set stand for themselves. -/
def readDashes (start : Nat) : Nat → Reader (List SetTree)
  | 0 => return []
  | fuel + 1 => do
    let place ← here
    if (← next?) ≠ some '-' then return []
    stepInside (return ⟨start, start⟩)
    return .item (.literal (plainLiteral '-' place)) :: (← readDashes start fuel)

/-- The start of a set; a closing bracket that comes first stands for itself. -/
def readOpening : Reader OpenSet := do
  let start ← here
  let span : Reader Span := return ⟨start, ← here⟩
  stepInside span
  let negated := (← next?) = some '^'
  if negated then stepInside span
  let place ← here
  let dashes ← readDashes start (← get).rest.length
  if dashes.isEmpty && (← next?) = some ']' then
    let bracket ← here
    stepInside span
    return ⟨start, ← here, negated, none, place, [.item (.literal (plainLiteral ']' bracket))]⟩
  return ⟨start, ← here, negated, none, place, dashes.reverse⟩

/-- An item, or an assertion, which is none. -/
def readSetItem : Reader Escape := do
  let start ← here
  match ← next? with
  | some '\\' => readEscape
  | c =>
    skip 1
    return .item (.literal (plainLiteral (c.getD '\x00') start))

def itemOf : Escape → Reader Item
  | .item i => return i
  | .assertion _ span => fail .setEscape span.start span.stop

def literalOf : Escape → Reader Literal
  | .item (.literal l) => return l
  | .item i => fail .setRangeEnd i.span.start i.span.stop
  | .assertion _ span => fail .setRangeEnd span.start span.stop

/-- What comes after a dash. In spaced patterns white space does not count, nor a hash after it; if
nothing else follows, what comes first is taken after all. -/
def afterDash? (f : Flags) (cs : List Char) : Option Char :=
  if f.spaced then
    let rest := cs.dropWhile Text.isBlank
    let rest := if rest.head? = some '#' then (rest.drop 1).dropWhile Text.isBlank else rest
    rest.head?.or cs.head?
  else cs.head?

def readSetRange (o : OpenSet) : Reader SetTree := do
  let first ← readSetItem
  gap
  let c ← get
  if c.rest.isEmpty then failUnclosed o.start o.opened
  let after := afterDash? c.flags (c.rest.drop 1)
  if c.rest.head? ≠ some '-' || after = some ']' || after = some '-' then
    return .item (← itemOf first)
  stepInside (return ⟨o.start, o.opened⟩)
  let last ← readSetItem
  let lo ← literalOf first
  let hi ← literalOf last
  if hi.char < lo.char then fail .setRangeOrder lo.span.start hi.span.stop
  return .range lo hi

def setOperator? : List Char → Option SetOperator
  | '&' :: '&' :: _ => some .intersection
  | '-' :: '-' :: _ => some .difference
  | '~' :: '~' :: _ => some .symmetricDifference
  | _ => none

/-- Reads on in the set that is open, inside those of `outer`. Each step takes a character. -/
def readSetOn : Nat → OpenSet → List OpenSet → Reader SetTree
  | 0, o, _ => failUnclosed o.start o.opened
  | fuel + 1, o, outer => do
    gap
    let place ← here
    let rest := (← get).rest
    match rest, setOperator? rest with
    | [], _ => failUnclosed o.start o.opened
    | _, some operator =>
      skip 2
      readSetOn fuel (o.combine operator (place + 2)) outer
    | ']' :: _, _ =>
      skip 1
      let closed := o.close (place + 1)
      match outer with
      | [] => return closed
      | parent :: outer => readSetOn fuel (parent.add closed) outer
    | '[' :: more, _ =>
      let named := if more.head? = some ':' then namedAfterColon? (more.drop 1) else none
      match named with
      | some (s, negated, length) =>
        skip (2 + length)
        readSetOn fuel (o.add (.named s negated ⟨place, place + 2 + length⟩)) outer
      | none => readSetOn fuel (← readOpening) (o :: outer)
    | _, _ => readSetOn fuel (o.add (← readSetRange o)) outer

def readSet : Reader SetTree := do
  let fuel := (← get).rest.length + 1
  readSetOn fuel (← readOpening) []

end Bata.Pattern
