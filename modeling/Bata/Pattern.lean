namespace Bata

def earlierChar (c d : Char) : Char :=
  if c ≤ d then c else d

def laterChar (c d : Char) : Char :=
  if c ≤ d then d else c

structure CharRange where
  first : Char
  last : Char
  deriving DecidableEq, Repr

namespace CharRange

def contains (r : CharRange) (c : Char) : Bool :=
  r.first ≤ c && c ≤ r.last

/-- From one character to another, whichever comes first. -/
def between (c d : Char) : CharRange :=
  ⟨earlierChar c d, laterChar c d⟩

/-- With the code points of both there is no gap. Surrogates are code points, so they are one. -/
def touches (r s : CharRange) : Bool :=
  max r.first.toNat s.first.toNat ≤ min r.last.toNat s.last.toNat + 1

def hull (r s : CharRange) : CharRange :=
  ⟨earlierChar r.first s.first, laterChar r.last s.last⟩

def meet? (r s : CharRange) : Option CharRange :=
  let first := laterChar r.first s.first
  let last := earlierChar r.last s.last
  if first ≤ last then some ⟨first, last⟩ else none

def move (f : Char → Char) (r : CharRange) : CharRange :=
  ⟨f r.first, f r.last⟩

end CharRange

def lastChar : Char :=
  Char.ofNat 0x10FFFF

/-- The character after one that is not the last; the surrogates are none. -/
def nextChar (c : Char) : Char :=
  if c.toNat = 0xD7FF then Char.ofNat 0xE000 else Char.ofNat (c.toNat + 1)

def previousChar (c : Char) : Char :=
  if c.toNat = 0xE000 then Char.ofNat 0xD7FF else Char.ofNat (c.toNat - 1)

def CharRange.without (r s : CharRange) : List CharRange :=
  if (r.meet? s).isNone then [r]
  else
    (if r.first < s.first then [between r.first (previousChar s.first)] else []) ++
      if s.last < r.last then [between (nextChar s.last) r.last] else []

/-- In ascending order, with gaps between the ranges. -/
abbrev CharSet := List CharRange

namespace CharSet

def contains (s : CharSet) (c : Char) : Bool :=
  s.any (·.contains c)

/-- Puts a range in its place, as one with those that it touches. -/
def insert (r : CharRange) : CharSet → CharSet
  | [] => [r]
  | q :: s =>
    if r.touches q then insert (r.hull q) s
    else if r.first < q.first then r :: q :: s
    else q :: insert r s

def ofRanges (rs : List CharRange) : CharSet :=
  rs.foldl (fun s r => insert r s) []

def ofChars (cs : List Char) : CharSet :=
  ofRanges (cs.map fun c => ⟨c, c⟩)

def union (s t : CharSet) : CharSet :=
  t.foldl (fun u r => insert r u) s

def inter (s t : CharSet) : CharSet :=
  s.flatMap fun r => t.filterMap r.meet?

def diff (s t : CharSet) : CharSet :=
  t.foldl (fun u q => u.flatMap (·.without q)) s

def symmDiff (s t : CharSet) : CharSet :=
  (s.union t).diff (s.inter t)

def everything : CharSet :=
  [⟨'\x00', lastChar⟩]

/-- The gaps after a character. A gap of surrogates alone has its two neighbours as its ends. -/
def gapsAfter (c : Char) : CharSet → CharSet
  | [] => if c < lastChar then [⟨nextChar c, lastChar⟩] else []
  | r :: s => .between (nextChar c) (previousChar r.first) :: gapsAfter r.last s

def compl : CharSet → CharSet
  | [] => everything
  | r :: s =>
    (if '\x00' < r.first then [⟨'\x00', previousChar r.first⟩] else []) ++ gapsAfter r.last s

def isAscii (s : CharSet) : Bool :=
  s.all (·.last ≤ '\x7f')

def lower : CharRange :=
  ⟨'a', 'z'⟩

def upper : CharRange :=
  ⟨'A', 'Z'⟩

def digits : CharRange :=
  ⟨'0', '9'⟩

/-- With each ASCII letter the same letter in the other case. -/
def anyCase (s : CharSet) : CharSet :=
  s.union ((s.inter [lower]).map (·.move Char.toUpper)) |>.union
    ((s.inter [upper]).map (·.move Char.toLower))

def digit : CharSet :=
  [digits]

def space : CharSet :=
  [⟨'\t', '\r'⟩, ⟨' ', ' '⟩]

def word : CharSet :=
  [digits, upper, ⟨'_', '_'⟩, lower]

def named? : String → Option CharSet
  | "alnum" => some [digits, upper, lower]
  | "alpha" => some [upper, lower]
  | "ascii" => some [⟨'\x00', '\x7f'⟩]
  | "blank" => some [⟨'\t', '\t'⟩, ⟨' ', ' '⟩]
  | "cntrl" => some [⟨'\x00', '\x1f'⟩, ⟨'\x7f', '\x7f'⟩]
  | "digit" => some digit
  | "graph" => some [⟨'!', '~'⟩]
  | "lower" => some [lower]
  | "print" => some [⟨' ', '~'⟩]
  | "punct" => some [⟨'!', '/'⟩, ⟨':', '@'⟩, ⟨'[', '\x60'⟩, ⟨'\x7b', '~'⟩]
  | "space" => some space
  | "upper" => some [upper]
  | "word" => some word
  | "xdigit" => some [digits, ⟨'A', 'F'⟩, ⟨'a', 'f'⟩]
  | _ => none

end CharSet

inductive WordEdge where
  | boundary
  | noBoundary
  | start
  | stop
  | halfStart
  | halfStop
  deriving DecidableEq, Repr

inductive Assertion where
  | textStart
  | textEnd
  | lineStart
  | lineEnd
  /-- Where a carriage return, alone or with its line feed, ends a line too. -/
  | returnLineStart
  | returnLineEnd
  /-- A `wide` one asks for the letters of all scripts; a pattern with one is not run. -/
  | word (edge : WordEdge) (wide : Bool)
  deriving DecidableEq, Repr

/-- A row of parts or of alternatives is nested to the right. -/
inductive Pattern where
  | empty
  | literal (text : List Char)
  /-- A set is `wide` that is written where all of Unicode counts, not only ASCII. -/
  | set (chars : CharSet) (wide : Bool)
  | assertion (a : Assertion)
  /-- As often as from `least` to `most` times, without a limit where there is no `most`. -/
  | repeated (body : Pattern) (least : Nat) (most : Option Nat) (greedy : Bool)
  | group (number : Nat) (body : Pattern)
  | both (first rest : Pattern)
  | either (first rest : Pattern)
  deriving DecidableEq, Repr

namespace WordEdge

def holds (before after : Bool) : WordEdge → Bool
  | .boundary => before != after
  | .noBoundary => before == after
  | .start => !before && after
  | .stop => before && !after
  | .halfStart => !before
  | .halfStop => !after

end WordEdge

namespace Assertion

/-- Whether it holds between the characters `before` and `after`, which are missing at the ends. -/
def holds (before after : Option Char) : Assertion → Bool
  | .textStart => before.isNone
  | .textEnd => after.isNone
  | .lineStart => before.isNone || before = some '\n'
  | .lineEnd => after.isNone || after = some '\n'
  | .returnLineStart =>
    before.isNone || before = some '\n' || (before = some '\r' && after ≠ some '\n')
  | .returnLineEnd => after.isNone || after = some '\r' || (after = some '\n' && before ≠ some '\r')
  | .word edge _ => edge.holds (before.any CharSet.word.contains) (after.any CharSet.word.contains)

end Assertion

namespace Pattern

/-- A set of places in a text: one mark before each character and one at the end. -/
abbrev Marks := List Bool

namespace Marks

def union (m n : Marks) : Marks :=
  List.zipWith or m n

def onward (accepts : Char → Bool) (text : List Char) (m : Marks) : Marks :=
  false :: List.zipWith (fun marked c => marked && accepts c) m text

/-- The marks at places where the assertion holds; `before` is the character before the text. -/
def satisfying (a : Assertion) (before : Option Char) : List Char → Marks → Marks
  | _, [] => []
  | [], marked :: _ => [marked && a.holds before none]
  | c :: cs, marked :: m =>
    (marked && a.holds before (some c)) :: satisfying a (some c) cs m

/-- Takes a step `n` times, or until it changes nothing. -/
def after (step : Marks → Marks) : Nat → Marks → Marks
  | 0, m => m
  | n + 1, m =>
    let m' := step m
    if m' = m then m else after step n m'

end Marks

/-- Where matches end that begin at the marks. More rounds of a repetition than there are places
lead nowhere else, since some of them have to stay where they are. -/
def reach (text : List Char) : Pattern → Marks → Marks
  | .empty => id
  | .literal cs => fun m => cs.foldl (fun m c => Marks.onward (· = c) text m) m
  | .set chars _ => Marks.onward chars.contains text
  | .assertion a => Marks.satisfying a none text
  | .repeated p least most _ => fun m =>
    let places := text.length + 1
    let more := match most with
      | none => places
      | some n => min (n - least) places
    Marks.after (fun m => m.union (reach text p m)) more
      (Marks.after (reach text p) (min least places) m)
  | .group _ p => reach text p
  | .both p q => fun m => reach text q (reach text p m)
  | .either p q => fun m => (reach text p m).union (reach text q m)

/-- Whether a match begins anywhere in the text. -/
def occursIn (p : Pattern) (text : List Char) : Bool :=
  (p.reach text (List.replicate (text.length + 1) true)).any id

def never : Pattern :=
  .set [] false

def ofSet (s : CharSet) (wide : Bool) : Pattern :=
  match s with
  | [] => never
  | [r] => if r.first = r.last then .literal [r.first] else .set s wide
  | _ => .set s wide

def onlyEmpty : Pattern → Bool
  | .empty | .assertion _ => true
  | .literal _ | .set _ _ => false
  | .repeated p _ most _ => most.isSome && p.onlyEmpty
  | .group _ p => p.onlyEmpty
  | .both p q | .either p q => p.onlyEmpty && q.onlyEmpty

/-- To repeat what is empty more than once adds nothing. -/
def times (p : Pattern) (least : Nat) (most : Option Nat) (greedy : Bool) : Pattern :=
  let (least, most) :=
    if p.onlyEmpty then (min least 1, some (min (most.getD 1) 1)) else (least, most)
  if least = 0 ∧ most = some 0 then .empty
  else if least = 1 ∧ most = some 1 then p
  else .repeated p least most greedy

def parts : Pattern → List Pattern
  | .empty => []
  | .both p q => p :: q.parts
  | p => [p]

/-- A part before others, as one with the first of them if both are literals. -/
def joinLiteral : Pattern → List Pattern → List Pattern
  | .literal s, .literal t :: ps => .literal (s ++ t) :: ps
  | p, ps => p :: ps

def ofParts : List Pattern → Pattern
  | [] => .empty
  | [p] => p
  | p :: ps => .both p (ofParts ps)

/-- No part of a row is empty or a row itself, and no two literals stand side by side. -/
def sequence (ps : List Pattern) : Pattern :=
  ofParts ((ps.flatMap parts).foldr joinLiteral [])

def alternatives : Pattern → List Pattern
  | .either p q => p :: q.alternatives
  | p => [p]

def ofAlternatives : List Pattern → Pattern
  | [] => never
  | [p] => p
  | p :: ps => .either p (ofAlternatives ps)

def singleChar? : Pattern → Option Char
  | .literal [c] => some c
  | _ => none

def charSet? : Pattern → Option CharSet
  | .set s _ => some s
  | _ => none

/-- The set that alternatives amount to if all are single characters, or all are sets. -/
def commonSet? (ps : List Pattern) : Option CharSet :=
  match ps.mapM singleChar? with
  | some cs => some (CharSet.ofChars cs)
  | none => (ps.mapM charSet?).map fun ss => ss.foldl CharSet.union []

def choiceOf (ps : List Pattern) : Pattern :=
  match ps with
  | [] => never
  | [p] => p
  | _ =>
    match commonSet? ps with
    | some s => ofSet s true
    | none => ofAlternatives ps

def commonStart : List Pattern → List Pattern → List Pattern
  | p :: ps, q :: qs => if p = q then p :: commonStart ps qs else []
  | _, _ => []

def isRow : Pattern → Bool
  | .both _ _ => true
  | _ => false

def sharedStart : List Pattern → List Pattern
  | [] | [_] => []
  | p :: ps =>
    if (p :: ps).all isRow then ps.foldl (fun start q => commonStart start q.parts) p.parts else []

/-- Rows that begin alike become one, with a choice of what follows. -/
def choice (ps : List Pattern) : Pattern :=
  let ps := ps.flatMap alternatives
  let start := sharedStart ps
  if start.isEmpty then choiceOf ps
  else
    let ends := ps.map fun p => sequence (p.parts.drop start.length)
    sequence (start ++ [choiceOf (ends.flatMap alternatives)])

end Pattern

end Bata
