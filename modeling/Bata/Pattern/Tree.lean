import Bata.Pattern
import Bata.Text.Basic

namespace Bata.Pattern

/-- What the letters of a group's flags turn on. -/
structure Flags where
  anyCase : Bool
  multiLine : Bool
  dotAll : Bool
  /-- Carriage returns end lines, too. -/
  returns : Bool
  /-- White space and remarks count for nothing. -/
  spaced : Bool
  /-- Repetitions are as short as they can be, and a question mark makes them long. -/
  short : Bool
  wide : Bool
  deriving DecidableEq, Repr

namespace Flags

def initial : Flags :=
  ⟨false, false, false, false, false, false, true⟩

def set? (on : Bool) (f : Flags) : Char → Option Flags
  | 'i' => some { f with anyCase := on }
  | 'm' => some { f with multiLine := on }
  | 's' => some { f with dotAll := on }
  | 'R' => some { f with returns := on }
  | 'x' => some { f with spaced := on }
  | 'U' => some { f with short := on }
  | 'u' => some { f with wide := on }
  | _ => none

def lineStart (f : Flags) : Assertion :=
  if f.multiLine then (if f.returns then .returnLineStart else .lineStart) else .textStart

def lineEnd (f : Flags) : Assertion :=
  if f.multiLine then (if f.returns then .returnLineEnd else .lineEnd) else .textEnd

end Flags

inductive Flaw where
  | setEscape
  | setRangeOrder
  | setRangeEnd
  | setUnclosed
  | countTooLarge
  | hexEmpty
  | hexNoCharacter
  | hexDigit
  | escapeAtEnd
  | escapeUnknown
  | flagDanglingNegation
  | flagDuplicate
  | flagRepeatedNegation
  | flagAtEnd
  | flagUnknown
  | groupNameDuplicate
  | groupNameEmpty
  | groupNameCharacter
  | groupNameUnclosed
  | groupUnclosed
  | groupUnopened
  | countOrder
  | countEmpty
  | countUnclosed
  | nothingToRepeat
  | wordBoundaryUnclosed
  | wordBoundaryUnknown
  | wordBoundaryAtEnd
  | propertyName
  | backreference
  | lookAround
  | nestedTooDeep
  | unicodeNotAllowed
  | bytesOutsideText
  | propertyUnknown
  | propertyValueUnknown
  | wideShortSet
  | wideAnyCase
  deriving DecidableEq, Repr

def Flaw.message : Flaw → String
  | .setEscape => "invalid escape sequence found in character class"
  | .setRangeOrder => "invalid character class range, the start must be <= the end"
  | .setRangeEnd => "invalid range boundary, must be a literal"
  | .setUnclosed => "unclosed character class"
  | .countTooLarge => "decimal literal invalid"
  | .hexEmpty => "hexadecimal literal empty"
  | .hexNoCharacter => "hexadecimal literal is not a Unicode scalar value"
  | .hexDigit => "invalid hexadecimal digit"
  | .escapeAtEnd => "incomplete escape sequence, reached end of pattern prematurely"
  | .escapeUnknown => "unrecognized escape sequence"
  | .flagDanglingNegation => "dangling flag negation operator"
  | .flagDuplicate => "duplicate flag"
  | .flagRepeatedNegation => "flag negation operator repeated"
  | .flagAtEnd => "expected flag but got end of regex"
  | .flagUnknown => "unrecognized flag"
  | .groupNameDuplicate => "duplicate capture group name"
  | .groupNameEmpty => "empty capture group name"
  | .groupNameCharacter => "invalid capture group character"
  | .groupNameUnclosed => "unclosed capture group name"
  | .groupUnclosed => "unclosed group"
  | .groupUnopened => "unopened group"
  | .countOrder => "invalid repetition count range, the start must be <= the end"
  | .countEmpty => "repetition quantifier expects a valid decimal"
  | .countUnclosed => "unclosed counted repetition"
  | .nothingToRepeat => "repetition operator missing expression"
  | .wordBoundaryUnclosed =>
    "special word boundary assertion is either unclosed or contains an invalid character"
  | .wordBoundaryUnknown =>
    "unrecognized special word boundary assertion, valid choices are: " ++
      "start, end, start-half or end-half"
  | .wordBoundaryAtEnd =>
    "found either the beginning of a special word boundary or a bounded repetition on a \\b " ++
      "with an opening brace, but no closing brace"
  | .propertyName => "invalid Unicode character class"
  | .backreference => "backreferences are not supported"
  | .lookAround => "look-around, including look-ahead and look-behind, is not supported"
  | .nestedTooDeep => "exceed the maximum number of nested parentheses/brackets (250)"
  | .unicodeNotAllowed => "Unicode not allowed here"
  | .bytesOutsideText => "pattern can match invalid UTF-8"
  | .propertyUnknown => "Unicode property not found"
  | .propertyValueUnknown => "Unicode property value not found"
  | .wideShortSet =>
    "Unicode-aware Perl class not found (make sure the unicode-perl feature is enabled)"
  | .wideAnyCase =>
    "Unicode-aware case insensitivity matching is not available " ++
      "(make sure the unicode-case feature is enabled)"

/-- A stretch of a pattern, between two places counted from zero. -/
structure Span where
  start : Nat
  stop : Nat
  deriving DecidableEq, Repr

structure Fault where
  flaw : Flaw
  span : Span
  earlier : Option Span
  deriving DecidableEq, Repr

namespace Span

def position (pattern : List Char) (place : Nat) : Nat × Nat :=
  let before := pattern.take place
  (before.count '\n', (before.reverse.takeWhile (· ≠ '\n')).length)

def onOneLine (pattern : List Char) (s : Span) : Bool :=
  (position pattern s.start).1 = (position pattern s.stop).1

def isOnLine (pattern : List Char) (line : Nat) (s : Span) : Bool :=
  s.onOneLine pattern && (position pattern s.start).1 = line

def carets (pattern : List Char) (spans : List Span) : List Char :=
  spans.foldl (fun row s =>
    row ++ List.replicate ((position pattern s.start).2 - row.length) ' ' ++
      List.replicate (max 1 (s.stop - s.start)) '^') []

def linesMessage (pattern : List Char) (s : Span) : String :=
  let (line, column) := position pattern s.start
  let (lastLine, lastColumn) := position pattern s.stop
  let number n := String.ofList (Text.decimal n)
  "on line " ++ number (line + 1) ++ " (column " ++ number (column + 1) ++ ") through line " ++
    number (lastLine + 1) ++ " (column " ++ number lastColumn ++ ")"

end Span

namespace Fault

def spans (f : Fault) : List Span :=
  f.earlier.toList ++ [f.span]

def rows (pattern : List Char) (label : Nat → List Char) (f : Fault) : List Char :=
  ((Text.lines pattern).zipIdx.flatMap fun (row, line) =>
    let marked := f.spans.filter (·.isOnLine pattern line)
    label line ++ row ++ ['\n'] ++
      if marked.isEmpty then []
      else List.replicate (label line).length ' ' ++ Span.carets pattern marked ++ ['\n'])

def numbered (pattern : List Char) (line : Nat) : List Char :=
  let width := (Text.decimal (pattern.count '\n' + 1)).length
  Text.padLeft width ' ' (Text.decimal (line + 1)) ++ [':', ' ']

/-- A pattern of several lines is shown between rulers, with its lines numbered. -/
def message (pattern : List Char) (f : Fault) : String :=
  let shown :=
    if '\n' ∈ pattern then
      let ruler := List.replicate 79 '~' ++ ['\n']
      let long := (f.spans.filter (!·.onOneLine pattern)).map (·.linesMessage pattern ++ "\n")
      String.ofList (ruler ++ f.rows pattern (numbered pattern) ++ ruler) ++ String.join long
    else String.ofList (f.rows pattern fun _ => List.replicate 4 ' ')
  "regex parse error:\n" ++ shown ++ "error: " ++ f.flaw.message

end Fault

structure Literal where
  char : Char
  span : Span
  /-- Written as two hexadecimal digits, it is a byte where not all of Unicode counts. -/
  isByte : Bool
  deriving DecidableEq, Repr

inductive ShortSet where
  | digit
  | space
  | word
  deriving DecidableEq, Repr

inductive Item where
  | literal (l : Literal)
  | short (s : ShortSet) (negated : Bool) (span : Span)
  | property (name : List Char) (span : Span)
  deriving DecidableEq, Repr

def Item.span : Item → Span
  | .literal l => l.span
  | .short _ _ span => span
  | .property _ span => span

inductive SetOperator where
  | intersection
  | difference
  | symmetricDifference
  deriving DecidableEq, Repr

inductive SetTree where
  | empty (place : Nat)
  | item (i : Item)
  | range (first last : Literal)
  | named (chars : CharSet) (negated : Bool) (span : Span)
  | brackets (negated : Bool) (body : SetTree) (span : Span)
  | union (items : List SetTree) (span : Span)
  | combined (o : SetOperator) (left right : SetTree) (span : Span)

inductive Tree where
  | empty
  | flags
  | item (f : Flags) (i : Item)
  | dot (f : Flags) (span : Span)
  | assertion (a : Assertion)
  | set (f : Flags) (s : SetTree)
  | repeated (body : Tree) (least : Nat) (most : Option Nat) (greedy : Bool) (span : Span)
  | group (number : Option Nat) (body : Tree) (span : Span)
  | sequence (parts : List Tree) (span : Span)
  | choice (alternatives : List Tree) (span : Span)

namespace SetTree

def span : SetTree → Span
  | .empty place => ⟨place, place⟩
  | .item i => i.span
  | .range first last => ⟨first.span.start, last.span.stop⟩
  | .named _ _ span | .brackets _ _ span | .union _ span | .combined _ _ _ span => span

mutual

/-- The first part that lies more than `room` levels deep. Brackets, several items side by side and
operators each make a level. -/
def tooDeep? (room : Nat) : SetTree → Option Span
  | .brackets _ body span => if room = 0 then some span else body.tooDeep? (room - 1)
  | .union items span => if room = 0 then some span else anyTooDeep? (room - 1) items
  | .combined _ left right span =>
    if room = 0 then some span
    else (left.tooDeep? (room - 1)).or (right.tooDeep? (room - 1))
  | _ => none

def anyTooDeep? (room : Nat) : List SetTree → Option Span
  | [] => none
  | s :: ss => (s.tooDeep? room).or (anyTooDeep? room ss)

end

end SetTree

namespace Tree

mutual

/-- The first part that lies more than `room` levels deep. Groups, sets, repetitions, sequences and
choices each make a level. -/
def tooDeep? (room : Nat) : Tree → Option Span
  | .set _ s => s.tooDeep? room
  | .repeated body _ _ _ span => if room = 0 then some span else body.tooDeep? (room - 1)
  | .group _ body span => if room = 0 then some span else body.tooDeep? (room - 1)
  | .sequence parts span => if room = 0 then some span else anyTooDeep? (room - 1) parts
  | .choice alternatives span =>
    if room = 0 then some span else anyTooDeep? (room - 1) alternatives
  | _ => none

def anyTooDeep? (room : Nat) : List Tree → Option Span
  | [] => none
  | t :: ts => (t.tooDeep? room).or (anyTooDeep? room ts)

end

end Tree

end Bata.Pattern
