namespace Bata.Text

inductive ControlState where
  | ground
  | escape
  /-- In an escape sequence of more than one character. -/
  | intermediate
  | parameters
  /-- In a command to the operating system, which a bell ends. -/
  | command
  | deviceStart
  | deviceParameters
  | deviceIntermediate
  /-- In a string for a device or another program. -/
  | string
  deriving DecidableEq, Repr

namespace ControlState

def between (lo hi : Char) (c : Char) : Bool :=
  lo ≤ c && c ≤ hi

/-- Bytes are what a device reads, and for it `9C` ends a string, also inside of a character. -/
def endsString (c : Char) : Bool :=
  '\x7f' < c && (0x9C : UInt8) ∈ String.utf8EncodeChar c

def afterEscape (c : Char) : ControlState :=
  if c = '[' then .parameters
  else if c = ']' then .command
  else if c = 'P' then .deviceStart
  else if c = 'X' || c = '^' || c = '_' then .string
  else if between ' ' '/' c then .intermediate
  else if between '0' '~' c then .ground
  else .escape

def next (state : ControlState) (c : Char) : ControlState :=
  if c = '\x1b' then .escape
  else if c = '\x18' || c = '\x1a' then .ground
  else
    match state with
    | .ground => .ground
    | .escape => afterEscape c
    | .intermediate => if between '0' '~' c then .ground else .intermediate
    | .parameters => if between '@' '~' c then .ground else .parameters
    | .command => if c = '\x07' then .ground else .command
    | .deviceStart =>
      if between ' ' '/' c then .deviceIntermediate
      else if between '0' '?' c then .deviceParameters
      else if between '@' '~' c then .string
      else .deviceStart
    | .deviceParameters =>
      if between ' ' '/' c then .deviceIntermediate
      else if between '<' '~' c then .string
      else .deviceParameters
    | .deviceIntermediate => if between '0' '~' c then .string else .deviceIntermediate
    | .string => if endsString c then .ground else .string

def isSpace (c : Char) : Bool :=
  c = '\t' || c = '\n' || c = '\x0c' || c = '\r'

/-- Outside of sequences all but control characters is kept, and white space wherever it does
something. -/
def keeps (state : ControlState) (c : Char) : Bool :=
  match state with
  | .ground => isSpace c || (' ' ≤ c && c ≠ '\x7f')
  | .escape | .intermediate | .parameters => isSpace c
  | _ => false

end ControlState

/-- A character that is kept opens a run, in which the text counts as outside of sequences. What is
not kept ends the run, and a sequence that the run stands in goes on there, unless a character
beyond ASCII has ended it. -/
def plainFrom (state : ControlState) (run : Bool) : List Char → List Char
  | [] => []
  | c :: cs =>
    if (if run then ControlState.ground else state).keeps c then
      c :: plainFrom (if c ≤ '\x7f' then state else .ground) true cs
    else plainFrom (state.next c) false cs

def plain (s : String) : String :=
  String.ofList (plainFrom .ground false s.toList)

end Bata.Text
