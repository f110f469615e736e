import Bata.Decimal
import Bata.Text.Basic
import Bata.Text.Quoted

namespace Bata

inductive Json.Number where
  | integer (value : Int)
  /-- `digits · 10 ^ exponent`, written with a point, an exponent or as negative zero. -/
  | decimal (negative : Bool) (digits : Nat) (exponent : Int)
  deriving DecidableEq, Repr

inductive Json where
  | null
  | bool (value : Bool)
  | number (value : Json.Number)
  | string (value : String)
  | array (items : List Json)
  | object (members : List (String × Json))
  deriving Repr

namespace Json

/-- Puts a member in the order of the names; of two members of one name the later counts. -/
def insertMember (member : String × Json) : List (String × Json) → List (String × Json)
  | [] => [member]
  | m :: ms =>
    if member.1 < m.1 then member :: m :: ms
    else if member.1 = m.1 then member :: ms
    else m :: insertMember member ms

def sortedMembers (members : List (String × Json)) : List (String × Json) :=
  members.foldl (fun sorted m => insertMember m sorted) []

def member? (members : List (String × Json)) (name : String) : Option Json :=
  (members.reverse.find? (·.1 = name)).map (·.2)

/-- From `1e-5` up to below `1e16` a number is written with a point. -/
def pointLayout : Decimal.Layout :=
  ⟨-5, 15, ['+']⟩

def floatingName (negative : Bool) (digits : Nat) (exponent : Int) : String :=
  let x := Decimal.toDouble digits exponent
  "floating point \x60" ++
    String.ofList (Decimal.doubleChars pointLayout (if negative then -x else x)) ++ "\x60"

/-- An integer that fits neither a signed nor an unsigned word of 64 bits counts as a double. -/
def Number.kindName : Number → String
  | .integer value =>
    if -Int.ofNat (Nat.pow 2 63) ≤ value ∧ value < Int.ofNat UInt64.size then
      "integer \x60" ++ toString value ++ "\x60"
    else floatingName (value < 0) value.natAbs 0
  | .decimal negative digits exponent => floatingName negative digits exponent

def kindName : Json → String
  | .null => "null"
  | .bool value => "boolean \x60" ++ (if value then "true" else "false") ++ "\x60"
  | .number value => value.kindName
  | .string value => "string " ++ Text.quoteText Text.isHidden value
  | .array _ => "sequence"
  | .object _ => "map"

def skipSpace (cs : List Char) : List Char :=
  cs.dropWhile fun c => c = ' ' || c = '\n' || c = '\r' || c = '\t'

def unescape? : Char → Option Char
  | '"' => some '"'
  | '\\' => some '\\'
  | '/' => some '/'
  | 'b' => some '\x08'
  | 'f' => some '\x0c'
  | 'n' => some '\n'
  | 'r' => some '\r'
  | 't' => some '\t'
  | _ => none

def isHighSurrogate (n : Nat) : Bool :=
  0xD800 ≤ n && n < 0xDC00

def isLowSurrogate (n : Nat) : Bool :=
  0xDC00 ≤ n && n < 0xE000

def ofSurrogates (high low : Nat) : Char :=
  Char.ofNat (0x10000 + (high - 0xD800) * 0x400 + (low - 0xDC00))

def consChar (c : Char) : Option (List Char × List Char) → Option (List Char × List Char) :=
  Option.map fun (s, rest) => (c :: s, rest)

/-- A string after its opening quote, where `high?` is a surrogate that waits for its partner. -/
def readStringBody (high? : Option Nat) : List Char → Option (List Char × List Char)
  | [] => none
  | '"' :: rest => if high?.isNone then some ([], rest) else none
  | '\\' :: 'u' :: a :: b :: c :: d :: rest =>
    match Text.ofHexadecimal? [a, b, c, d], high? with
    | none, _ => none
    | some n, none =>
      if isHighSurrogate n then readStringBody (some n) rest
      else if isLowSurrogate n then none
      else consChar (Char.ofNat n) (readStringBody none rest)
    | some n, some high =>
      if isLowSurrogate n then consChar (ofSurrogates high n) (readStringBody none rest) else none
  | '\\' :: e :: rest =>
    match unescape? e, high? with
    | some c, none => consChar c (readStringBody none rest)
    | _, _ => none
  | c :: rest =>
    if high?.isNone && ' ' ≤ c && c ≠ '\\' then consChar c (readStringBody none rest) else none

def readString (cs : List Char) : Option (String × List Char) :=
  (readStringBody none cs).map fun (s, rest) => (String.ofList s, rest)

def readDigits (cs : List Char) : Option (List Char × List Char) :=
  match cs.takeWhile Char.isDigit with
  | [] => none
  | ds => some (ds, cs.dropWhile Char.isDigit)

def readFraction : List Char → Option (List Char × List Char)
  | '.' :: cs => readDigits cs
  | cs => some ([], cs)

def readExponentDigits (sign : Int) (cs : List Char) : Option (Option Int × List Char) :=
  (readDigits cs).map fun (ds, rest) => (some (sign * Text.ofDecimal ds), rest)

def readExponent : List Char → Option (Option Int × List Char)
  | c :: cs =>
    if c = 'e' || c = 'E' then
      match cs with
      | '+' :: rest => readExponentDigits 1 rest
      | '-' :: rest => readExponentDigits (-1) rest
      | rest => readExponentDigits 1 rest
    else some (none, c :: cs)
  | [] => some (none, [])

/-- Without a point and an exponent a number is an integer, unless it is negative zero. -/
def Number.ofParts (negative : Bool) (whole fraction : List Char) (exponent? : Option Int) :
    Number :=
  let digits := Text.ofDecimal (whole ++ fraction)
  if fraction.isEmpty && exponent?.isNone && !(negative && digits = 0) then
    .integer (if negative then -digits else digits)
  else .decimal negative digits (exponent?.getD 0 - fraction.length)

def readUnsigned (negative : Bool) (cs : List Char) : Option (Number × List Char) := do
  let (whole, cs) ← readDigits cs
  if whole.head? = some '0' ∧ whole.length ≠ 1 then none
  let (fraction, cs) ← readFraction cs
  let (exponent?, cs) ← readExponent cs
  some (.ofParts negative whole fraction exponent?, cs)

def readNumber : List Char → Option (Number × List Char)
  | '-' :: cs => readUnsigned true cs
  | cs => readUnsigned false cs

mutual

def readValue : Nat → List Char → Option (Json × List Char)
  | 0, _ => none
  | fuel + 1, cs =>
    match skipSpace cs with
    | 'n' :: 'u' :: 'l' :: 'l' :: rest => some (.null, rest)
    | 't' :: 'r' :: 'u' :: 'e' :: rest => some (.bool true, rest)
    | 'f' :: 'a' :: 'l' :: 's' :: 'e' :: rest => some (.bool false, rest)
    | '"' :: rest => (readString rest).map fun (s, rest) => (.string s, rest)
    | '[' :: rest =>
      match skipSpace rest with
      | ']' :: rest => some (.array [], rest)
      | rest => (readItems fuel rest).map fun (vs, rest) => (.array vs, rest)
    | '\x7b' :: rest =>
      match skipSpace rest with
      | '\x7d' :: rest => some (.object [], rest)
      | rest => (readMembers fuel rest).map fun (ms, rest) => (.object ms, rest)
    | cs => (readNumber cs).map fun (n, rest) => (.number n, rest)

def readItems : Nat → List Char → Option (List Json × List Char)
  | 0, _ => none
  | fuel + 1, cs =>
    match readValue fuel cs with
    | none => none
    | some (v, rest) =>
      match skipSpace rest with
      | ',' :: rest => (readItems fuel rest).map fun (vs, rest) => (v :: vs, rest)
      | ']' :: rest => some ([v], rest)
      | _ => none

def readMembers : Nat → List Char → Option (List (String × Json) × List Char)
  | 0, _ => none
  | fuel + 1, cs =>
    match skipSpace cs with
    | '"' :: rest =>
      match readString rest with
      | none => none
      | some (name, rest) =>
        match skipSpace rest with
        | ':' :: rest =>
          match readValue fuel rest with
          | none => none
          | some (v, rest) =>
            match skipSpace rest with
            | ',' :: rest => (readMembers fuel rest).map fun (ms, rest) => ((name, v) :: ms, rest)
            | '\x7d' :: rest => some ([(name, v)], rest)
            | _ => none
        | _ => none
    | _ => none

end

/-- The value that the whole text is, with space around it. Each value and each bracket takes a
character, which bounds the depth of reading. -/
def read? (text : String) : Option Json :=
  match readValue (2 * text.length + 2) text.toList with
  | some (v, rest) => if (skipSpace rest).isEmpty then some v else none
  | none => none

inductive Layout where
  | compact
  | indented (width : Nat)
  deriving DecidableEq, Repr

namespace Layout

def lineBreak (depth : Nat) : Layout → List Char
  | .compact => []
  | .indented width => '\n' :: List.replicate (width * depth) ' '

def colon : Layout → List Char
  | .compact => [':']
  | .indented _ => [':', ' ']

def bracketed (l : Layout) (depth : Nat) (first last : Char) (items : List (List Char)) :
    List Char :=
  if items.isEmpty then [first, last]
  else first :: [','].intercalate (items.map (l.lineBreak (depth + 1) ++ ·)) ++
    l.lineBreak depth ++ [last]

end Layout

def escapeChar (c : Char) : List Char :=
  if c = '"' then ['\\', '"']
  else if c = '\\' then ['\\', '\\']
  else if c = '\x08' then ['\\', 'b']
  else if c = '\x0c' then ['\\', 'f']
  else if c = '\n' then ['\\', 'n']
  else if c = '\r' then ['\\', 'r']
  else if c = '\t' then ['\\', 't']
  else if c < ' ' then ['\\', 'u'] ++ Text.padLeft 4 '0' (Text.hexadecimal c.toNat)
  else [c]

def stringChars (s : String) : List Char :=
  '"' :: s.toList.flatMap escapeChar ++ ['"']

def integerChars (n : Int) : List Char :=
  if n < 0 then '-' :: Text.decimal n.natAbs else Text.decimal n.natAbs

def Number.chars : Number → List Char
  | .integer value => integerChars value
  | .decimal negative digits exponent =>
    (if negative then ['-'] else []) ++ Text.decimal digits ++ 'e' :: integerChars exponent

mutual

def chars (l : Layout) (depth : Nat) : Json → List Char
  | .null => "null".toList
  | .bool value => (if value then "true" else "false").toList
  | .number value => value.chars
  | .string value => stringChars value
  | .array items => l.bracketed depth '[' ']' (itemChars l (depth + 1) items)
  | .object members => l.bracketed depth '\x7b' '\x7d' (memberChars l (depth + 1) members)

def itemChars (l : Layout) (depth : Nat) : List Json → List (List Char)
  | [] => []
  | v :: vs => v.chars l depth :: itemChars l depth vs

def memberChars (l : Layout) (depth : Nat) : List (String × Json) → List (List Char)
  | [] => []
  | (name, v) :: ms => (stringChars name ++ l.colon ++ v.chars l depth) :: memberChars l depth ms

end

def write (l : Layout) (v : Json) : String :=
  String.ofList (v.chars l 0)

end Json

end Bata
