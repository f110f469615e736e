import Bata.Json
import Bata.Toque

namespace Bata

inductive Shape where
  | toque
  | string
  | map
  deriving DecidableEq, Repr

def Shape.name : Shape → String
  | .toque => "struct ToqueSpec"
  | .string => "a string"
  | .map => "a map"

inductive LoadError where
  | wrongKind (found : Json) (expected : Shape)
  | unknownDrum (name : String)
  | missing (member : String)
  | tooShort (length : Nat)
  | tooLong (length : Nat)
  deriving Repr

namespace LoadError

def ticked (s : String) : String :=
  "\x60" ++ s ++ "\x60"

def message : LoadError → String
  | .wrongKind found expected =>
    "invalid type: " ++ found.kindName ++ ", expected " ++ expected.name
  | .unknownDrum name =>
    "unknown variant " ++ ticked name ++ ", expected one of " ++
      ", ".intercalate (Drum.all.map (ticked ·.name))
  | .missing member => "missing field " ++ ticked member
  | .tooShort length =>
    "invalid length " ++ String.ofList (Text.decimal length) ++ ", expected " ++
      Shape.toque.name ++ " with 3 elements"
  | .tooLong length =>
    "invalid length " ++ String.ofList (Text.decimal length) ++
      ", expected fewer elements in array"

end LoadError

namespace Toque

def partsToJson (p : Parts) : Json :=
  .object (p.toList.map fun (d, part) => (d.name, .string part))

def toJson (t : Toque) : Json :=
  .object [("name", .string t.name), ("time_signature", .string t.timeSignature),
    ("parts", partsToJson t.parts)]

def toJsonText (t : Toque) : String :=
  t.toJson.write (.indented 2)

def loadString : Json → Except LoadError String
  | .string s => .ok s
  | v => .error (.wrongKind v .string)

def loadPart (p : Parts) (member : String × Json) : Except LoadError Parts :=
  match Drum.ofName? member.1 with
  | none => .error (.unknownDrum member.1)
  | some d => (loadString member.2).map (p.insert d)

/-- Drums that are not named have no entry. -/
def loadParts : Json → Except LoadError Parts
  | .object members => (Json.sortedMembers members).foldlM loadPart .empty
  | v => .error (.wrongKind v .map)

structure Draft where
  name : Option String
  timeSignature : Option String
  parts : Option Parts

/-- Other members are ignored. -/
def Draft.add (d : Draft) (member : String × Json) : Except LoadError Draft :=
  if member.1 = "name" then
    (loadString member.2).map fun s => { d with name := some s }
  else if member.1 = "time_signature" then
    (loadString member.2).map fun s => { d with timeSignature := some s }
  else if member.1 = "parts" then
    (loadParts member.2).map fun p => { d with parts := some p }
  else .ok d

def Draft.finish : Draft → Except LoadError Toque
  | ⟨some name, some timeSignature, some parts⟩ => .ok ⟨name, timeSignature, parts⟩
  | ⟨none, _, _⟩ => .error (.missing "name")
  | ⟨_, none, _⟩ => .error (.missing "time_signature")
  | ⟨_, _, none⟩ => .error (.missing "parts")

/-- An array holds name, signature and parts, and the first wrong item is reported before a wrong
length. -/
def loadItems : List Json → Except LoadError Toque
  | [] => .error (.tooShort 0)
  | [name] => do
    let _ ← loadString name
    .error (.tooShort 1)
  | [name, timeSignature] => do
    let _ ← loadString name
    let _ ← loadString timeSignature
    .error (.tooShort 2)
  | name :: timeSignature :: parts :: more => do
    let t : Toque := ⟨← loadString name, ← loadString timeSignature, ← loadParts parts⟩
    if more.isEmpty then .ok t else .error (.tooLong (3 + more.length))

/-- Members are met in the order of their names. -/
def ofJson : Json → Except LoadError Toque
  | .object members => do
    let d ← (Json.sortedMembers members).foldlM Draft.add ⟨none, none, none⟩
    d.finish
  | .array items => loadItems items
  | v => .error (.wrongKind v .toque)

def ofJsonText? (text : String) : Option Toque :=
  (Json.read? text).bind fun v => (ofJson v).toOption

end Toque

end Bata
