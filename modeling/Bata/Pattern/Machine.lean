import Bata.Pattern
import Std.Data.HashMap

namespace Bata

structure ByteRange where
  first : Nat
  last : Nat
  deriving DecidableEq, Repr

namespace ByteRange

def onward : ByteRange :=
  ⟨0x80, 0xBF⟩

def anyOnward (bytes : List Nat) : List ByteRange :=
  bytes.map fun _ => onward

def onwardFrom : List Nat → List (List ByteRange)
  | [] => [[]]
  | a :: as =>
    if as.all (· = onward.first) then [⟨a, onward.last⟩ :: anyOnward as]
    else
      (onwardFrom as).map (⟨a, a⟩ :: ·) ++
        if a < onward.last then [⟨a + 1, onward.last⟩ :: anyOnward as] else []

def onwardTo : List Nat → List (List ByteRange)
  | [] => [[]]
  | b :: bs =>
    if bs.all (· = onward.last) then [⟨onward.first, b⟩ :: anyOnward bs]
    else
      (if onward.first < b then [⟨onward.first, b - 1⟩ :: anyOnward bs] else []) ++
        (onwardTo bs).map (⟨b, b⟩ :: ·)

/-- From one character to another of as many bytes. First bytes that leave nothing out go together,
the outer ones stand apart where something is missing. -/
def sequences : List Nat → List Nat → List (List ByteRange)
  | a :: as, b :: bs =>
    if a = b then (sequences as bs).map (⟨a, a⟩ :: ·)
    else
      let low := if as.all (· = onward.first) then [] else (onwardFrom as).map (⟨a, a⟩ :: ·)
      let high := if bs.all (· = onward.last) then [] else (onwardTo bs).map (⟨b, b⟩ :: ·)
      let first := if low.isEmpty then a else a + 1
      let last := if high.isEmpty then b else b - 1
      low ++ (if first ≤ last then [⟨first, last⟩ :: anyOnward as] else []) ++ high
  | _, _ => [[]]

end ByteRange

namespace CharRange

def blocks : List CharRange :=
  [⟨'\x00', '\x7f'⟩, ⟨Char.ofNat 0x80, Char.ofNat 0x7FF⟩, ⟨Char.ofNat 0x800, Char.ofNat 0xD7FF⟩,
    ⟨Char.ofNat 0xE000, Char.ofNat 0xFFFF⟩, ⟨Char.ofNat 0x10000, lastChar⟩]

end CharRange

def utf8Bytes (c : Char) : List Nat :=
  (String.utf8EncodeChar c).map UInt8.toNat

def CharSet.byteSequences (s : CharSet) : List (List ByteRange) :=
  (s.inter CharRange.blocks).flatMap fun r =>
    ByteRange.sequences (utf8Bytes r.first) (utf8Bytes r.last)

namespace Pattern

/-- A search to the right keeps where groups begin and end; the one that goes back from the end of a
match does not. -/
inductive Direction where
  | right
  | left
  deriving DecidableEq, Repr

/-- A machine, as far as it has been built. States are numbered in the order they are added. -/
structure Machine where
  states : Nat
  beyond : Nat
  deriving DecidableEq, Repr

namespace Machine

def size (m : Machine) : Nat :=
  32 * m.states + m.beyond

/-- How large a machine may be, in bytes. -/
def largest : Nat :=
  10485760

end Machine

/-- Building stops once the machine is too large. -/
abbrev Build := StateT Machine Option

namespace Build

def check (m : Machine) : Option (Unit × Machine) :=
  if m.size ≤ Machine.largest then some ((), m) else none

def addMany (states : Nat) : Build Unit :=
  fun m => check { m with states := m.states + states }

/-- Adds a state that takes some bytes beyond its room, and gives its number. -/
def add (beyond : Nat) : Build Nat := do
  let m ← get
  let _ ← fun m => check ⟨m.states + 1, m.beyond + beyond⟩
  return m.states

def one : Build Unit :=
  addMany 1

def fork : Build Unit := do
  let _ ← add 8

def branch : Build Unit :=
  fun m => check { m with beyond := m.beyond + 4 }

def table (ranges : Nat) : Build Unit := do
  let _ ← add (8 * ranges)

def times (step : Build Unit) : Nat → Build Unit
  | 0 => return ()
  | n + 1 => do
    step
    times step n

end Build

/-- The states that can be found again. Each is kept in a slot, from which it drives out another. -/
structure Memory where
  slots : Nat
  held : Std.HashMap Nat (List Nat × Nat)

namespace Memory

def blank (slots : Nat) : Memory :=
  ⟨slots, ∅⟩

def mix (h : UInt64) (n : Nat) : UInt64 :=
  (h ^^^ n.toUInt64) * 1099511628211

def slot (m : Memory) (key : List Nat) : Nat :=
  (key.foldl mix 14695981039346656037).toNat % m.slots

def find? (m : Memory) (key : List Nat) : Option Nat :=
  match m.held[m.slot key]? with
  | some (k, state) => if k = key then some state else none
  | none => none

def keep (m : Memory) (key : List Nat) (state : Nat) : Memory :=
  { m with held := m.held.insert (m.slot key) (key, state) }

end Memory

namespace Build

/-- The state that goes by a description, added where it is not found. -/
def sharedState (key : List Nat) (beyond : Nat) : StateT Memory Build Nat := do
  match (← get).find? key with
  | some state => return state
  | none =>
    let state ← add beyond
    modify (·.keep key state)
    return state

/-- What follows each of the ranges that sequences begin with. They are in ascending order, so that
those that begin alike are neighbours. -/
def nextOf (sequences : List (List ByteRange)) : List (ByteRange × List (List ByteRange)) :=
  (sequences.splitBy fun q r => q.head? = r.head?).filterMap fun
    | (r :: q) :: more => some (r, q :: more.map List.tail)
    | _ => none

/-- The state from which sequences of at most `depth` ranges lead to the end. Those that begin alike
or go on alike share states. -/
def stateFor (finish : Nat) : Nat → List (List ByteRange) → StateT Memory Build Nat
  | 0, _ => return finish
  | depth + 1, sequences =>
    if sequences = [[]] then return finish
    else do
      let steps ← (nextOf sequences).mapM fun step => do
        let state ← stateFor finish depth step.2
        return [step.1.first, step.1.last, state]
      sharedState steps.flatten (8 * steps.length)

/-- No character has more than four bytes. -/
def setToRight (s : CharSet) : Build Unit := do
  let finish ← add 0
  let _ ← (stateFor finish 4 s.byteSequences).run (.blank 10000)

/-- Going left, a sequence leads from its last range to the end, and shares states with those that
begin alike. -/
def chainTo (finish : Nat) (sequence : List ByteRange) : StateT Memory Build Unit := do
  let _ ← sequence.foldlM (fun state (r : ByteRange) => sharedState [state, r.first, r.last] 0)
    finish
  branch

def setToLeft (s : CharSet) : Build Unit := do
  one
  let finish ← add 0
  let _ ← (s.byteSequences.forM (chainTo finish)).run (.blank 1000)

def set (d : Direction) (s : CharSet) : Build Unit := do
  if s.isAscii then
    one
    table s.length
  else match d with
    | .right => setToRight s
    | .left => setToLeft s

/-- Several ends before any other word count as one. -/
def mergeEnds : List (List Nat) → List (List Nat)
  | [] :: words => [] :: words.dropWhile List.isEmpty
  | words => words

/-- A tree of words, which may be no longer than `depth`. The words stay in order: one that ends
parts those before it from those after it. -/
def tree : Nat → List (List Nat) → Build Unit
  | 0, _ => return ()
  | depth + 1, words =>
    if words.all List.isEmpty then return ()
    else do
      let words := mergeEnds words
      one
      (words.filter List.isEmpty).forM fun _ => branch
      (words.splitOn []).forM fun ws => do
        let firsts := (ws.filterMap List.head?).eraseDups
        if !firsts.isEmpty then
          branch
          if firsts.length = 1 then one else table firsts.length
          firsts.forM fun b => tree depth (ws.filterMap fun
            | c :: rest => if c = b then some rest else none
            | [] => none)

end Build

def bytes (text : List Char) : List Nat :=
  text.flatMap utf8Bytes

def words? : Pattern → Option (List (List Nat))
  | .either (.literal s) (.literal t) => some [bytes s, bytes t]
  | .either (.literal s) q => q.words?.map (bytes s :: ·)
  | _ => none

def buildWords (d : Direction) (words : List (List Nat)) : Build Unit := do
  let words := match d with
    | .right => words
    | .left => words.map List.reverse
  Build.one
  Build.tree ((words.map List.length).foldl max 0) words

/-- The least number of bytes that it matches, where it matches any. -/
def shortest? : Pattern → Option Nat
  | .empty | .assertion _ => some 0
  | .literal text => some (bytes text).length
  | .set s _ => s.head?.map (·.first.utf8Size)
  | .repeated p least _ _ => p.shortest?.map (least * ·)
  | .group _ p => p.shortest?
  | .both p q => do return (← p.shortest?) + (← q.shortest?)
  | .either p q => do return min (← p.shortest?) (← q.shortest?)

def buildRepeated (step : Build Unit) (canBeEmpty : Bool) : Nat → Option Nat → Build Unit
  | 0, some 1 => do
    Build.fork
    step
    Build.one
  | 0, none =>
    if canBeEmpty then do
      step
      Build.fork
      Build.fork
      Build.one
    else do
      Build.fork
      step
  | least, none => do
    Build.times step least
    Build.fork
  | least, some most => do
    if least = 0 then Build.one else Build.times step least
    if least < most then
      Build.one
      Build.times (do Build.fork; step) (most - least)

inductive Role where
  | whole
  | secondAlternative
  | laterAlternative
  deriving DecidableEq, Repr

/-- Joins an alternative to those before it. The second comes with the fork and the end of all. -/
def join : Role → Build Unit
  | .whole => return ()
  | .secondAlternative => do
    Build.fork
    Build.one
  | .laterAlternative => Build.branch

/-- What comes first is built first, as seen in the direction. -/
def buildAs (d : Direction) (role : Role) : Pattern → Build Unit
  | .either p q =>
    if role = .whole then
      match (Pattern.either p q).words? with
      | some words => buildWords d words
      | none => do
        p.buildAs d .whole
        q.buildAs d .secondAlternative
    else do
      p.buildAs d .whole
      join role
      q.buildAs d .laterAlternative
  | .empty | .assertion _ => do
    Build.one
    join role
  | .literal text => do
    Build.addMany (bytes text).length
    join role
  | .set s _ => do
    Build.set d s
    join role
  | .repeated p least most _ => do
    buildRepeated (p.buildAs d .whole) (p.shortest?.all (· = 0)) least most
    join role
  | .group _ p => do
    match d with
    | .right =>
      Build.one
      p.buildAs d .whole
      Build.one
    | .left => p.buildAs d .whole
    join role
  | .both p q => do
    match d with
    | .right =>
      p.buildAs d .whole
      q.buildAs d .whole
    | .left =>
      q.buildAs d .whole
      p.buildAs d .whole
    join role

def fromStart : Pattern → Bool
  | .assertion a => a = .textStart
  | .repeated p least _ _ => 0 < least && p.fromStart
  | .group _ p => p.fromStart
  | .both p q => p.fromStart || (p.onlyEmpty && q.fromStart)
  | .either p q => p.fromStart && q.fromStart
  | _ => false

def toEnd : Pattern → Bool
  | .assertion a => a = .textEnd
  | .repeated p least _ _ => 0 < least && p.toEnd
  | .group _ p => p.toEnd
  | .both p q => q.toEnd || (q.onlyEmpty && p.toEnd)
  | .either p q => p.toEnd && q.toEnd
  | _ => false

/-- The whole machine. A search that may begin anywhere skips bytes first. -/
def build (d : Direction) (p : Pattern) : Build Unit := do
  if (match d with | .right => p.fromStart | .left => p.toEnd) then Build.one
  else
    Build.fork
    Build.one
    Build.table 1
  match d with
  | .right =>
    Build.one
    p.buildAs d .whole
    Build.addMany 2
  | .left =>
    p.buildAs d .whole
    Build.one

def machine? (d : Direction) (p : Pattern) : Option Machine :=
  ((p.build d).run ⟨0, 0⟩).map (·.2)

end Pattern

end Bata
