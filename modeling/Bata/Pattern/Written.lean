import Bata.Pattern.Machine
import Bata.Pattern.Meaning
import Bata.Pattern.Reading

namespace Bata.Pattern

/-- The bytes that some matches begin with. -/
structure Word where
  bytes : List Nat
  whole : Bool
  deriving DecidableEq, Repr

/-- What all matches begin with, the preferred ones first; `none` where that is not known. -/
abbrev Words := Option (List Word)

namespace Word

def opened (w : Word) : Word :=
  { w with whole := false }

def cut (length : Nat) (w : Word) : Word :=
  if length < w.bytes.length then ⟨w.bytes.take length, false⟩ else w

def append (w v : Word) : Word :=
  if w.whole then ⟨w.bytes ++ v.bytes, v.whole⟩ else w

/-- Equal neighbours become one, which is whole if both are. -/
def mergeInto (w : Word) : List Word → List Word
  | [] => [w]
  | v :: ws =>
    if w.bytes = v.bytes then { w with whole := w.whole && v.whole } :: ws else w :: v :: ws

def merge (ws : List Word) : List Word :=
  ws.foldr mergeInto []

/-- Without those that begin with an earlier one. -/
def preferred (ws : List Word) : List Word :=
  (ws.foldl (fun kept w =>
    if kept.any (·.bytes.isPrefixOf w.bytes) then kept else w :: kept) []).reverse

def shortest? (ws : List Word) : Option Nat :=
  (ws.map (·.bytes.length)).min?

def commonBytes : List Nat → List Nat → List Nat
  | b :: bs, c :: cs => if b = c then b :: commonBytes bs cs else []
  | _, _ => []

def common : List Word → List Nat
  | [] => []
  | w :: ws => ws.foldl (fun start v => commonBytes start v.bytes) w.bytes

end Word

namespace Words

/-- How many words are kept, how long they may be, and how many characters of a set or rounds of a
repetition are followed. -/
def mostWords : Nat := 250

def longestWord : Nat := 100

def mostSteps : Nat := 10

def nothing : Words :=
  some [⟨[], true⟩]

def openAll (ws : Words) : Words :=
  ws.map fun ws => ws.map Word.opened

/-- No word is whole, so that nothing that follows matters. -/
def isOpen (ws : Words) : Bool :=
  ws.all fun ws => ws.all (!·.whole)

def append (ws vs : Words) : Words :=
  let product := do
    let ws ← ws
    let vs ← vs
    if ws.length * vs.length ≤ mostWords then
      some (Word.merge (ws.flatMap fun (w : Word) => if w.whole then vs.map w.append else [w]))
    else none
  match ws, product with
  | none, _ => none
  | some _, some product => some (product.map (Word.cut longestWord))
  | some ws, none =>
    if Word.shortest? ws = some 0 then none
    else some (ws.map fun w => (Word.opened w).cut longestWord)

/-- What matches of either of two patterns begin with. If they are too many, shorter ones may do. -/
def union (ws vs : Words) : Words := do
  let ws ← ws
  let vs ← vs
  if ws.length + vs.length ≤ mostWords then return Word.merge (ws ++ vs)
  let ws := Word.merge (ws.map (Word.cut 4))
  let vs := Word.merge (vs.map (Word.cut 4))
  if ws.length + vs.length ≤ mostWords then return Word.merge (ws ++ vs)
  none

def times (ws : Words) (start : Words) : Nat → Words
  | 0 => start
  | n + 1 => if start.isOpen then start else times ws (start.append ws) n

def charsOf (r : CharRange) : List Char :=
  ((List.range (r.last.toNat + 1 - r.first.toNat)).map (r.first.toNat + ·)).filterMap fun n =>
    if n.isValidChar then some (Char.ofNat n) else none

def ofSet (s : CharSet) : Words :=
  if (s.map fun r => r.last.toNat + 1 - r.first.toNat).foldr (· + ·) 0 ≤ mostSteps then
    some ((s.flatMap charsOf).map fun c => ⟨utf8Bytes c, true⟩)
  else none

def ofRepeated (ws : Words) (least : Nat) (most : Option Nat) (greedy : Bool) : Words :=
  if least = 0 then
    let ws := if most = some 1 then ws else ws.openAll
    if greedy then ws.union nothing else nothing.union ws
  else
    let rounds := ws.times nothing (min least mostSteps)
    if most = some least ∧ least ≤ mostSteps then rounds else rounds.openAll

end Words

inductive Before where
  | nothing
  | row (ws : Words)
  | choice (ws : Words)

def Before.join (own : Words) : Before → Words
  | .nothing => own
  | .row ws => if ws.isOpen then ws else ws.append own
  | .choice ws => ws.union own

/-- What matches begin with, together with what comes before. Groups and assertions are not looked
into. -/
def wordsAfter (before : Before) : Pattern → Words
  | .both p q =>
    match before with
    | .row _ => q.wordsAfter (.row (p.wordsAfter before))
    | _ => before.join (q.wordsAfter (.row (p.wordsAfter (.row Words.nothing))))
  | .either p q =>
    match before with
    | .choice _ => q.wordsAfter (.choice (p.wordsAfter before))
    | _ => before.join (q.wordsAfter (.choice (p.wordsAfter (.choice (some [])))))
  | .empty => before.join Words.nothing
  | .assertion _ | .group _ _ => before.join none
  | .literal text => before.join (some [Word.cut Words.longestWord ⟨bytes text, true⟩])
  | .set s _ => before.join (Words.ofSet s)
  | .repeated p least most greedy =>
    before.join (Words.ofRepeated (p.wordsAfter .nothing) least most greedy)

def isPlain : Pattern → Bool
  | .assertion _ | .group _ _ => false
  | .repeated p _ _ _ => p.isPlain
  | .both p q | .either p q => p.isPlain && q.isPlain
  | _ => true

namespace Word

/-- The ASCII characters that are so frequent that a search should not rest on one of them. -/
def frequent : List Char :=
  "\n\r (),-./0129:_abcdefghilmnoprstuvxy|".toList

def isRare (b : Nat) : Bool :=
  b < 128 && !(frequent.map Char.toNat).contains b

/-- Words cut short while they are too many: each step says how long they may stay, and how many
there have to be more than. -/
def shortened : List (Nat × Nat) → List Word → List Word
  | [], ws => ws
  | (length, most) :: steps, ws =>
    if ws.length ≤ most then ws else shortened steps (preferred (ws.map (cut length)))

def allWhole (ws : List Word) : Bool :=
  ws.all (·.whole)

/-- Whether a search for the words finds whole matches. Words are cut where that makes the search
faster: to a rare first byte, to a long common start, or because they are many. They stay as they
are where little would be left of them, or too many. -/
def searchIsWhole (ws : List Word) : Bool :=
  let kept := preferred ws
  let start := common kept
  if 1 < ws.length && start.length ≤ 3 && (start.head?.any isRare) then
    allWhole (kept.map (cut 1))
  else
    let fast := allWhole kept && kept.length ≤ 16
    let kept :=
      if 4 < start.length || (1 < start.length && !fast) then merge (kept.map (cut start.length))
      else kept
    let short := shortened [(5, 10), (4, 10), (3, 64), (2, 64), (1, 10)] kept
    allWhole kept &&
      ((shortest? short).all (· ≤ 2) || 64 < short.length || allWhole short)

end Word

def manyWords : Nat :=
  3000

def isWordSearch (p : Pattern) : Bool :=
  p.isPlain &&
    (match (p.wordsAfter .nothing).map Word.merge with
      | some ws => !ws.isEmpty && Word.shortest? ws ≠ some 0 && Word.searchIsWhole ws
      | none => false) ||
  p.words?.any (manyWords ≤ ·.length)

/-- Why a pattern is not run. Which records are shown does not depend on the reason. -/
inductive Refusal where
  | written (fault : Fault)
  | tooLarge
  | wideWords
  deriving DecidableEq, Repr

/-- How many levels deep a pattern may be. -/
def deepest : Nat :=
  250

def Refusal.message (pattern : List Char) : Refusal → String
  | .written fault => fault.message pattern
  | .tooLarge => "Compiled regex exceeds size limit of 10485760 bytes."
  | .wideWords => "error building NFA"

def hasWideWords : Pattern → Bool
  | .assertion (.word _ wide) => wide
  | .repeated p _ _ _ | .group _ p => p.hasWideWords
  | .both p q | .either p q => p.hasWideWords || q.hasWideWords
  | _ => false

/-- No machine is needed to search for words. -/
def withoutMachine? (p : Pattern) : Option Refusal :=
  if p.isWordSearch then none else some .tooLarge

/-- A machine for each direction has to be small enough, and words of all scripts come between the
two. -/
def refusal? (p : Pattern) : Option Refusal :=
  if (p.machine? .right).isNone then p.withoutMachine?
  else if p.hasWideWords then some .wideWords
  else if (p.machine? .left).isNone then p.withoutMachine?
  else none

def Tree.checked (t : Tree) : Except Fault Tree :=
  match t.tooDeep? deepest with
  | some span => .error ⟨.nestedTooDeep, span, none⟩
  | none => .ok t

/-- The pattern that is written, or what is wrong with it first: as it is read, in its depth, in its
meaning and in its size. -/
def ofChars (cs : List Char) : Except Refusal Pattern :=
  match Tree.ofChars cs >>= Tree.checked >>= Tree.meaning with
  | .error fault => .error (.written fault)
  | .ok p =>
    match p.refusal? with
    | some refusal => .error refusal
    | none => .ok p

end Bata.Pattern
