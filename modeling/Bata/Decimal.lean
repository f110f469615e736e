import Bata.Text.Basic

namespace Bata.Decimal

/-- The leading digits of `digits · 10 ^ exponent` that fit into 64 bits, with their exponent. -/
def significant (digits : Nat) (exponent : Int) : Nat × Int :=
  if digits < UInt64.size then (digits, exponent) else significant (digits / 10) (exponent + 1)
termination_by digits
decreasing_by
  have hsize : 0 < UInt64.size := by decide
  omega

def powerOfTen (n : Nat) : Float :=
  Float.ofScientific 1 false n

/-- `digits · 10 ^ exponent` by one multiplication or division of doubles, but by two divisions
where one by more than `10 ^ 308` is needed. -/
def toDouble (digits : Nat) (exponent : Int) : Float :=
  let (digits, exponent) := significant digits exponent
  let x := digits.toUInt64.toFloat
  let n := exponent.natAbs
  if 0 ≤ exponent then x * powerOfTen n
  else if n ≤ 308 then x / powerOfTen n
  else if n ≤ 616 then x / powerOfTen 308 / powerOfTen (n - 308)
  else 0

def binary (x : Float) : Nat × Int :=
  let bits := x.toBits.toNat
  let fraction := bits % Nat.pow 2 52
  let exponent := bits / Nat.pow 2 52 % Nat.pow 2 11
  if exponent = 0 then (fraction, -1074) else (fraction + Nat.pow 2 52, Int.ofNat exponent - 1075)

/-- The multiple of `10 ^ e` nearest to `m · 2 ^ q` among those that no other double is nearer to,
if there is one. Of two that are equally near it is the even one. -/
def onGrid? (m : Nat) (q e : Int) : Option Nat :=
  -- all values are counted in quarters of `2 ^ q` and brought to one denominator
  let unit := Nat.pow 2 q.toNat * Nat.pow 10 (-e).toNat
  let step := 4 * (Nat.pow 2 (-q).toNat * Nat.pow 10 e.toNat)
  let value := 4 * m * unit
  let below := value - (if m = Nat.pow 2 52 ∧ -1074 < q then 1 else 2) * unit
  let above := value + 2 * unit
  let holds c := if m % 2 = 0 then below ≤ c * step ∧ c * step ≤ above
    else below < c * step ∧ c * step < above
  let c := value / step
  if holds c ∧ c ≠ 0 then
    let low := value - c * step
    let high := (c + 1) * step - value
    if holds (c + 1) ∧ (high < low ∨ high = low ∧ c % 2 = 1) then some (c + 1) else some c
  else if holds (c + 1) then some (c + 1)
  else none

/-- The fewest digits that read back as `m · 2 ^ q`, with the exponent of their last one. -/
def shortest (m : Nat) (q : Int) : Nat × Int :=
  let exponents := (List.range 634).map fun k => (309 : Int) - Int.ofNat k
  (exponents.findSome? fun e => (onGrid? m q e).map (·, e)).getD (0, 0)

/-- A number with a point, or with an exponent where it is too large or too small for that. -/
structure Layout where
  least : Int
  greatest : Int
  /-- The sign of an exponent that is not negative. -/
  plus : List Char

namespace Layout

def zeros (n : Int) : List Char :=
  List.replicate n.toNat '0'

def exponentChars (l : Layout) (n : Int) : List Char :=
  'e' :: (if n < 0 then ['-'] else l.plus) ++ Text.decimal n.natAbs

/-- The decimal `digits · 10 ^ exponent`, at least one digit on each side of its point. -/
def chars (l : Layout) (digits : Nat) (exponent : Int) : List Char :=
  let ds := Text.decimal digits
  -- the exponent of ten of the first digit
  let first := exponent + ds.length - 1
  if l.least ≤ first ∧ first ≤ l.greatest then
    if 0 ≤ exponent then ds ++ zeros exponent ++ ['.', '0']
    else if 0 ≤ first then ds.take (first + 1).toNat ++ '.' :: ds.drop (first + 1).toNat
    else '0' :: '.' :: zeros (-first - 1) ++ ds
  else
    match ds with
    | [] => []
    | [d] => d :: l.exponentChars first
    | d :: ds => d :: '.' :: ds ++ l.exponentChars first

end Layout

def doubleChars (l : Layout) (x : Float) : List Char :=
  let (m, q) := binary x
  let sign := if x.toBits.toNat < Nat.pow 2 63 then [] else ['-']
  if m = 0 then sign ++ l.chars 0 0
  else
    let (digits, exponent) := shortest m q
    sign ++ l.chars digits exponent

end Bata.Decimal
