import TrafficSteering.Decimal.Binary64

namespace TrafficSteering.Decimal

/-- A positive decimal: `digits * 10 ^ exponent`. -/
structure Scientific where
  digits : Nat
  exponent : Int
deriving DecidableEq

/-- The numbers that round to a given one, in units of `1 / scale`. -/
structure Neighbourhood where
  low : Nat
  value : Nat
  high : Nat
  scale : Nat
  closed : Bool

def Neighbourhood.of (x : Binary64) : Neighbourhood :=
  let m := 4 * x.significand
  let q := x.exponent - 2
  let up := Nat.pow 2 q.toNat
  { low := (m - if x.narrowBelow then 1 else 2) * up
    value := m * up
    high := (m + 2) * up
    scale := Nat.pow 2 (-q).toNat
    closed := x.significand % 2 == 0 }

namespace Neighbourhood

variable (n : Neighbourhood)

def contains (c num den : Nat) : Bool :=
  let p := c * num * n.scale
  if n.closed then n.low * den ≤ p && p ≤ n.high * den else n.low * den < p && p < n.high * den

/-- The multiple of `10 ^ k` that reads back, the nearer one of two. -/
def onGrid (k : Int) : Option Nat :=
  let num := Nat.pow 10 k.toNat
  let den := Nat.pow 10 (-k).toNat
  let c := n.value * den / (n.scale * num)
  let below := n.value * den - c * num * n.scale
  let above := (c + 1) * num * n.scale - n.value * den
  match n.contains c num den, n.contains (c + 1) num den with
  | true, true =>
    some (if below < above then c else if above < below then c + 1 else c + c % 2)
  | true, false => some c
  | false, true => some (c + 1)
  | false, false => none

def ceiling : Int :=
  if n.scale ≤ n.value then (Nat.toDigits 10 (n.value / n.scale)).length
  else 2 - ((Nat.toDigits 10 (n.scale / n.value)).length : Int)

/-- Tries ever finer grids; eighteen digits always suffice. -/
def search : Nat → Int → Scientific
  | 0, _ => ⟨n.value / n.scale, 0⟩
  | tries + 1, k =>
    match n.onGrid k with
    | some c => ⟨c, k⟩
    | none => search tries (k - 1)

end Neighbourhood

/-- Of the decimals that read back as a finite number other than zero, its sign left out, the one
with the fewest digits, and of those the nearest; a tie goes to the even digit. -/
def shortest (x : Binary64) : Scientific :=
  let n := Neighbourhood.of x
  n.search 20 n.ceiling

end TrafficSteering.Decimal
