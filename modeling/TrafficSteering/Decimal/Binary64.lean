namespace TrafficSteering.Decimal

/-- Binary floating-point numbers of 64 bits, held as their bits. -/
structure Binary64 where
  bits : UInt64
deriving DecidableEq, Inhabited

namespace Binary64

def isNegative (x : Binary64) : Bool := x.bits.toNat / Nat.pow 2 63 == 1

def exponentField (x : Binary64) : Nat := x.bits.toNat / Nat.pow 2 52 % Nat.pow 2 11

def fractionField (x : Binary64) : Nat := x.bits.toNat % Nat.pow 2 52

def isFinite (x : Binary64) : Bool := x.exponentField != 2047

def significand (x : Binary64) : Nat :=
  if x.exponentField = 0 then x.fractionField else Nat.pow 2 52 + x.fractionField

def exponent (x : Binary64) : Int := (max x.exponentField 1 : Nat) - 1075

def narrowBelow (x : Binary64) : Bool := x.fractionField == 0 && 1 < x.exponentField

def infinity : Nat := 2047 * Nat.pow 2 52

/-- The number nearest to `num / den`, the even one of two; infinity past the largest. -/
def ofRatio (num den : Nat) : Binary64 :=
  if num = 0 then ⟨0⟩
  else
    let log := (Nat.log2 num : Int) - Nat.log2 den
    let top := if num * Nat.pow 2 (-log).toNat < den * Nat.pow 2 log.toNat then log - 1 else log
    let e := max (top - 52) (-1074)
    let n := num * Nat.pow 2 (-e).toNat
    let d := den * Nat.pow 2 e.toNat
    let r := 2 * (n % d)
    let m := if d < r ∨ d = r ∧ n / d % 2 = 1 then n / d + 1 else n / d
    -- a carry out of the significand moves on to the next exponent by itself
    ⟨UInt64.ofNat (min ((e + 1074).toNat * Nat.pow 2 52 + m) infinity)⟩

/-- The product of two finite numbers without their signs, rounded. -/
def mul (x y : Binary64) : Binary64 :=
  let e := x.exponent + y.exponent
  ofRatio (x.significand * y.significand * Nat.pow 2 e.toNat) (Nat.pow 2 (-e).toNat)

def div (x y : Binary64) : Binary64 :=
  let e := x.exponent - y.exponent
  ofRatio (x.significand * Nat.pow 2 e.toNat) (y.significand * Nat.pow 2 (-e).toNat)

def negate (x : Binary64) : Binary64 := ⟨x.bits ||| 0x8000000000000000⟩

end Binary64

end TrafficSteering.Decimal
