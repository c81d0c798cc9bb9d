import TrafficSteering.Text.Digit
import TrafficSteering.Text.Piece

namespace TrafficSteering.Net

open Text

def splitGap : List Char → Option (List Char × List Char)
  | ':' :: ':' :: rest => some ([], rest)
  | [] => none
  | c :: rest => (splitGap rest).map fun p ↦ (c :: p.1, p.2)

structure IPv4 where
  a : UInt8
  b : UInt8
  c : UInt8
  d : UInt8
deriving DecidableEq, Inhabited

structure IPv6 where
  groups : List UInt16
  length_eq : groups.length = 8
deriving DecidableEq

inductive Address where
  | v4 (address : IPv4)
  | v6 (address : IPv6)
deriving DecidableEq

/-- One to three decimal digits, at most 255, without a leading zero. -/
def octet? (cs : List Char) : Option UInt8 :=
  if cs.isEmpty || 3 < cs.length || (1 < cs.length && cs.head? == some '0') then none
  else
    match number? 10 decimalDigit? 0 cs with
    | some n => if n < 256 then some (UInt8.ofNat n) else none
    | none => none

def group? (cs : List Char) : Option UInt16 :=
  if cs.isEmpty || 4 < cs.length then none
  else (number? 16 hexDigit? 0 cs).map UInt16.ofNat

namespace IPv4

def parse? (cs : List Char) : Option IPv4 :=
  match (pieces '.' cs).map octet? with
  | [some a, some b, some c, some d] => some ⟨a, b, c, d⟩
  | _ => none

def toChars (x : IPv4) : List Char :=
  let part (n : UInt8) := Nat.toDigits 10 n.toNat
  part x.a ++ '.' :: part x.b ++ '.' :: part x.c ++ '.' :: part x.d

def toGroups (x : IPv4) : List UInt16 :=
  [x.a.toUInt16 * 256 + x.b.toUInt16, x.c.toUInt16 * 256 + x.d.toUInt16]

def ofGroups (hi lo : UInt16) : IPv4 :=
  ⟨(hi / 256).toUInt8, hi.toUInt8, (lo / 256).toUInt8, lo.toUInt8⟩

end IPv4

namespace IPv6

def groups? (decimalEnd : Bool) : List (List Char) → Option (List UInt16)
  | [] => some []
  | [last] =>
    match group? last with
    | some g => some [g]
    | none => if decimalEnd then (IPv4.parse? last).map IPv4.toGroups else none
  | piece :: rest =>
    match group? piece, groups? decimalEnd rest with
    | some g, some gs => some (g :: gs)
    | _, _ => none

def side? (decimalEnd : Bool) (cs : List Char) : Option (List UInt16) :=
  if cs.isEmpty then some [] else groups? decimalEnd (pieces ':' cs)

def ofList? (gs : List UInt16) : Option IPv6 :=
  if h : gs.length = 8 then some ⟨gs, h⟩ else none

/-- The gap stands for at least one group of zeros. -/
def parse? (cs : List Char) : Option IPv6 :=
  match splitGap cs with
  | none => (groups? true (pieces ':' cs)).bind ofList?
  | some (before, after) =>
    match side? false before, side? true after with
    | some front, some back =>
      if front.length + back.length ≤ 7 then
        ofList? (front ++ List.replicate (8 - front.length - back.length) 0 ++ back)
      else none
    | _, _ => none

def leadingZeros (gs : List UInt16) : Nat := (gs.takeWhile (· == 0)).length

/-- Start and length of the first of the longest runs of zeros, in groups from `i` on. -/
def longestRun (i : Nat) : List UInt16 → Nat × Nat
  | [] => (i, 0)
  | g :: rest =>
    let here := leadingZeros (g :: rest)
    let later := longestRun (i + 1) rest
    if later.2 ≤ here then (i, here) else later

def joinGroups (gs : List UInt16) : List Char :=
  List.intercalate [':'] (gs.map fun g ↦ Nat.toDigits 16 g.toNat)

def mapped? (x : IPv6) : Option IPv4 :=
  match x.groups with
  | [0, 0, 0, 0, 0, 0xFFFF, hi, lo] => some (IPv4.ofGroups hi lo)
  | _ => none

def toChars (x : IPv6) : List Char :=
  match x.mapped? with
  | some v4 => "::ffff:".toList ++ v4.toChars
  | none =>
    let (start, length) := longestRun 0 x.groups
    if 1 < length then
      joinGroups (x.groups.take start) ++ ':' :: ':' :: joinGroups (x.groups.drop (start + length))
    else joinGroups x.groups

end IPv6

namespace Address

def parse? (text : String) : Option Address :=
  match IPv4.parse? text.toList with
  | some x => some (.v4 x)
  | none => (IPv6.parse? text.toList).map .v6

/-- The canonical form: lower case, no leading zeros, and the first of the longest runs of two or
more zero groups left out. -/
def toText : Address → String
  | .v4 x => String.ofList x.toChars
  | .v6 x => String.ofList x.toChars

end Address

end TrafficSteering.Net
