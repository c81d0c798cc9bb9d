import TrafficSteering.Decimal.Shortest
import TrafficSteering.Json.Basic

namespace TrafficSteering

namespace Decimal

def zeros (n : Nat) : String := String.ofList (List.replicate n '0')

/-- A decimal in plain notation when its point falls within sixteen places to the right of the
first digit or five to the left of it, and with an exponent and its sign otherwise. -/
def Scientific.toText (s : Scientific) : String :=
  let ds := Nat.toDigits 10 s.digits
  let digits := String.ofList ds
  let point := ds.length + s.exponent
  if 0 ≤ s.exponent ∧ point ≤ 16 then digits ++ zeros s.exponent.toNat ++ ".0"
  else if 0 < point ∧ point ≤ 16 then
    String.ofList (ds.take point.toNat) ++ "." ++ String.ofList (ds.drop point.toNat)
  else if -5 < point ∧ point ≤ 0 then "0." ++ zeros (-point).toNat ++ digits
  else
    let fraction := ds.drop 1
    let mantissa := String.ofList (ds.take 1) ++
      if fraction.isEmpty then "" else "." ++ String.ofList fraction
    mantissa ++ (if 0 < point then "e+" else "e") ++ toString (point - 1)

def Binary64.toText (x : Binary64) : String :=
  let magnitude := if x.significand = 0 then "0.0" else (shortest x).toText
  if x.isNegative then "-" ++ magnitude else magnitude

end Decimal

namespace Json

def escape (c : Char) : List Char :=
  match c with
  | '"' => ['\\', '"']
  | '\\' => ['\\', '\\']
  | '\n' => ['\\', 'n']
  | '\r' => ['\\', 'r']
  | '\t' => ['\\', 't']
  | c =>
    if c.toNat = 8 then ['\\', 'b']
    else if c.toNat = 12 then ['\\', 'f']
    else if c.toNat < 0x20 then
      ['\\', 'u', '0', '0', Nat.digitChar (c.toNat / 16), Nat.digitChar (c.toNat % 16)]
    else [c]

def quote (text : String) : String :=
  String.ofList ('"' :: text.toList.flatMap escape ++ ['"'])

mutual

def compact : Json → String
  | .null => "null"
  | .bool value => if value then "true" else "false"
  | .int value => toString value
  | .real value => value.toText
  | .str text => quote text
  | .arr items => "[" ++ compactItems items ++ "]"
  | .obj members => "\x7b" ++ compactMembers members ++ "\x7d"

def compactItems : List Json → String
  | [] => ""
  | [item] => compact item
  | item :: rest => compact item ++ "," ++ compactItems rest

def compactMembers : List (String × Json) → String
  | [] => ""
  | [(key, value)] => quote key ++ ":" ++ compact value
  | (key, value) :: rest => quote key ++ ":" ++ compact value ++ "," ++ compactMembers rest

end

def indent (depth : Nat) : String := String.ofList (List.replicate (2 * depth) ' ')

mutual

/-- The text of a value that stands at the given depth; empty containers stay on one line. -/
def prettyAt (depth : Nat) : Json → String
  | .arr [] => "[]"
  | .arr items => "[\n" ++ prettyItems (depth + 1) items ++ "\n" ++ indent depth ++ "]"
  | .obj [] => "\x7b\x7d"
  | .obj members =>
    "\x7b\n" ++ prettyMembers (depth + 1) members ++ "\n" ++ indent depth ++ "\x7d"
  | value => compact value

def prettyItems (depth : Nat) : List Json → String
  | [] => ""
  | [item] => indent depth ++ prettyAt depth item
  | item :: rest => indent depth ++ prettyAt depth item ++ ",\n" ++ prettyItems depth rest

def prettyMembers (depth : Nat) : List (String × Json) → String
  | [] => ""
  | [(key, value)] => indent depth ++ quote key ++ ": " ++ prettyAt depth value
  | (key, value) :: rest =>
    indent depth ++ quote key ++ ": " ++ prettyAt depth value ++ ",\n" ++ prettyMembers depth rest

end

def pretty (value : Json) : String := prettyAt 0 value

end Json

end TrafficSteering
