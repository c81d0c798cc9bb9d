import TrafficSteering.Net.Address
import TrafficSteering.Net.DomainName
import TrafficSteering.Net.Percent
import TrafficSteering.Text.Utf8

namespace TrafficSteering.Net.Host

open Text

def isForbidden (c : Char) : Bool :=
  c.toNat ≤ 0x20 || c.toNat == 0x7F || "#/:<>?@[]^|%\\".toList.contains c

def octalDigit? (c : Char) : Option Nat :=
  if '0' ≤ c ∧ c ≤ '7' then some (c.toNat - 48) else none

/-- A part of an address of decimal parts, where hexadecimal and octal ones count as well. -/
def number? (cs : List Char) : Option Nat :=
  match cs with
  | [] => none
  | '0' :: 'x' :: rest => Text.number? 16 hexDigit? 0 rest
  | '0' :: rest => Text.number? 8 octalDigit? 0 rest
  | cs => Text.number? 10 decimalDigit? 0 cs

def dropEmptyEnd (labels : List (List Char)) : List (List Char) :=
  if 1 < labels.length && labels.getLast? == some [] then labels.dropLast else labels

/-- A host whose last label is a number is an address of decimal parts, or no host at all. -/
def endsInNumber (cs : List Char) : Bool :=
  match (dropEmptyEnd (pieces '.' cs)).getLast? with
  | some label => (!label.isEmpty && label.all Char.isDigit) || (number? label).isSome
  | none => false

/-- The last of up to four parts fills all the bytes that are left. -/
def address? (cs : List Char) : Option IPv4 := do
  let parts ← (dropEmptyEnd (pieces '.' cs)).mapM number?
  let last ← parts.getLast?
  let front := parts.dropLast
  if front.length ≤ 3 && front.all (· < 256) && last < Nat.pow 256 (4 - front.length) then
    let rest := List.range (4 - front.length)
    let bytes := front ++ rest.reverse.map fun i ↦ last / Nat.pow 256 i % 256
    match bytes.map UInt8.ofNat with
    | [a, b, c, d] => some ⟨a, b, c, d⟩
    | _ => none
  else none

def bracketed (x : IPv6) : List Char :=
  let (start, length) := IPv6.longestRun 0 x.groups
  let text :=
    if 1 < length then
      IPv6.joinGroups (x.groups.take start) ++
        ':' :: ':' :: IPv6.joinGroups (x.groups.drop (start + length))
    else IPv6.joinGroups x.groups
  '[' :: text ++ [']']

def decode? (cs : List Char) : Option (List Char) :=
  if cs.contains '%' then (ofUtf8? (percentDecode cs)).map String.toList else some cs

def parse? (cs : List Char) : Option String :=
  match cs with
  | [] => none
  | '[' :: rest =>
    if rest.getLast? = some ']' then
      (IPv6.parse? rest.dropLast).map fun x ↦ String.ofList (bracketed x)
    else none
  | cs => do
    let name ← DomainName.toAscii? (← decode? cs)
    if name.isEmpty || name.any isForbidden then none
    else if endsInNumber name then (address? name).map fun x ↦ String.ofList x.toChars
    else some (String.ofList name)

end TrafficSteering.Net.Host
