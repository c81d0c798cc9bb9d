import TrafficSteering.Yaml.Tag

namespace TrafficSteering.Yaml

inductive Directive where
  | version (major minor : Nat)
  | tag (handle : String) (start : Tag)
deriving DecidableEq, Inhabited

namespace Directive

def number? (cs : List Char) : Option (Nat × List Char) :=
  let digits := cs.takeWhile Char.isDigit
  if digits.isEmpty || 9 < digits.length then none
  else some (digits.foldl (fun n c ↦ 10 * n + (c.toNat - 48)) 0, cs.dropWhile Char.isDigit)

def version? (cs : List Char) : Option (Directive × List Char) := do
  let (major, cs) ← number? (cs.dropWhile isBlank)
  match cs with
  | '.' :: cs =>
    let (minor, cs) ← number? cs
    return (.version major minor, cs)
  | _ => none

def tag? (cs : List Char) : Option (Directive × List Char) :=
  let cs := cs.dropWhile isBlank
  let handle := cs.takeWhile (!isBlank ·)
  let cs := (cs.dropWhile (!isBlank ·)).dropWhile isBlank
  if Tag.isHandle handle then
    (Tag.uri? Tag.isUriChar (cs.takeWhile (!isBlank ·))).map fun start ↦
      (.tag (String.ofList handle) start, cs.dropWhile (!isBlank ·))
  else none

def parse? (line : List Char) : Option Directive := do
  let name := line.takeWhile isNameChar
  let rest := line.dropWhile isNameChar
  let (directive, rest) ←
    if endsToken rest.head? = false then none
    else if name = "YAML".toList then version? rest
    else if name = "TAG".toList then tag? rest
    else none
  match rest.dropWhile isBlank with
  | [] | '#' :: _ => some directive
  | _ => none

end Directive

end TrafficSteering.Yaml
