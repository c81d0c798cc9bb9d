import TrafficSteering.Yaml.Glyph

namespace TrafficSteering.Yaml

inductive Style where
  | plain
  | quoted
  | literal
  | folded
deriving DecidableEq, Inhabited

/-- Blanks and line ends between two words. -/
structure Gap where
  blanks : List Char := []
  broken : Bool := false
  first : Option Char := none
  further : List Char := []

namespace Gap

def isEmpty (g : Gap) : Bool := g.blanks.isEmpty && !g.broken

def add (g : Gap) (c : Char) : Gap :=
  if isBreak c then
    if g.broken then { g with further := c :: g.further } else { broken := true, first := some c }
  else if g.broken then g
  else { g with blanks := c :: g.blanks }

def text (g : Gap) : List Char :=
  if !g.broken then g.blanks
  else if g.first = some '\n' then
    if g.further.isEmpty then [' '] else g.further
  else g.further ++ g.first.toList

end Gap

structure Words where
  done : List Char := []
  gap : Gap := {}

namespace Words

def close (w : Words) : Words := { done := w.gap.text ++ w.done }

def add (w : Words) (c : Char) : Words :=
  if isBlank c || isBreak c then { w with gap := w.gap.add c }
  else { done := c :: w.close.done }

def addEscaped (w : Words) (c : Char) : Words := { done := c :: w.close.done }

def addJoint (w : Words) : Words := { done := w.close.done, gap := { broken := true } }

end Words

def escape? (c : Char) : Option Char :=
  match c with
  | '0' => some (Char.ofNat 0)
  | 'a' => some (Char.ofNat 7)
  | 'b' => some (Char.ofNat 8)
  | 't' | '\t' => some '\t'
  | 'n' => some '\n'
  | 'v' => some (Char.ofNat 11)
  | 'f' => some (Char.ofNat 12)
  | 'r' => some '\r'
  | 'e' => some (Char.ofNat 27)
  | ' ' => some ' '
  | '"' => some '"'
  | '/' => some '/'
  | '\\' => some '\\'
  | 'N' => some (Char.ofNat 0x85)
  | '_' => some (Char.ofNat 0xA0)
  | 'L' => some (Char.ofNat 0x2028)
  | 'P' => some (Char.ofNat 0x2029)
  | _ => none

def escapeDigits? (c : Char) : Option Nat :=
  match c with
  | 'x' => some 2
  | 'u' => some 4
  | 'U' => some 8
  | _ => none

/-- What becomes of the line ends behind a block scalar. -/
inductive Chomping where
  | strip
  | clip
  | keep
deriving DecidableEq, Inhabited

structure Header where
  chomping : Chomping := .clip
  increment : Option Nat := none

namespace Header

def chomping? : List Char → Option Chomping × List Char
  | '+' :: rest => (some .keep, rest)
  | '-' :: rest => (some .strip, rest)
  | cs => (none, cs)

def increment? : List Char → Option Nat × List Char
  | c :: rest => if c.isDigit then (some (c.toNat - 48), rest) else (none, c :: rest)
  | [] => (none, [])

def parse (cs : List Char) : Except Fault Header :=
  let (before, cs) := chomping? cs
  let (increment, cs) := increment? cs
  let (behind, cs) := if before.isSome then (none, cs) else chomping? cs
  let isComment := match cs.dropWhile isBlank with
    | [] => true
    | c :: _ => c == '#'
  if increment = some 0 ∨ isComment = false then .error .badHeader
  else .ok { chomping := (before.or behind).getD .clip, increment }

end Header

/-- A block scalar; its indentation is none until its first line is met. -/
structure Block where
  literal : Bool
  chomping : Chomping
  /-- The least indentation that it may have. -/
  least : Nat
  indent : Option Nat
  widest : Nat := 0
  done : List Char := []
  lastBreak : Option Char := none
  further : List Char := []
  indented : Bool := false

namespace Block

def ofHeader (literal : Bool) (outer : Option Nat) (h : Header) : Block :=
  { literal, chomping := h.chomping
    least := match outer with
      | some n => n + 1
      | none => 1
    indent := h.increment.map fun n ↦ outer.getD 0 + n }

def inMargin (b : Block) (g : Glyph) : Bool :=
  match b.indent with
  | some n => g.column < n
  | none => true

def widen (b : Block) (g : Glyph) : Block := { b with widest := max b.widest g.column }

def emptyLine (b : Block) (c : Char) : Block := { b with further := c :: b.further }

def settle (b : Block) : Block :=
  { b with indent := some (b.indent.getD (max b.widest b.least)) }

/-- Begins a line; what stays of the line ends in front of it goes before. -/
def beginLine (b : Block) (c : Char) : Block :=
  let folds := !b.literal && b.lastBreak == some '\n' && !b.indented && !isBlank c
  let front := if folds then (if b.further.isEmpty then [' '] else []) else b.lastBreak.toList
  { b with
    done := c :: (b.further ++ front ++ b.done), lastBreak := none, further := []
    indented := isBlank c }

def add (b : Block) (c : Char) : Block := { b with done := c :: b.done }

def endLine (b : Block) (c : Char) : Block := { b with lastBreak := some c }

def text (b : Block) : List Char :=
  match b.chomping with
  | .strip => b.done
  | .clip => b.lastBreak.toList ++ b.done
  | .keep => b.further ++ b.lastBreak.toList ++ b.done

def style (b : Block) : Style := if b.literal then .literal else .folded

end Block

end TrafficSteering.Yaml
