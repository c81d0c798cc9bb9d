import TrafficSteering.Yaml.Directive
import TrafficSteering.Yaml.Scalar

namespace TrafficSteering.Yaml

inductive Token where
  | directive (directive : Directive)
  | documentStart
  | documentEnd
  | blockSeqStart
  | blockMapStart
  | blockEnd
  | flowSeqStart
  | flowSeqEnd
  | flowMapStart
  | flowMapEnd
  | blockEntry
  | flowEntry
  | key
  | value
  | reference (name : String)
  | anchor (name : String)
  | tag (form : Tag.Form)
  | scalar (text : String) (style : Style)
deriving DecidableEq, Inhabited

/-- A place where a key may begin, so far without the colon. -/
structure Candidate where
  tokensBefore : Nat
  /-- Nothing but a key can stand here. -/
  required : Bool
  line : Nat
  column : Nat

inductive Mode where
  | between
  | skipping (count : Nat)
  | comment
  | directive (text : List Char)
  | name (isAlias : Bool) (text : List Char)
  | tag (text : List Char)
  | plain (words : Words)
  | single (words : Words)
  | afterQuote (words : Words)
  | double (words : Words)
  | escaped (words : Words)
  | code (words : Words) (left : Nat) (value : Nat)
  | header (literal : Bool) (text : List Char)
  | margin (block : Block)
  | blockLine (block : Block)

structure Lexer where
  tokens : List Token := []
  /-- The columns of the open block collections, the innermost first. -/
  indents : List Nat := []
  /-- The candidate of every open flow collection and of the block around them. -/
  candidates : List (Option Candidate) := [none]
  mayBeKey : Bool := true
  mode : Mode := .between

namespace Lexer

def inFlow (s : Lexer) : Bool := 1 < s.candidates.length

def push (s : Lexer) (t : Token) : Lexer := { s with tokens := t :: s.tokens }

/-- Closes the block collections that do not satisfy `stays`. -/
def unroll (s : Lexer) (stays : Nat → Bool) : Lexer :=
  if s.inFlow then s
  else
    let closed := s.indents.takeWhile (!stays ·)
    { s with
      indents := s.indents.dropWhile (!stays ·)
      tokens := List.replicate closed.length .blockEnd ++ s.tokens }

def isDeeper (s : Lexer) (column : Nat) : Bool :=
  match s.indents with
  | [] => true
  | i :: _ => i < column

def roll (s : Lexer) (column : Nat) (t : Token) : Lexer :=
  if !s.inFlow && s.isDeeper column then { s.push t with indents := column :: s.indents } else s

def candidate (s : Lexer) : Option Candidate := s.candidates.head?.join

def setCandidate (s : Lexer) (c : Option Candidate) : Lexer :=
  { s with candidates := c :: s.candidates.tail }

def removeCandidate (s : Lexer) : Except Fault Lexer :=
  match s.candidate with
  | some c => if c.required then .error .keyWithoutValue else .ok (s.setCandidate none)
  | none => .ok s

def saveCandidate (s : Lexer) (g : Glyph) : Except Fault Lexer :=
  if s.mayBeKey then do
    let s ← s.removeCandidate
    return s.setCandidate (some {
      tokensBefore := s.tokens.length
      required := !s.inFlow && s.indents.head? == some g.column
      line := g.line
      column := g.column })
  else .ok s

/-- A key stands on one line and is at most 1024 characters long. -/
def Candidate.reaches (c : Candidate) (g : Glyph) : Bool :=
  c.line == g.line && g.column ≤ c.column + 1024

def insertAfter (s : Lexer) (n : Nat) (ts : List Token) : Lexer :=
  let behind := s.tokens.length - n
  { s with tokens := s.tokens.take behind ++ ts ++ s.tokens.drop behind }

def keyFound (s : Lexer) (c : Candidate) : Lexer :=
  let opens := !s.inFlow && s.isDeeper c.column
  let s := s.insertAfter c.tokensBefore (if opens then [.key, .blockMapStart] else [.key])
  { s.setCandidate none with
    indents := if opens then c.column :: s.indents else s.indents
    mayBeKey := false }

def keyMissing (s : Lexer) (g : Glyph) : Except Fault Lexer :=
  if s.inFlow then .ok { s with mayBeKey := false }
  else if s.mayBeKey then .ok (s.roll g.column .blockMapStart)
  else .error (.misplaced "a mapping value")

def value (s : Lexer) (g : Glyph) : Except Fault Lexer := do
  let s ← match s.candidate with
    | none => s.keyMissing g
    | some c =>
      if Candidate.reaches c g then .ok (s.keyFound c)
      else if c.required then .error .keyWithoutValue
      else (s.setCandidate none).keyMissing g
  return s.push .value

def marker (s : Lexer) (g : Glyph) : Except Fault Lexer := do
  let s ← (s.unroll fun _ ↦ false).removeCandidate
  let s := s.push (if g.char = '-' then .documentStart else .documentEnd)
  return { s with mayBeKey := false, mode := .skipping 2 }

def flowStart (s : Lexer) (g : Glyph) (t : Token) : Except Fault Lexer := do
  let s ← s.saveCandidate g
  return { s.push t with candidates := none :: s.candidates, mayBeKey := true }

def flowEnd (s : Lexer) (t : Token) : Except Fault Lexer := do
  let s ← s.removeCandidate
  let candidates := if s.inFlow then s.candidates.tail else s.candidates
  return { s.push t with candidates, mayBeKey := false }

def flowEntry (s : Lexer) : Except Fault Lexer := do
  let s ← s.removeCandidate
  return { s.push .flowEntry with mayBeKey := true }

def blockEntry (s : Lexer) (g : Glyph) : Except Fault Lexer := do
  if !s.inFlow && !s.mayBeKey then .error (.misplaced "a block sequence entry")
  else
    let s ← (s.roll g.column .blockSeqStart).removeCandidate
    return { s.push .blockEntry with mayBeKey := true }

def explicitKey (s : Lexer) (g : Glyph) : Except Fault Lexer := do
  if !s.inFlow && !s.mayBeKey then .error (.misplaced "a mapping key")
  else
    let s ← (s.roll g.column .blockMapStart).removeCandidate
    return { s.push .key with mayBeKey := !s.inFlow }

def begin (s : Lexer) (g : Glyph) (mode : Mode) : Except Fault Lexer := do
  let s ← s.saveCandidate g
  return { s with mayBeKey := false, mode }

def beginBlock (s : Lexer) (literal : Bool) : Except Fault Lexer := do
  let s ← s.removeCandidate
  return { s with mayBeKey := true, mode := .header literal [] }

def endName (s : Lexer) (isAlias : Bool) (text : List Char) (g : Option Glyph) :
    Except Fault Lexer :=
  let c := g.map Glyph.char
  let ends := endsToken c || (c.map fun c ↦ "?:,]%@".toList.contains c || c.toNat == 0x7D ||
    c.toNat == 0x60).getD false
  if text.isEmpty || !ends then .error .badAnchor
  else
    let name := String.ofList text.reverse
    .ok { s.push (if isAlias then .reference name else .anchor name) with mode := .between }

def endTag (s : Lexer) (text : List Char) : Except Fault Lexer :=
  match Tag.Form.parse? text.reverse with
  | some form => .ok { s.push (.tag form) with mode := .between }
  | none => .error .badTag

def endDirective (s : Lexer) (text : List Char) : Except Fault Lexer :=
  match Directive.parse? text.reverse with
  | some d => .ok { s.push (.directive d) with mode := .between }
  | none => .error .badDirective

def endPlain (s : Lexer) (w : Words) : Lexer :=
  { s.push (.scalar (String.ofList w.done.reverse) .plain) with
    mayBeKey := s.mayBeKey || w.gap.broken, mode := .between }

def endQuoted (s : Lexer) (w : Words) : Lexer :=
  { s.push (.scalar (String.ofList w.close.done.reverse) .quoted) with mode := .between }

def endHeader (s : Lexer) (literal : Bool) (text : List Char) : Except Fault Block := do
  return Block.ofHeader literal s.indents.head? (← Header.parse text.reverse)

def endBlock (s : Lexer) (b : Block) : Lexer :=
  { s.push (.scalar (String.ofList b.text.reverse) b.style) with mode := .between }

/-- Whether a plain scalar begins with a character that is no indicator by what follows it. -/
def beginsPlain (c : Char) : Bool :=
  !isBlank c && !isBreak c && !",[]#&*!|>'\"%@".toList.contains c && c.toNat != 0x7B &&
    c.toNat != 0x7D && c.toNat != 0x60

/-- Goes on with a plain scalar; none where it has ended before this character. -/
def plainStep (s : Lexer) (w : Words) (g : Glyph) : Except Fault (Option Words) :=
  let c := g.char
  let least := match s.indents with
    | [] => 0
    | i :: _ => i + 1
  if isBlank c || isBreak c then
    if w.gap.broken && g.column < least && c == '\t' then .error .tabInIndentation
    else .ok (some (w.add c))
  else if !w.gap.isEmpty &&
      ((!s.inFlow && g.column < least) || g.marksDocument || c == '#') then .ok none
  else
    let isFlow (c : Char) : Bool :=
      c == ',' || c == '[' || c == ']' || c.toNat == 0x7B || c.toNat == 0x7D
    if s.inFlow && c == ':' && (g.next.map fun d ↦ isFlow d || d == '?').getD false then
      .error .unexpectedCharacter
    else if (c == ':' && endsToken g.next) || (s.inFlow && isFlow c) then .ok none
    else .ok (some (w.add c))

def token (s : Lexer) (g : Glyph) : Except Fault Lexer := do
  let s := s.unroll (· ≤ g.column)
  let alone := endsToken g.next
  if g.column = 0 ∧ g.char = '%' then
    let s ← (s.unroll fun _ ↦ false).removeCandidate
    return { s with mayBeKey := false, mode := .directive [] }
  else if g.marksDocument then s.marker g
  else
    match g.char with
    | '[' => s.flowStart g .flowSeqStart
    | ']' => s.flowEnd .flowSeqEnd
    | ',' => s.flowEntry
    | '*' => s.begin g (.name true [])
    | '&' => s.begin g (.name false [])
    | '!' => s.begin g (.tag ['!'])
    | '\'' => s.begin g (.single {})
    | '"' => s.begin g (.double {})
    | c =>
      if c.toNat = 0x7B then s.flowStart g .flowMapStart
      else if c.toNat = 0x7D then s.flowEnd .flowMapEnd
      else if c = '-' ∧ alone then s.blockEntry g
      else if c = '?' ∧ (s.inFlow ∨ alone) then s.explicitKey g
      else if c = ':' ∧ (s.inFlow ∨ alone) then s.value g
      else if c = '|' ∧ s.inFlow = false then s.beginBlock true
      else if c = '>' ∧ s.inFlow = false then s.beginBlock false
      else if beginsPlain c then s.begin g (.plain { done := [c] })
      else .error .unexpectedCharacter

/-- Goes on to the next token. A byte order mark in front of a line does not count. -/
def between (s : Lexer) (g : Glyph) : Except Fault Lexer :=
  let c := g.char
  if g.column = 0 ∧ isOrderMark c then .ok s
  else if c = ' ' ∨ (c = '\t' ∧ (s.inFlow ∨ s.mayBeKey = false)) then .ok s
  else if c = '#' then .ok { s with mode := .comment }
  else if isBreak c then .ok { s with mayBeKey := s.mayBeKey || !s.inFlow }
  else s.token g

def marginStep (s : Lexer) (b : Block) (g : Glyph) : Except Fault Lexer :=
  if g.char = ' ' ∧ b.inMargin g then .ok s
  else
    let b := b.widen g
    if b.inMargin g && g.char == '\t' then .error .tabInIndentation
    else if isBreak g.char then .ok { s with mode := .margin (b.emptyLine g.char) }
    else
      let b := b.settle
      if b.indent = some g.column then .ok { s with mode := .blockLine (b.beginLine g.char) }
      else (s.endBlock b).between g

def codeStep (s : Lexer) (w : Words) (left value : Nat) (c : Char) : Except Fault Lexer :=
  match Text.hexDigit? c with
  | none => .error .badEscape
  | some d =>
    let value := 16 * value + d
    if 1 < left then .ok { s with mode := .code w (left - 1) value }
    else if h : value.isValidChar then
      .ok { s with mode := .double (w.addEscaped (Char.ofNatAux value h)) }
    else .error .badEscape

def escapedStep (s : Lexer) (w : Words) (c : Char) : Except Fault Lexer :=
  if isBreak c then .ok { s with mode := .double w.addJoint }
  else
    match escape? c, escapeDigits? c with
    | some d, _ => .ok { s with mode := .double (w.addEscaped d) }
    | none, some n => .ok { s with mode := .code w n 0 }
    | none, none => .error .badEscape

def step (s : Lexer) (g : Glyph) : Except Fault Lexer :=
  let c := g.char
  match s.mode with
  | .between => s.between g
  | .skipping n => .ok { s with mode := if 1 < n then .skipping (n - 1) else .between }
  | .comment => if isBreak c then { s with mode := .between }.between g else .ok s
  | .directive text =>
    if isBreak c then s.endDirective text else .ok { s with mode := .directive (c :: text) }
  | .name isAlias text =>
    if isNameChar c then .ok { s with mode := .name isAlias (c :: text) }
    else do (← s.endName isAlias text (some g)).between g
  | .tag text =>
    if Tag.Form.goesOn s.inFlow text c then .ok { s with mode := .tag (c :: text) }
    else do (← s.endTag text).between g
  | .plain w => do
    match ← s.plainStep w g with
    | some w => return { s with mode := .plain w }
    | none => (s.endPlain w).between g
  | .single w =>
    if g.marksDocument then .error .unclosedText
    else if c = '\'' then .ok { s with mode := .afterQuote w }
    else .ok { s with mode := .single (w.add c) }
  | .afterQuote w =>
    if c = '\'' then .ok { s with mode := .single (w.addEscaped c) }
    else (s.endQuoted w).between g
  | .double w =>
    if g.marksDocument then .error .unclosedText
    else if c = '"' then .ok (s.endQuoted w)
    else if c = '\\' then .ok { s with mode := .escaped w }
    else .ok { s with mode := .double (w.add c) }
  | .escaped w => s.escapedStep w c
  | .code w left value => s.codeStep w left value c
  | .header literal text =>
    if isBreak c then do return { s with mode := .margin (← s.endHeader literal text) }
    else .ok { s with mode := .header literal (c :: text) }
  | .margin b => s.marginStep b g
  | .blockLine b =>
    if isBreak c then .ok { s with mode := .margin (b.endLine c) }
    else .ok { s with mode := .blockLine (b.add c) }

def close (s : Lexer) : Except Fault Lexer :=
  match s.mode with
  | .between | .comment | .skipping _ => .ok s
  | .directive text => s.endDirective text
  | .name isAlias text => s.endName isAlias text none
  | .tag text => s.endTag text
  | .plain w => .ok (s.endPlain w)
  | .afterQuote w => .ok (s.endQuoted w)
  | .header literal text => do return s.endBlock (← s.endHeader literal text)
  | .margin b | .blockLine b => .ok (s.endBlock b)
  | .single _ | .double _ | .escaped _ | .code _ _ _ => .error .unclosedText

end Lexer

def Token.scan (text : String) : Except Fault (List Token) := do
  let s ← (← glyphs text).foldlM Lexer.step {}
  let s ← (← s.close).removeCandidate
  return (s.unroll fun _ ↦ false).tokens.reverse

end TrafficSteering.Yaml
