import TrafficSteering.Json.Basic
import TrafficSteering.Json.Fault
import TrafficSteering.Text.Digit

namespace TrafficSteering.Json

open Decimal

/-- Appends decimal digits as long as the number fits in 64 bits; gives what did not fit. -/
def appendFitting (n : Nat) : List Char → Nat × List Char
  | [] => (n, [])
  | c :: rest =>
    let next := n * 10 + (c.toNat - 48)
    if next < UInt64.size then appendFitting next rest else (n, c :: rest)

def powerOfTen (k : Nat) : Binary64 := .ofRatio (Nat.pow 10 k) 1

/-- Divides by `10 ^ k` in strides of `10 ^ 308`, each rounded; four of them reach zero. -/
def divideByPower : Nat → Binary64 → Nat → Binary64
  | 0, _, _ => ⟨0⟩
  | strides + 1, x, k =>
    if k ≤ 308 then x.div (powerOfTen k)
    else divideByPower strides (x.div (powerOfTen 308)) (k - 308)

/-- The leading 64 bits of the digits, rounded, and scaled by a power of ten, rounded again. -/
def scaled (significand : Nat) (exponent : Int) : Except Fault Binary64 :=
  let x := Binary64.ofRatio significand 1
  if significand = 0 then .ok ⟨0⟩
  else if exponent < 0 then .ok (divideByPower 4 x (-exponent).toNat)
  else if 308 < exponent then .error .outOfRange
  else
    let y := x.mul (powerOfTen exponent.toNat)
    if y.isFinite then .ok y else .error .outOfRange

def digitsValue (ds : List Char) : Nat := ds.foldl (fun n c ↦ n * 10 + (c.toNat - 48)) 0

def readExponent : List Char → Option Int
  | [] => some 0
  | mark :: rest =>
    if mark = 'e' ∨ mark = 'E' then
      let (negative, ds) := match rest with
        | '+' :: ds => (false, ds)
        | '-' :: ds => (true, ds)
        | ds => (false, ds)
      if ds.isEmpty || !ds.all Char.isDigit then none
      else some (if negative then -(digitsValue ds : Int) else digitsValue ds)
    else none

def readReal (negative : Bool) (whole fraction : List Char) (exponent : Int) :
    Except Fault Json := do
  let (n, left) := appendFitting 0 whole
  let (n, unread) := appendFitting n fraction
  let x ← scaled n (exponent + left.length - (fraction.length - unread.length : Nat))
  return .real (if negative then x.negate else x)

def splitSign : List Char → Bool × List Char
  | '-' :: rest => (true, rest)
  | text => (false, text)

/-- Whole numbers of 64 bits, signed or unsigned, are kept as they are; all others, and negative
zero, are binary floating-point numbers. -/
def readNumber (text : List Char) : Except Fault Json :=
  let (negative, text) := splitSign text
  let whole := text.takeWhile Char.isDigit
  let rest := text.dropWhile Char.isDigit
  if whole.isEmpty || (whole.head? == some '0' && 1 < whole.length) then .error .malformed
  else
    match rest with
    | [] =>
      let n := digitsValue whole
      if !negative && n < UInt64.size then .ok (.int n)
      else if negative && 0 < n && 2 * n ≤ UInt64.size then .ok (.int (-n))
      else readReal negative whole [] 0
    | '.' :: rest =>
      let fraction := rest.takeWhile Char.isDigit
      match fraction.isEmpty, readExponent (rest.dropWhile Char.isDigit) with
      | false, some e => readReal negative whole fraction e
      | _, _ => .error .malformed
    | rest =>
      match readExponent rest with
      | some e => readReal negative whole [] e
      | none => .error .malformed

inductive Token where
  | openArr
  | closeArr
  | openObj
  | closeObj
  | comma
  | colon
  | atom (value : Json)
  | text (text : String)

/-- Where the gathering of a token stands; texts in progress are held backwards. -/
inductive Mode where
  | between
  | word (done : List Char)
  | quoted (done : List Char)
  | escaped (done : List Char)
  | unicode (done : List Char) (lead : Option Nat) (digits : List Char)
  | afterLead (done : List Char) (lead : Nat) (slash : Bool)

structure Lexer where
  tokens : List Token
  mode : Mode

def readWord (word : List Char) : Except Fault Json :=
  if word = ['n', 'u', 'l', 'l'] then .ok .null
  else if word = ['t', 'r', 'u', 'e'] then .ok (.bool true)
  else if word = ['f', 'a', 'l', 's', 'e'] then .ok (.bool false)
  else readNumber word

def isWordChar (c : Char) : Bool := c.isAlphanum || c == '+' || c == '-' || c == '.'

def Lexer.between (tokens : List Token) (c : Char) : Except Fault Lexer :=
  match c with
  | '[' => .ok ⟨.openArr :: tokens, .between⟩
  | ']' => .ok ⟨.closeArr :: tokens, .between⟩
  | ':' => .ok ⟨.colon :: tokens, .between⟩
  | ',' => .ok ⟨.comma :: tokens, .between⟩
  | '"' => .ok ⟨tokens, .quoted []⟩
  | c =>
    if c.toNat = 0x7B then .ok ⟨.openObj :: tokens, .between⟩
    else if c.toNat = 0x7D then .ok ⟨.closeObj :: tokens, .between⟩
    else if c = ' ' ∨ c = '\n' ∨ c = '\t' ∨ c = '\r' then .ok ⟨tokens, .between⟩
    else if isWordChar c then .ok ⟨tokens, .word [c]⟩
    else .error .malformed

/-- The mode after four hexadecimal digits: a leading surrogate waits for its partner. -/
def Mode.ofUnit (done : List Char) (lead : Option Nat) (unit : Nat) : Option Mode :=
  match lead with
  | some high =>
    if 0xDC00 ≤ unit ∧ unit ≤ 0xDFFF then
      some (.quoted (Char.ofNat (0x10000 + (high - 0xD800) * 0x400 + (unit - 0xDC00)) :: done))
    else none
  | none =>
    if 0xD800 ≤ unit ∧ unit ≤ 0xDBFF then some (.afterLead done unit false)
    else if 0xDC00 ≤ unit ∧ unit ≤ 0xDFFF then none
    else some (.quoted (Char.ofNat unit :: done))

def unescape? (c : Char) : Option Char :=
  match c with
  | '"' => some '"'
  | '\\' => some '\\'
  | '/' => some '/'
  | 'b' => some (Char.ofNat 8)
  | 'f' => some (Char.ofNat 12)
  | 'n' => some '\n'
  | 'r' => some '\r'
  | 't' => some '\t'
  | _ => none

def Lexer.step (s : Lexer) (c : Char) : Except Fault Lexer :=
  match s.mode with
  | .between => Lexer.between s.tokens c
  | .word done =>
    if isWordChar c then .ok { s with mode := .word (c :: done) }
    else do
      let value ← readWord done.reverse
      Lexer.between (.atom value :: s.tokens) c
  | .quoted done =>
    if c = '"' then .ok ⟨.text (String.ofList done.reverse) :: s.tokens, .between⟩
    else if c = '\\' then .ok { s with mode := .escaped done }
    else if c.toNat < 0x20 then .error .malformed
    else .ok { s with mode := .quoted (c :: done) }
  | .escaped done =>
    if c = 'u' then .ok { s with mode := .unicode done none [] }
    else
      match unescape? c with
      | some d => .ok { s with mode := .quoted (d :: done) }
      | none => .error .malformed
  | .unicode done lead digits =>
    let digits := digits ++ [c]
    match Text.number? 16 Text.hexDigit? 0 digits with
    | none => .error .malformed
    | some unit =>
      if digits.length < 4 then .ok { s with mode := .unicode done lead digits }
      else
        match Mode.ofUnit done lead unit with
        | some mode => .ok { s with mode }
        | none => .error .malformed
  | .afterLead done lead slash =>
    if c = '\\' ∧ slash = false then .ok { s with mode := .afterLead done lead true }
    else if c = 'u' ∧ slash = true then .ok { s with mode := .unicode done (some lead) [] }
    else .error .malformed

def Lexer.finish (s : Lexer) : Except Fault (List Token) :=
  match s.mode with
  | .between => .ok s.tokens.reverse
  | .word done => do
    let value ← readWord done.reverse
    return (.atom value :: s.tokens).reverse
  | _ => .error .malformed

def tokens (text : String) : Except Fault (List Token) := do
  let s ← text.toList.foldlM Lexer.step ⟨[], .between⟩
  s.finish

inductive Frame where
  | arr (items : List Json)
  | obj (members : List (String × Json)) (key : String)

inductive Expected where
  | value
  | itemOrClose
  | key (members : List (String × Json))
  | keyOrClose
  | colon (members : List (String × Json)) (key : String)
  | arrNext (items : List Json)
  | objNext (members : List (String × Json))
  | nothing (value : Json)

structure Parser where
  stack : List Frame
  expected : Expected

def Parser.deliver (value : Json) : List Frame → Parser
  | [] => ⟨[], .nothing value⟩
  | .arr items :: stack => ⟨stack, .arrNext (value :: items)⟩
  | .obj members key :: stack => ⟨stack, .objNext ((key, value) :: members)⟩

def maxDepth : Nat := 127

def closeObj (members : List (String × Json)) : Json :=
  ofObject (Dict.ofList members.reverse)

def Parser.step (s : Parser) (t : Token) : Except Fault Parser :=
  let startValue (stack : List Frame) : Except Fault Parser :=
    match t with
    | .atom value => .ok (deliver value stack)
    | .text text => .ok (deliver (.str text) stack)
    | .openArr => if stack.length < maxDepth then .ok ⟨stack, .itemOrClose⟩ else .error .tooDeep
    | .openObj => if stack.length < maxDepth then .ok ⟨stack, .keyOrClose⟩ else .error .tooDeep
    | _ => .error .malformed
  match s.expected, t with
  | .value, _ => startValue s.stack
  | .itemOrClose, .closeArr => .ok (deliver (.arr []) s.stack)
  | .itemOrClose, _ => startValue (.arr [] :: s.stack)
  | .keyOrClose, .closeObj => .ok (deliver (.obj []) s.stack)
  | .keyOrClose, .text key => .ok { s with expected := .colon [] key }
  | .key members, .text key => .ok { s with expected := .colon members key }
  | .colon members key, .colon => .ok ⟨.obj members key :: s.stack, .value⟩
  | .arrNext items, .comma => .ok ⟨.arr items :: s.stack, .value⟩
  | .arrNext items, .closeArr => .ok (deliver (.arr items.reverse) s.stack)
  | .objNext members, .comma => .ok { s with expected := .key members }
  | .objNext members, .closeObj => .ok (deliver (closeObj members) s.stack)
  | _, _ => .error .malformed

def Parser.finish (s : Parser) : Except Fault Json :=
  match s.expected with
  | .nothing value => .ok value
  | _ => .error .malformed

/-- The value that a text denotes. Of two members with one key the later stays, and containers nest
less than 128 deep. -/
def parse (text : String) : Except Fault Json := do
  let ts ← tokens text
  let s ← ts.foldlM Parser.step ⟨[], .value⟩
  s.finish

end TrafficSteering.Json
