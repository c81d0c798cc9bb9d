import TrafficSteering.Net.Host

namespace TrafficSteering.Net

open Text

/-- An absolute address in normal form, without credentials and fragment. -/
structure Url where
  scheme : String
  host : String
  port : Option Nat
  path : List String
  query : Option String
deriving DecidableEq, Inhabited

namespace Url

def isSlash (c : Char) : Bool := c == '/' || c == '\\'

def defaultPort (scheme : String) : Nat := if scheme = "https" then 443 else 80

def splitLast (c : Char) (cs : List Char) : Option (List Char × List Char) :=
  if cs.contains c then
    let back := cs.reverse
    some ((back.dropWhile (· ≠ c)).drop 1 |>.reverse, (back.takeWhile (· ≠ c)).reverse)
  else none

/-- The host and what follows its colon; colons within brackets belong to the host. -/
def splitPort (inBrackets : Bool) : List Char → List Char × Option (List Char)
  | [] => ([], none)
  | c :: rest =>
    if c = ':' ∧ inBrackets = false then ([], some rest)
    else
      let inBrackets := if c = '[' then true else if c = ']' then false else inBrackets
      let (host, port) := splitPort inBrackets rest
      (c :: host, port)

def port? (scheme : String) : Option (List Char) → Option (Option Nat)
  | none | some [] => some none
  | some ds =>
    if ds.all Char.isDigit then
      match number? 10 decimalDigit? 0 ds with
      | some n =>
        if n < 65536 then some (if n = defaultPort scheme then none else some n) else none
      | none => none
    else none

def isSingleDot (s : List Char) : Bool :=
  let s := s.map Char.toLower
  s == ['.'] || s == ['%', '2', 'e']

def isDoubleDot (s : List Char) : Bool :=
  let s := s.map Char.toLower
  s == ['.', '.'] || s == ['.', '%', '2', 'e'] || s == ['%', '2', 'e', '.'] ||
    s == ['%', '2', 'e', '%', '2', 'e']

/-- Walks down the segments; `done` is held backwards. A dot segment at the end leaves an empty
segment behind. -/
def resolve (done : List (List Char)) : List (List Char) → List (List Char)
  | [] => done.reverse
  | s :: rest =>
    if isDoubleDot s then
      resolve (if rest.isEmpty then [] :: done.drop 1 else done.drop 1) rest
    else if isSingleDot s then resolve (if rest.isEmpty then [] :: done else done) rest
    else resolve (s :: done) rest

def slashesForward (cs : List Char) : List Char := cs.map fun c ↦ if c = '\\' then '/' else c

def segments (cs : List Char) : List String :=
  (resolve [] (pieces '/' (slashesForward (cs.drop 1)))).map fun s ↦
    String.ofList (percentEncode encodedInPath s)

/-- Blanks and control characters at the ends, and tabs and line ends anywhere, do not count. -/
def tidy (text : String) : List Char :=
  let outer (c : Char) : Bool := c.toNat ≤ 0x20
  let cs := (text.toList.dropWhile outer).reverse.dropWhile outer
  cs.reverse.filter fun c ↦ c ≠ '\t' ∧ c ≠ '\n' ∧ c ≠ '\r'

def isSchemeChar (c : Char) : Bool := c.isAlphanum || c == '+' || c == '-' || c == '.'

def scheme? (cs : List Char) : Option (String × List Char) :=
  let name := (cs.takeWhile isSchemeChar).map Char.toLower
  match cs.dropWhile isSchemeChar with
  | ':' :: rest =>
    if name = "http".toList ∨ name = "https".toList then some (String.ofList name, rest) else none
  | _ => none

def parse? (text : String) : Option Url := do
  let (scheme, rest) ← scheme? (tidy text)
  let rest := (rest.dropWhile isSlash).takeWhile (· ≠ '#')
  let ends (c : Char) : Bool := isSlash c || c == '?'
  let authority := rest.takeWhile (!ends ·)
  let rest := rest.dropWhile (!ends ·)
  let authority := match splitLast '@' authority with
    | some (_, authority) => authority
    | none => authority
  let (host, port) := splitPort false authority
  let host ← Host.parse? host
  let port ← port? scheme port
  let query := match rest.dropWhile (· ≠ '?') with
    | '?' :: query => some (String.ofList (percentEncode encodedInQuery query))
    | _ => none
  return { scheme, host, port, path := segments (rest.takeWhile (· ≠ '?')), query }

/-- Appends the pairs of a form to the query; a query that stays empty is dropped. -/
def withForm (u : Url) (pairs : List (String × String)) : Url :=
  let form := String.ofList (Form.encode pairs)
  let query := match u.query, pairs with
    | none, [] => none
    | none, _ => some form
    | some text, [] => if text = "" then none else some text
    | some text, _ => some (if text = "" then form else text ++ "&" ++ form)
  { u with query }

def toText (u : Url) : String :=
  let port := match u.port with
    | none => ""
    | some n => ":" ++ toString n
  let query := match u.query with
    | none => ""
    | some text => "?" ++ text
  u.scheme ++ "://" ++ u.host ++ port ++ "/" ++ "/".intercalate u.path ++ query

def isUnsendable (c : Char) : Bool :=
  c == '"' || c.toNat == 0x60 || c.toNat == 0x7B || c.toNat == 0x7D

/-- Whether a request can be sent there. -/
def isSendable (u : Url) : Bool :=
  !u.host.toList.any isUnsendable && u.toText.utf8ByteSize < 65535

end Url

end TrafficSteering.Net
