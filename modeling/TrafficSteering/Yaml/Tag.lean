import TrafficSteering.Text.Digit
import TrafficSteering.Text.Utf8
import TrafficSteering.Yaml.Glyph

namespace TrafficSteering.Yaml

abbrev Tag : Type := List UInt8

namespace Tag

def null : Tag := Text.utf8 "tag:yaml.org,2002:null"

def int : Tag := Text.utf8 "tag:yaml.org,2002:int"

/-- What may stand in the part of a tag behind its handle. -/
def isSuffixChar (c : Char) : Bool := isNameChar c || ";/?:@&=+$.%!~*'()".toList.contains c

def isUriChar (c : Char) : Bool := isSuffixChar c || c == ',' || c == '[' || c == ']'

def further? (first : Nat) : Option Nat :=
  if first < 0x80 then some 0
  else if first / 0x20 = 6 then some 1
  else if first / 0x10 = 14 then some 2
  else if first / 0x08 = 30 then some 3
  else none

/-- The bytes of characters and escapes. The escapes of one character stand together; `owed` tells
how many of them are to come. -/
def bytes? (admits : Char → Bool) (owed : Nat) : List Char → Option Tag
  | [] => if owed = 0 then some [] else none
  | '%' :: a :: b :: rest => do
    let n := 16 * (← Text.hexDigit? a) + (← Text.hexDigit? b)
    let owed ←
      if owed = 0 then further? n else if n / 0x40 = 2 then some (owed - 1) else none
    return UInt8.ofNat n :: (← bytes? admits owed rest)
  | c :: rest =>
    if owed = 0 ∧ c ≠ '%' ∧ admits c = true then
      (bytes? admits 0 rest).map (String.utf8EncodeChar c ++ ·)
    else none

def scan? (admits : Char → Bool) (cs : List Char) : Option Tag :=
  (bytes? admits 0 cs).map fun t ↦ t.takeWhile (· ≠ 0)

def uri? (admits : Char → Bool) (cs : List Char) : Option Tag :=
  if cs.isEmpty then none else scan? admits cs

def isHandle (text : List Char) : Bool :=
  text == ['!'] || (1 < text.length && text.head? == some '!' && text.getLast? == some '!' &&
    (text.drop 1).dropLast.all isNameChar)

/-- A tag as it is written: the whole of it, or a handle and a suffix. -/
inductive Form where
  | whole (tag : Tag)
  | short (handle : String) (suffix : Tag)
deriving DecidableEq, Inhabited

/-- Between angle brackets the whole tag is written. A lone exclamation mark stands for itself. -/
def Form.parse? (text : List Char) : Option Form :=
  match text with
  | '!' :: '<' :: rest =>
    if rest.getLast? = some '>' then (uri? isUriChar rest.dropLast).map .whole else none
  | '!' :: rest =>
    let name := rest.takeWhile isNameChar
    match rest.dropWhile isNameChar with
    | '!' :: suffix =>
      (uri? isSuffixChar suffix).map (.short (String.ofList ('!' :: name ++ ['!'])))
    | _ =>
      (scan? isSuffixChar rest).map fun suffix ↦
        if suffix.isEmpty then .whole (Text.utf8 "!") else .short "!" suffix
  | _ => none

def Form.isOpen (text : List Char) : Bool := text[1]? == some '<' && !text.contains '>'

/-- Whether a tag, held backwards, goes on. A comma ends it in a flow collection, but not between
angle brackets. -/
def Form.goesOn (inFlow : Bool) (text : List Char) (c : Char) : Bool :=
  !endsToken (some c) && !(inFlow && c == ',' && !isOpen text.reverse)

end Tag

end TrafficSteering.Yaml
