import TrafficSteering.Text.Digit

namespace TrafficSteering.Net

def upperHexDigit (n : Nat) : Char := (Nat.digitChar n).toUpper

def percentByte (b : UInt8) : List Char :=
  ['%', upperHexDigit (b.toNat / 16), upperHexDigit (b.toNat % 16)]

def percentChar (c : Char) : List Char := (String.utf8EncodeChar c).flatMap percentByte

def percentEncode (encoded : Char → Bool) (cs : List Char) : List Char :=
  cs.flatMap fun c ↦ if encoded c then percentChar c else [c]

/-- The bytes that a text stands for; a percent sign without two digits stands for itself. -/
def percentDecode : List Char → List UInt8
  | '%' :: a :: b :: rest =>
    match Text.hexDigit? a, Text.hexDigit? b with
    | some x, some y => UInt8.ofNat (16 * x + y) :: percentDecode rest
    | _, _ => String.utf8EncodeChar '%' ++ percentDecode (a :: b :: rest)
  | [] => []
  | c :: rest => String.utf8EncodeChar c ++ percentDecode rest

def isControl (c : Char) : Bool := c.toNat < 0x20 || 0x7E < c.toNat

def encodedInPath (c : Char) : Bool :=
  isControl c || " \"#<>?".toList.contains c || c.toNat == 0x60 || c.toNat == 0x7B ||
    c.toNat == 0x7D

def encodedInQuery (c : Char) : Bool :=
  isControl c || " \"#<>".toList.contains c || c.toNat == 0x27

namespace Form

def keeps (c : Char) : Bool := c.isAlphanum || "*-._".toList.contains c

def encodeChar (c : Char) : List Char :=
  if c = ' ' then ['+'] else if keeps c then [c] else percentChar c

def encodeText (text : String) : List Char := text.toList.flatMap encodeChar

def encodePair (pair : String × String) : List Char :=
  encodeText pair.1 ++ '=' :: encodeText pair.2

def encode (pairs : List (String × String)) : List Char :=
  List.intercalate ['&'] (pairs.map encodePair)

end Form

end TrafficSteering.Net
