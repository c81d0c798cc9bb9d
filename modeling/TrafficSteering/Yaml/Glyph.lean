import TrafficSteering.Yaml.Fault

namespace TrafficSteering.Yaml

def isBlank (c : Char) : Bool := c == ' ' || c == '\t'

/-- The end of a line: a unified one, or a separator of lines or paragraphs. -/
def isBreak (c : Char) : Bool := c == '\n' || c.toNat == 0x2028 || c.toNat == 0x2029

def isOrderMark (c : Char) : Bool := c.toNat == 0xFEFF

def endsToken : Option Char → Bool
  | none => true
  | some c => isBlank c || isBreak c

def isNameChar (c : Char) : Bool := c.isAlphanum || c == '_' || c == '-'

def mayStand (c : Char) : Bool :=
  let n := c.toNat
  n == 0x9 || n == 0xA || n == 0xD || (0x20 ≤ n && n ≤ 0x7E) || n == 0x85 ||
    (0xA0 ≤ n && n ≤ 0xFFFD) || 0x10000 ≤ n

def unifyLineEnds : List Char → List Char
  | '\r' :: '\n' :: rest => '\n' :: unifyLineEnds rest
  | c :: rest => (if c = '\r' ∨ c.toNat = 0x85 then '\n' else c) :: unifyLineEnds rest
  | [] => []

/-- A character and where it stands, once the ends of lines are unified. -/
structure Glyph where
  char : Char
  line : Nat
  column : Nat
  /-- The character behind it. -/
  next : Option Char
  /-- Whether the start or the end of a document is marked here. -/
  marksDocument : Bool

def isMarker : List Char → Bool
  | a :: b :: c :: rest => (a == '-' || a == '.') && a == b && b == c && endsToken rest.head?
  | _ => false

def place (line column : Nat) : List Char → List Glyph
  | [] => []
  | c :: rest =>
    { char := c, line, column, next := rest.head?
      marksDocument := column == 0 && isMarker (c :: rest) } ::
      if isBreak c then place (line + 1) 0 rest else place line (column + 1) rest

def glyphs (text : String) : Except Fault (List Glyph) :=
  let cs := text.toList
  if cs.all mayStand then .ok (place 0 0 (unifyLineEnds cs)) else .error .forbiddenCharacter

end TrafficSteering.Yaml
