import TrafficSteering.Text.Digit
import TrafficSteering.Text.Piece

namespace TrafficSteering.Text

/-- A row of a table. It begins with a character or the two ends of a run, in hexadecimal; what
belongs to them follows behind a colon, once for the whole run or for each of its characters. -/
structure Row where
  first : Nat
  last : Nat
  values : List (List Nat) := []

namespace Row

def hex (cs : List Char) : Nat := cs.foldl (fun n c ↦ 16 * n + (hexDigit? c).getD 0) 0

def readValues (cs : List Char) : List (List Nat) :=
  (pieces ',' cs).map fun value ↦ if value.isEmpty then [] else (pieces '.' value).map hex

def parse (cs : List Char) : Row :=
  let (run, values) := match pieces ':' cs with
    | run :: values :: _ => (run, readValues values)
    | run :: _ => (run, [])
    | [] => ([], [])
  match (pieces '-' run).map hex with
  | first :: last :: _ => { first, last, values }
  | first :: _ => { first, last := first + (values.length - 1), values }
  | [] => { first := 0, last := 0 }

def covers (r : Row) (c : Char) : Bool := r.first ≤ c.toNat && c.toNat ≤ r.last

/-- The characters that stand for one of the run. A value for the whole run belongs to its first
character, and the others follow. -/
def image? (r : Row) (c : Char) : Option (List Char) :=
  let i := c.toNat - r.first
  match r.values with
  | [[n]] => some [Char.ofNat (n + i)]
  | values => values[i]?.map (·.map Char.ofNat)

def entries (r : Row) : List (Char × List Char) :=
  r.values.zipIdx.map fun (value, i) ↦ (Char.ofNat (r.first + i), value.map Char.ofNat)

end Row

abbrev Table : Type := List Row

namespace Table

def ofText (text : String) : Table :=
  let words := pieces ' ' (text.toList.map fun c ↦ if c = '\n' then ' ' else c)
  (words.filter (!·.isEmpty)).map Row.parse

def row? (t : Table) (c : Char) : Option Row := t.find? (·.covers c)

def has (t : Table) (c : Char) : Bool := t.any (·.covers c)

def value? (t : Table) (c : Char) : Option Nat :=
  (t.row? c).bind fun r ↦ r.values.head?.bind List.head?

end Table

end TrafficSteering.Text
