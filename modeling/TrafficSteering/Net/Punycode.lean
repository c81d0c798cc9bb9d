namespace TrafficSteering.Net.Punycode

def isAscii (c : Char) : Bool := c.toNat < 0x80

def digit (n : Nat) : Char := Char.ofNat (if n < 26 then 0x61 + n else 0x30 + (n - 26))

def digit? (c : Char) : Option Nat :=
  if 'a' ≤ c ∧ c ≤ 'z' then some (c.toNat - 0x61)
  else if 'A' ≤ c ∧ c ≤ 'Z' then some (c.toNat - 0x41)
  else if '0' ≤ c ∧ c ≤ '9' then some (c.toNat - 0x30 + 26)
  else none

def threshold (place bias : Nat) : Nat := min 26 (max 1 (place - bias))

theorem threshold_bounds (place bias : Nat) :
    1 ≤ threshold place bias ∧ threshold place bias ≤ 26 := by
  unfold threshold; omega

def biasOf (n : Nat) : Nat :=
  if 455 < n then biasOf (n / 35) + 36 else 36 * n / (n + 38)
termination_by n
decreasing_by omega

def adapt (n count : Nat) (first : Bool) : Nat :=
  let n := if first then n / 700 else n / 2
  biasOf (n + n / count)

def writeNumber (bias place n : Nat) : List Char :=
  let t := threshold place bias
  if n < t then [digit n]
  else digit (t + (n - t) % (36 - t)) :: writeNumber bias (place + 36) ((n - t) / (36 - t))
termination_by n
decreasing_by
  have ht := threshold_bounds place bias
  have := Nat.div_le_self (n - threshold place bias) (36 - threshold place bias)
  omega

/-- What is written so far, backwards. The ASCII characters of a label stand in front; the numbers
behind a dash tell where to put which of the others, in the order of the characters. -/
structure Writer where
  written : List Char := []
  /-- The steps since the last number. -/
  delta : Nat := 0
  bias : Nat := 72
  /-- How many characters are put. -/
  count : Nat

def Writer.pass (first code : Nat) (w : Writer) (c : Char) : Writer :=
  if c.toNat < code then { w with delta := w.delta + 1 }
  else if c.toNat = code then
    { written := (writeNumber w.bias 36 w.delta).reverse ++ w.written
      delta := 0
      bias := adapt w.delta (w.count + 1) (w.count == first)
      count := w.count + 1 }
  else w

def writeCodes (label : List Char) (first : Nat) (last : Nat) (w : Writer) : List Nat → Writer
  | [] => w
  | code :: rest =>
    let w := { w with delta := w.delta + (code - last) * (w.count + 1) }
    let w := label.foldl (Writer.pass first code) w
    writeCodes label first (code + 1) { w with delta := w.delta + 1 } rest

def encode (label : List Char) : List Char :=
  let ascii := label.filter isAscii
  let codes := ((label.filter (!isAscii ·)).map Char.toNat).mergeSort.eraseDups
  let w := writeCodes label ascii.length 0x80 { count := ascii.length } codes
  (if ascii.isEmpty then [] else ascii ++ ['-']) ++ w.written.reverse

structure Reader where
  chars : List Char
  code : Nat := 0x80
  bias : Nat := 72
  /-- The place to go on from. -/
  start : Nat := 0
  number : Nat := 0
  weight : Nat := 1
  place : Nat := 36

def Reader.put (r : Reader) : Option Reader :=
  let i := r.start + r.number
  let count := r.chars.length + 1
  let code := r.code + i / count
  if code.isValidChar then
    some {
      chars := r.chars.insertIdx (i % count) (Char.ofNat code)
      code
      bias := adapt r.number count (r.start == 0)
      start := i % count + 1 }
  else none

/-- Reads a digit. Numbers have to fit into 32 bits. -/
def Reader.step (r : Reader) (c : Char) : Option Reader := do
  let d ← digit? c
  let number := r.number + d * r.weight
  let t := threshold r.place r.bias
  if UInt32.size ≤ r.start + number then none
  else if d < t then Reader.put { r with number }
  else if UInt32.size ≤ r.weight * (36 - t) then none
  else some { r with number, weight := r.weight * (36 - t), place := r.place + 36 }

def split (label : List Char) : List Char × List Char :=
  let digits := (label.reverse.takeWhile (· ≠ '-')).reverse
  let ascii := label.take (label.length - digits.length)
  if ascii.length ≤ 1 then ([], label) else (ascii.dropLast, digits)

def decode? (label : List Char) : Option (List Char) := do
  let (ascii, digits) := split label
  if !ascii.all isAscii then none
  else
    let r ← digits.foldlM Reader.step { chars := ascii }
    if r.weight = 1 then some r.chars else none

end TrafficSteering.Net.Punycode
