import TrafficSteering.Text.Combining

namespace TrafficSteering.Text

def compositePairs : List ((Char × Char) × Char) :=
  composites.flatMap fun r ↦ r.entries.filterMap fun
    | (c, [a, b]) => some ((a, b), c)
    | _ => none

/-- A Korean syllable is made of a consonant, a vowel, and perhaps another consonant. -/
def syllableParts (i : Nat) : List Char :=
  let behind := if i % 28 = 0 then [] else [Char.ofNat (0x11A7 + i % 28)]
  Char.ofNat (0x1100 + i / 588) :: Char.ofNat (0x1161 + i % 588 / 28) :: behind

def parts : Nat → Char → List Char
  | 0, c => [c]
  | n + 1, c =>
    if 0xAC00 ≤ c.toNat ∧ c.toNat < 0xD7A4 then syllableParts (c.toNat - 0xAC00)
    else
      match compositePairs.find? (·.2 = c) with
      | some ((a, b), _) => parts n a ++ [b]
      | none => [c]

def decompose (cs : List Char) : List Char := cs.flatMap (parts 3)

/-- Puts a mark in front of the marks of higher classes; the text is held backwards. -/
def insertMark (c : Char) : List Char → List Char
  | [] => [c]
  | d :: done =>
    if 0 < combiningClass c ∧ combiningClass c < combiningClass d then d :: insertMark c done
    else c :: d :: done

def order (cs : List Char) : List Char := (cs.foldl (fun done c ↦ insertMark c done) []).reverse

def composeSyllable? (a b : Char) : Option Char :=
  let m := a.toNat
  let n := b.toNat
  if 0x1100 ≤ m ∧ m < 0x1113 ∧ 0x1161 ≤ n ∧ n < 0x1176 then
    some (Char.ofNat (0xAC00 + (m - 0x1100) * 588 + (n - 0x1161) * 28))
  else if 0xAC00 ≤ m ∧ m < 0xD7A4 ∧ (m - 0xAC00) % 28 = 0 ∧ 0x11A7 < n ∧ n < 0x11C3 then
    some (Char.ofNat (m + (n - 0x11A7)))
  else none

def composePair? (a b : Char) : Option Char :=
  match composeSyllable? a b with
  | some c => some c
  | none => compositePairs.lookup (a, b)

/-- A text in progress, held backwards: what is finished, the last character that is no mark, and
the marks behind it. -/
structure Composer where
  done : List Char := []
  base : Option Char := none
  marks : List Char := []

namespace Composer

def text (s : Composer) : List Char := s.marks ++ s.base.toList ++ s.done

def blocks (s : Composer) (c : Char) : Bool :=
  match s.marks with
  | [] => false
  | d :: _ => combiningClass c ≤ combiningClass d

def add (s : Composer) (c : Char) : Composer :=
  let composed := if s.blocks c then none else s.base.bind (composePair? · c)
  match composed with
  | some d => { s with base := some d }
  | none =>
    if combiningClass c = 0 then { done := s.text, base := some c }
    else { s with marks := c :: s.marks }

end Composer

/-- The form of all texts that differ only in how their characters are made up: a character stands
in place of its parts wherever there is one. -/
def compose (cs : List Char) : List Char :=
  ((order (decompose cs)).foldl Composer.add {}).text.reverse

end TrafficSteering.Text
