namespace TrafficSteering.Text

/-- The characters with the Unicode property `White_Space`. -/
def isBlank (c : Char) : Bool :=
  let n := c.toNat
  (9 ≤ n && n ≤ 13) || n == 0x20 || n == 0x85 || n == 0xA0 || n == 0x1680 ||
    (0x2000 ≤ n && n ≤ 0x200A) || n == 0x2028 || n == 0x2029 || n == 0x202F || n == 0x205F ||
    n == 0x3000

def blank (text : String) : Bool := text.toList.all isBlank

def trimStart (cs : List Char) : List Char := cs.dropWhile isBlank

def trimEnd (cs : List Char) : List Char := (trimStart cs.reverse).reverse

def trim (text : String) : String := String.ofList (trimEnd (trimStart text.toList))

theorem blank_iff {text : String} : blank text = true ↔ ∀ c ∈ text.toList, isBlank c = true := by
  simp [blank]

theorem blank_empty : blank "" = true := by decide

theorem ne_empty_of_blank {text : String} (h : blank text = false) : text ≠ "" := by
  rintro rfl
  rw [blank_empty] at h
  cases h

end TrafficSteering.Text
