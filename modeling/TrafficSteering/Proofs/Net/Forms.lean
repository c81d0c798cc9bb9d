import Mathlib.Data.List.Basic
import TrafficSteering.Net.Percent
import TrafficSteering.Text.Piece
import TrafficSteering.Text.Utf8

namespace TrafficSteering

open Text

namespace Text

theorem pieces_of_notMem {mark : Char} {cs : List Char} (h : mark ∉ cs) :
    pieces mark cs = [cs] := by
  induction cs with
  | nil => rfl
  | cons c rest ih =>
    obtain ⟨hc, hrest⟩ := not_or.1 (mt List.mem_cons.2 h)
    rw [pieces, if_neg (Ne.symm hc), ih hrest]

theorem pieces_append_mark (mark : Char) (cs rest : List Char) :
    pieces mark (cs ++ mark :: rest) = pieces mark cs ++ pieces mark rest := by
  induction cs with
  | nil => simp [pieces]
  | cons c cs ih =>
    rw [List.cons_append, pieces, pieces, ih]
    by_cases hc : c = mark
    · simp [hc]
    · rw [if_neg hc, if_neg hc]
      cases hcs : pieces mark cs with
      | nil => exact absurd hcs (pieces_ne_nil mark cs)
      | cons piece more => rfl

theorem pieces_intercalate {mark : Char} {l : List (List Char)} (hl : l ≠ [])
    (h : ∀ cs ∈ l, mark ∉ cs) : pieces mark (List.intercalate [mark] l) = l := by
  induction l with
  | nil => exact absurd rfl hl
  | cons cs rest ih =>
    obtain ⟨hcs, hrest⟩ := List.forall_mem_cons.1 h
    cases rest with
    | nil => simpa using pieces_of_notMem hcs
    | cons next more =>
      rw [List.intercalate_cons_cons, List.append_assoc, List.singleton_append,
        pieces_append_mark, pieces_of_notMem hcs, ih (List.cons_ne_nil next more) hrest]
      rfl

theorem ofUtf8?_utf8 (text : String) : ofUtf8? (utf8 text) = some text := by
  have hbytes : ByteArray.mk (utf8 text).toArray = text.toByteArray := by
    conv_rhs => rw [← String.ofList_toList (s := text), String.toByteArray_ofList, List.utf8Encode]
    apply ByteArray.ext
    rw [List.data_toByteArray, utf8]
  rw [ofUtf8?, hbytes, String.fromUTF8?, dif_pos text.isValidUTF8]
  rfl

end Text

namespace Net

theorem hexDigit?_upperHexDigit {n : Nat} (h : n < 16) : hexDigit? (upperHexDigit n) = some n := by
  revert n
  decide

theorem keeps_upperHexDigit {n : Nat} (h : n < 16) : Form.keeps (upperHexDigit n) = true := by
  revert n
  decide

theorem percentDecode_of_ne {c : Char} (h : c ≠ '%') (rest : List Char) :
    percentDecode (c :: rest) = String.utf8EncodeChar c ++ percentDecode rest := by
  rw [percentDecode]
  intro a b more hc
  exact absurd hc h

theorem percentDecode_percentByte (b : UInt8) (rest : List Char) :
    percentDecode (percentByte b ++ rest) = b :: percentDecode rest := by
  have hb := b.toNat_lt
  have hhigh : hexDigit? (upperHexDigit (b.toNat / 16)) = some (b.toNat / 16) :=
    hexDigit?_upperHexDigit (by omega)
  have hlow : hexDigit? (upperHexDigit (b.toNat % 16)) = some (b.toNat % 16) :=
    hexDigit?_upperHexDigit (by omega)
  have hvalue : 16 * (b.toNat / 16) + b.toNat % 16 = b.toNat := Nat.div_add_mod b.toNat 16
  simp only [percentByte, List.cons_append, List.nil_append, percentDecode, hhigh, hlow, hvalue,
    UInt8.ofNat_toNat]

theorem percentDecode_percentBytes (bytes : List UInt8) (rest : List Char) :
    percentDecode (bytes.flatMap percentByte ++ rest) = bytes ++ percentDecode rest := by
  induction bytes with
  | nil => rfl
  | cons b bytes ih =>
    rw [List.flatMap_cons, List.append_assoc, percentDecode_percentByte, ih, List.cons_append]

namespace Form

def plusToBlank (c : Char) : Char := if c = '+' then ' ' else c

/-- A text of a form; bytes that are no text are left out. -/
def decodeText (cs : List Char) : String :=
  (ofUtf8? (percentDecode (cs.map plusToBlank))).getD ""

def decodePair (cs : List Char) : String × String :=
  (decodeText (cs.takeWhile (· ≠ '=')), decodeText ((cs.dropWhile (· ≠ '=')).drop 1))

/-- The pairs of a form; pieces without a character do not count. -/
def decode (form : List Char) : List (String × String) :=
  ((pieces '&' form).filter fun piece ↦ !piece.isEmpty).map decodePair

def isWritten (c : Char) : Bool := keeps c || c == '+' || c == '%'

theorem keeps_of_mem_percentByte {b : UInt8} {c : Char} (h : c ∈ percentByte b) :
    c = '%' ∨ keeps c = true := by
  have hb := b.toNat_lt
  simp only [percentByte, List.mem_cons, List.not_mem_nil, or_false] at h
  obtain rfl | rfl | rfl := h
  · exact .inl rfl
  · exact .inr (keeps_upperHexDigit (by omega))
  · exact .inr (keeps_upperHexDigit (by omega))

theorem isWritten_encodeText {text : String} {c : Char} (h : c ∈ encodeText text) :
    isWritten c = true := by
  obtain ⟨d, -, hc⟩ := List.mem_flatMap.1 h
  rw [encodeChar] at hc
  split at hc
  · obtain rfl := List.mem_singleton.1 hc
    decide
  · split at hc
    · rename_i hkeeps
      obtain rfl := List.mem_singleton.1 hc
      simp [isWritten, hkeeps]
    · obtain ⟨b, -, hbyte⟩ := List.mem_flatMap.1 hc
      obtain rfl | hkeeps := keeps_of_mem_percentByte hbyte
      · decide
      · simp [isWritten, hkeeps]

theorem notMem_encodeText {c : Char} (h : isWritten c = false) (text : String) :
    c ∉ encodeText text := by
  intro hc
  rw [isWritten_encodeText hc] at h
  cases h

theorem plusToBlank_of_ne {c : Char} (h : c ≠ '+') : plusToBlank c = c := if_neg h

theorem percentDecode_encodeChar (c : Char) (rest : List Char) :
    percentDecode ((encodeChar c ++ rest).map plusToBlank) =
      String.utf8EncodeChar c ++ percentDecode (rest.map plusToBlank) := by
  rw [List.map_append, encodeChar]
  split
  · rename_i hc
    subst hc
    exact percentDecode_of_ne (by decide) _
  · split
    · rename_i hkeeps
      have hplus : c ≠ '+' := by
        rintro rfl
        cases hkeeps
      have hpercent : c ≠ '%' := by
        rintro rfl
        cases hkeeps
      rw [List.map_singleton, plusToBlank_of_ne hplus]
      exact percentDecode_of_ne hpercent _
    · have hplain : (percentChar c).map plusToBlank = percentChar c := by
        refine (List.map_congr_left fun d hd ↦ ?_).trans (List.map_id _)
        obtain ⟨b, -, hbyte⟩ := List.mem_flatMap.1 hd
        refine plusToBlank_of_ne ?_
        rintro rfl
        obtain hpercent | hkeeps := keeps_of_mem_percentByte hbyte
        · cases hpercent
        · cases hkeeps
      rw [hplain]
      exact percentDecode_percentBytes _ _

theorem decodeText_encodeText (text : String) : decodeText (encodeText text) = text := by
  have hbytes (cs : List Char) :
      percentDecode ((cs.flatMap encodeChar).map plusToBlank) =
        cs.flatMap String.utf8EncodeChar := by
    induction cs with
    | nil => rfl
    | cons c rest ih => rw [List.flatMap_cons, percentDecode_encodeChar, ih, List.flatMap_cons]
  rw [decodeText, encodeText, hbytes, ← utf8, ofUtf8?_utf8]
  rfl

theorem decodePair_encodePair (pair : String × String) : decodePair (encodePair pair) = pair := by
  have hmark : ∀ c ∈ encodeText pair.1, decide (c ≠ '=') = true := by
    intro c hc
    refine decide_eq_true fun heq ↦ ?_
    exact notMem_encodeText (by decide) pair.1 (heq ▸ hc)
  rw [decodePair, encodePair, List.takeWhile_append_of_pos hmark,
    List.dropWhile_append_of_pos hmark]
  simp [decodeText_encodeText]

/-- A form is read as it was written. -/
theorem decode_encode (pairs : List (String × String)) : decode (encode pairs) = pairs := by
  cases pairs with
  | nil => rfl
  | cons first rest =>
    have hmarks : ∀ cs ∈ (first :: rest).map encodePair, '&' ∉ cs := by
      intro cs hcs
      obtain ⟨pair, -, rfl⟩ := List.mem_map.1 hcs
      simp [encodePair, notMem_encodeText (c := '&') (by decide)]
    have hfull : ∀ cs ∈ (first :: rest).map encodePair, (!cs.isEmpty) = true := by
      intro cs hcs
      obtain ⟨pair, -, rfl⟩ := List.mem_map.1 hcs
      simp [encodePair]
    rw [decode, encode, pieces_intercalate (by simp) hmarks, List.filter_eq_self.2 hfull,
      List.map_map]
    exact List.map_id'' decodePair_encodePair _

end Form

end Net

end TrafficSteering
