import TrafficSteering.Proofs.Net.Segments

namespace TrafficSteering

open Text

namespace Net

theorem decimalDigit?_of_isDigit {c : Char} (h : c.isDigit = true) :
    decimalDigit? c = some (c.toNat - 48) := by
  have hrange : 48 ≤ c.val ∧ c.val ≤ 57 := by simpa [Char.isDigit] using h
  exact if_pos hrange

theorem number?_digits {cs : List Char} (h : ∀ c ∈ cs, c.isDigit = true) (n : Nat) :
    number? 10 decimalDigit? n cs = some (Nat.ofDigitChars 10 cs n) := by
  induction cs generalizing n with
  | nil => rfl
  | cons c rest ih =>
    obtain ⟨hc, hrest⟩ := List.forall_mem_cons.1 h
    have hvalue : n * 10 + (c.toNat - 48) = 10 * n + (c.toNat - '0'.toNat) := by
      rw [Nat.mul_comm]
      rfl
    simp only [number?, decimalDigit?_of_isDigit hc, ih hrest, Nat.ofDigitChars, List.foldl_cons,
      hvalue]

namespace Url

def portOf (scheme : String) (port : Nat) : Option Nat :=
  if port = defaultPort scheme then none else some port

theorem port?_toDigits {port : Nat} (h : port < 65536) (scheme : String) :
    port? scheme (some (Nat.toDigits 10 port)) = some (portOf scheme port) := by
  have hdigits : ∀ c ∈ Nat.toDigits 10 port, c.isDigit = true := fun c hc ↦
    Nat.isDigit_of_mem_toDigits (by decide) (by decide) hc
  have hnumber := number?_digits hdigits 0
  rw [Nat.ofDigitChars_toDigits (by decide) (by decide)] at hnumber
  cases hcs : Nat.toDigits 10 port with
  | nil => exact absurd hcs Nat.toDigits_ne_nil
  | cons c rest =>
    rw [hcs] at hdigits hnumber
    rw [port?, if_pos (List.all_eq_true.2 hdigits), hnumber]
    · simp only [if_pos h]
      rfl
    · intro heq
      cases heq

def isClosed (inBrackets : Bool) : List Char → Bool
  | [] => !inBrackets
  | c :: rest =>
    !(c == ':' && !inBrackets) &&
      isClosed (if c = '[' then true else if c = ']' then false else inBrackets) rest

theorem splitPort_of_isClosed {inBrackets : Bool} {host : List Char}
    (h : isClosed inBrackets host = true) (port : List Char) :
    splitPort inBrackets (host ++ ':' :: port) = (host, some port) := by
  induction host generalizing inBrackets with
  | nil =>
    rw [isClosed] at h
    simp only [List.nil_append, splitPort]
    simp_all
  | cons c rest ih =>
    rw [isClosed, Bool.and_eq_true] at h
    have hcolon : ¬(c = ':' ∧ inBrackets = false) := by
      rintro ⟨rfl, rfl⟩
      simp at h
    rw [List.cons_append, splitPort, if_neg hcolon]
    simp only [ih h.2]

/-- A text that names a host where it stands between slashes and a port. -/
structure IsHost (host name : String) : Prop where
  plain : ∀ c ∈ host.toList, 0x20 < c.toNat ∧ c ∉ "/\\?#@".toList
  closed : isClosed false host.toList = true
  parsed : Host.parse? host.toList = some name
  sendable : name.toList.any isUnsendable = false

def isIdChar (c : Char) : Bool := c.isAlphanum || c == '-' || c == '_'

def isPathChar (c : Char) : Bool := isIdChar c || c == '.' || c == '/'

theorem toNat_lt_of_isAlphanum {c : Char} (h : c.isAlphanum = true) : c.toNat < 128 := by
  have hlt (last : Char) (hlast : last.toNat < 128) (hle : c.val ≤ last.val) : c.toNat < 128 :=
    Nat.lt_of_le_of_lt (UInt32.le_iff_toNat_le.1 hle) hlast
  obtain hletter | hdigit := (Bool.or_eq_true c.isAlpha c.isDigit).mp h
  · obtain hupper | hlower := (Bool.or_eq_true c.isUpper c.isLower).mp hletter
    · exact hlt 'Z' (by decide) (of_decide_eq_true hupper).2
    · exact hlt 'z' (by decide) (of_decide_eq_true (Bool.and_eq_true _ _ ▸ hlower).2)
  · exact hlt '9' (by decide) (of_decide_eq_true (Bool.and_eq_true _ _ ▸ hdigit).2)

theorem toNat_lt_of_isPathChar {c : Char} (h : isPathChar c = true) : c.toNat < 128 := by
  simp only [isPathChar, isIdChar, Bool.or_eq_true, beq_iff_eq] at h
  obtain (((h | rfl) | rfl) | rfl) | rfl := h
  · exact toNat_lt_of_isAlphanum h
  all_goals decide

/-- What the parts of an address are told apart by does not occur in a path. -/
theorem plain_of_isPathChar {c : Char} (h : isPathChar c = true) :
    0x20 < c.toNat ∧ c ∉ "\\?#@".toList ∧ encodedInPath c = false := by
  have hall : ∀ n < 128, isPathChar (Char.ofNat n) = true →
      0x20 < (Char.ofNat n).toNat ∧ Char.ofNat n ∉ "\\?#@".toList ∧
        encodedInPath (Char.ofNat n) = false := by decide +kernel
  have hc := hall c.toNat (toNat_lt_of_isPathChar h)
  rw [Char.ofNat_toNat] at hc
  exact hc h

theorem percentEncode_of_plain {encoded : Char → Bool} {cs : List Char}
    (h : ∀ c ∈ cs, encoded c = false) : percentEncode encoded cs = cs := by
  induction cs with
  | nil => rfl
  | cons c rest ih =>
    obtain ⟨hc, hrest⟩ := List.forall_mem_cons.1 h
    have hhead : (if encoded c then percentChar c else [c]) = [c] := by simp [hc]
    rw [percentEncode, List.flatMap_cons, hhead, ← percentEncode, ih hrest, List.singleton_append]

theorem mem_pieces {mark c : Char} {cs piece : List Char} (hpiece : piece ∈ pieces mark cs)
    (hc : c ∈ piece) : c ∈ cs := by
  induction cs generalizing piece with
  | nil => simp_all [pieces]
  | cons d rest ih =>
    rw [pieces] at hpiece
    split at hpiece
    · obtain rfl | hpiece := List.mem_cons.1 hpiece
      · cases hc
      · exact List.mem_cons_of_mem d (ih hpiece hc)
    · split at hpiece
      · rename_i hrest
        exact absurd hrest (pieces_ne_nil mark rest)
      · rename_i first more hrest
        obtain rfl | hpiece := List.mem_cons.1 hpiece
        · obtain rfl | hc := List.mem_cons.1 hc
          · exact List.mem_cons_self
          · exact List.mem_cons_of_mem d (ih (hrest ▸ List.mem_cons_self) hc)
        · exact List.mem_cons_of_mem d (ih (hrest ▸ List.mem_cons_of_mem first hpiece) hc)

theorem segments_plain {path : List Char} (hpath : ∀ c ∈ path, isPathChar c = true)
    (hforth : ∀ segment ∈ pieces '/' path, isForth segment = true) :
    segments ('/' :: path) = (pieces '/' path).map String.ofList := by
  have hback : '\\' ∉ path := fun h ↦ by cases hpath _ h
  rw [segments, List.drop_one, List.tail_cons, slashesForward_of_plain hback,
    resolve_of_isForth hforth]
  refine List.map_congr_left fun segment hsegment ↦ congrArg String.ofList ?_
  exact percentEncode_of_plain fun c hc ↦
    (plain_of_isPathChar (hpath c (mem_pieces hsegment hc))).2.2

theorem isIdChar_toLower {c : Char} (h : isIdChar c = true) : isIdChar c.toLower = true := by
  have hall : ∀ n < 128, isIdChar (Char.ofNat n) = true →
      isIdChar (Char.ofNat n).toLower = true := by decide +kernel
  have hc := hall c.toNat (toNat_lt_of_isPathChar (by simp [isPathChar, h]))
  rw [Char.ofNat_toNat] at hc
  exact hc h

theorem isForth_of_isIdChar {segment : List Char} (h : ∀ c ∈ segment, isIdChar c = true) :
    isForth segment = true := by
  have hlower : ∀ c ∈ segment.map Char.toLower, isIdChar c = true := by
    intro c hc
    obtain ⟨d, hd, rfl⟩ := List.mem_map.1 hc
    exact isIdChar_toLower (h d hd)
  -- dot segments are written with dots or percent signs
  have hne {dots : List Char} (hdots : dots.all isIdChar = false) :
      segment.map Char.toLower ≠ dots := by
    rintro rfl
    cases (List.all_eq_true.2 hlower).symm.trans hdots
  simp only [isForth, isSingleDot, isDoubleDot, Bool.and_eq_true, Bool.not_eq_true',
    Bool.or_eq_false_iff, beq_eq_false_iff_ne]
  refine ⟨⟨hne ?_, hne ?_⟩, ⟨⟨hne ?_, hne ?_⟩, hne ?_⟩, hne ?_⟩ <;> decide

def endpoint (host : String) (port : Nat) : String := "http://" ++ host ++ ":" ++ toString port

def below (name : String) (port : Nat) (path : List String) : Url where
  scheme := "http"
  host := name
  port := portOf "http" port
  path := path
  query := none

theorem tidied_of_plain {cs : List Char} (h : ∀ c ∈ cs, 0x20 < c.toNat) : tidied cs = cs := by
  have hstart : cs.dropWhile (fun c ↦ decide (c.toNat ≤ 0x20)) = cs := by
    cases cs with
    | nil => rfl
    | cons c rest =>
      have hc := h c List.mem_cons_self
      exact List.dropWhile_cons_of_neg (by simpa using hc)
  rw [tidied, hstart]
  refine List.filter_eq_self.2 fun c hc ↦ decide_eq_true ⟨?_, ?_, ?_⟩
  all_goals
    rintro rfl
    exact absurd (h _ hc) (by decide)

theorem isTail_of_isPathChar {path : List Char} (h : ∀ c ∈ path, isPathChar c = true) :
    IsTail path where
  plain := by
    intro c hc hmark
    have hpath := h c hc
    simp only [String.reduceToList, List.mem_cons, List.not_mem_nil, or_false] at hmark
    obtain rfl | rfl | rfl | rfl := hmark <;> cases hpath
  ends last hlast := (plain_of_isPathChar (h last (List.mem_of_getLast? hlast))).1

theorem unquestioned {path : List Char} (h : ∀ c ∈ path, isPathChar c = true) :
    ∀ c ∈ path, decide (c ≠ '?') = true := by
  intro c hc
  refine decide_eq_true fun heq ↦ ?_
  cases h '?' (heq ▸ hc)

theorem pathPart_of_isPathChar {path : List Char} (h : ∀ c ∈ path, isPathChar c = true) :
    pathPart path = path :=
  List.takeWhile_eq_self_iff.2 (unquestioned h)

theorem queryPart_of_isPathChar {path : List Char} (h : ∀ c ∈ path, isPathChar c = true) :
    queryPart path = none := by
  rw [queryPart, List.dropWhile_eq_nil_iff.2 (unquestioned h)]

section

variable {host name : String} {port : Nat} {authority path : List Char}

theorem isPathChar_of_isDigit {c : Char} (h : c.isDigit = true) : isPathChar c = true := by
  simp [isPathChar, isIdChar, Char.isAlphanum, h]

/-- What stands between the slashes in front of an address and its path. -/
structure IsAuthority (cs : List Char) : Prop where
  full : cs ≠ []
  plain : ∀ c ∈ cs, 0x20 < c.toNat ∧ c ∉ "/\\?#@".toList

theorem IsHost.isAuthority (hhost : IsHost host name) (port : Nat) :
    IsAuthority (host.toList ++ ':' :: Nat.toDigits 10 port) where
  full := by simp
  plain := by
    intro c hc
    obtain hc | hc := List.mem_append.1 hc
    · exact hhost.plain c hc
    · obtain rfl | hc := List.mem_cons.1 hc
      · decide
      · have hdigit := Nat.isDigit_of_mem_toDigits (by decide) (by decide) hc
        obtain ⟨hcontrol, hmark, -⟩ := plain_of_isPathChar (isPathChar_of_isDigit hdigit)
        refine ⟨hcontrol, fun h ↦ ?_⟩
        obtain rfl | h := List.mem_cons.1 h
        · cases hdigit
        · exact hmark h

namespace IsAuthority

variable (h : IsAuthority authority)
include h

theorem ne (mark : Char) {c : Char} (hc : c ∈ authority) (hmark : mark ∈ "/\\?#@".toList) :
    c ≠ mark := fun heq ↦ (h.plain c hc).2 (heq ▸ hmark)

theorem dropWhile_slashes (path : List Char) :
    ('/' :: '/' :: (authority ++ '/' :: path)).dropWhile isSlash = authority ++ '/' :: path := by
  cases authority with
  | nil => exact absurd rfl h.full
  | cons c rest =>
    have hc : isSlash c = false := by
      simp [isSlash, h.ne '/' List.mem_cons_self (by decide),
        h.ne '\\' List.mem_cons_self (by decide)]
    change (c :: (rest ++ '/' :: path)).dropWhile isSlash = _
    rw [List.dropWhile_cons_of_neg (by simp [hc])]
    rfl

theorem not_ends : ∀ c ∈ authority, (!(isSlash c || c == '?')) = true := by
  intro c hc
  simp [isSlash, h.ne '/' hc (by decide), h.ne '\\' hc (by decide), h.ne '?' hc (by decide)]

theorem splitLast_at : splitLast '@' authority = none :=
  if_neg fun hmem ↦ h.ne '@' (List.contains_iff_mem.1 hmem) (by decide) rfl

end IsAuthority

theorem site?_endpoint (hhost : IsHost host name) (hport : port < 65536) :
    site? "http" (host.toList ++ ':' :: Nat.toDigits 10 port) = some (below name port []) := by
  simp only [site?, (hhost.isAuthority port).splitLast_at, splitPort_of_isClosed hhost.closed,
    hhost.parsed, port?_toDigits hport, Option.bind_eq_bind, Option.bind_some]
  rfl

theorem endpoint_append (host : String) (port : Nat) (path : List Char) :
    endpoint host port ++ "/" ++ String.ofList path =
      String.ofList (("http".toList ++ ':' :: '/' :: '/' ::
        (host.toList ++ ':' :: Nat.toDigits 10 port)) ++ '/' :: path) := by
  refine String.toList_inj.1 ?_
  simp [endpoint, String.toList_append]

theorem parse?_below (hhost : IsHost host name) (hport : port < 65536)
    (hpath : ∀ c ∈ path, isPathChar c = true)
    (hforth : ∀ segment ∈ pieces '/' path, isForth segment = true) :
    parse? (endpoint host port ++ "/" ++ String.ofList path) =
      some (below name port ((pieces '/' path).map String.ofList)) := by
  have hauthority := hhost.isAuthority port
  have hsite := site?_endpoint hhost hport
  rw [endpoint_append]
  generalize host.toList ++ ':' :: Nat.toDigits 10 port = authority at *
  have hbase : ∀ c ∈ "http".toList ++ ':' :: '/' :: '/' :: authority, 0x20 < c.toNat := by
    intro c hc
    obtain hc | hc := List.mem_append.1 (show c ∈ "http://".toList ++ authority from hc)
    · have hall : ("http://".toList.all fun c ↦ 0x20 < c.toNat) = true := by decide
      exact of_decide_eq_true (List.all_eq_true.1 hall c hc)
    · exact (hauthority.plain c hc).1
  have hscheme : scheme? (tidy (String.ofList
      (("http".toList ++ ':' :: '/' :: '/' :: authority) ++ '/' :: path))) =
        some ("http", '/' :: '/' :: (authority ++ '/' :: path)) := by
    rw [tidy_append (isTail_of_isPathChar hpath), tidied_of_plain hbase]
    rfl
  have hmarks : ∀ c ∈ authority, c ≠ '?' ∧ c ≠ '#' := fun c hc ↦
    ⟨hauthority.ne '?' hc (by decide), hauthority.ne '#' hc (by decide)⟩
  have hhash : '#' ∉ path := fun hmem ↦ by cases hpath _ hmem
  rw [parse?_of_scheme? hscheme (hauthority.dropWhile_slashes path) hmarks hhash,
    List.takeWhile_eq_self_iff.2 hauthority.not_ends,
    List.dropWhile_eq_nil_iff.2 hauthority.not_ends, hsite, pathPart_of_isPathChar hpath,
    queryPart_of_isPathChar hpath, List.nil_append, segments_plain hpath hforth]
  rfl

end

end Url

/-- An id of letters, digits, hyphens and underscores. -/
def IsPlain (id : String) : Prop := ∀ c ∈ id.toList, Url.isIdChar c = true

end Net

end TrafficSteering
