import Mathlib.Data.List.TakeWhile
import TrafficSteering.Net.Url
import TrafficSteering.Proofs.Net.Forms

namespace TrafficSteering

open Text

namespace Net

theorem percentDecode_percentEncode_append {encoded : Char → Bool} {cs : List Char}
    (h : '%' ∉ cs) (rest : List Char) : percentDecode (percentEncode encoded cs ++ rest) =
      cs.flatMap String.utf8EncodeChar ++ percentDecode rest := by
  induction cs with
  | nil => rfl
  | cons c cs ih =>
    obtain ⟨hc, hcs⟩ := List.ne_and_not_mem_of_not_mem_cons h
    rw [percentEncode, List.flatMap_cons, ← percentEncode, List.flatMap_cons, List.append_assoc,
      List.append_assoc, ← ih hcs]
    cases encoded c with
    | true => rw [if_pos rfl, percentChar, percentDecode_percentBytes]
    | false => rw [if_neg Bool.false_ne_true, List.singleton_append,
        percentDecode_of_ne (Ne.symm hc)]

theorem percentDecode_percentEncode {encoded : Char → Bool} {cs : List Char} (h : '%' ∉ cs) :
    percentDecode (percentEncode encoded cs) = cs.flatMap String.utf8EncodeChar := by
  have hdecoded : percentDecode (percentEncode encoded cs ++ []) = _ :=
    percentDecode_percentEncode_append h []
  rwa [List.append_nil, percentDecode, List.append_nil] at hdecoded

namespace Url

def encoded (segment : List Char) : String := String.ofList (percentEncode encodedInPath segment)

def pathPart (text : List Char) : List Char := text.takeWhile (· ≠ '?')

def queryPart (text : List Char) : Option String :=
  match text.dropWhile (· ≠ '?') with
  | '?' :: query => some (String.ofList (percentEncode encodedInQuery query))
  | _ => none

/-- What may stand behind an endpoint and a slash. -/
structure IsTail (text : List Char) : Prop where
  plain : ∀ c ∈ text, c ∉ "#\t\n\r".toList
  ends : ∀ last ∈ text.getLast?, 0x20 < last.toNat

namespace IsTail

variable {text : List Char}

theorem ne (h : IsTail text) {c mark : Char} (hc : c ∈ text) (hmark : mark ∈ "#\t\n\r".toList) :
    c ≠ mark :=
  fun heq ↦ h.plain c hc (heq ▸ hmark)

theorem slash (h : IsTail text) : IsTail ('/' :: text) where
  plain := List.forall_mem_cons.2 ⟨by decide, h.plain⟩
  ends := by
    intro last hlast
    cases text with
    | nil =>
      obtain rfl : '/' = last := Option.some.inj hlast
      decide
    | cons c rest => exact h.ends last (List.getLast?_cons_cons ▸ hlast)

theorem append {front : List Char} (h : IsTail text) (hfull : text ≠ [])
    (hfront : ∀ c ∈ front, c ∉ "#\t\n\r".toList) : IsTail (front ++ text) where
  plain := List.forall_mem_append.2 ⟨hfront, h.plain⟩
  ends := by
    rw [List.getLast?_append_of_ne_nil _ hfull]
    exact h.ends

end IsTail

structure IsTarget (text : List Char) : Prop extends IsTail text where
  straight : '\\' ∉ pathPart text
  rooted : ∃ rest, text = "v2.0".toList ++ '/' :: rest

theorem dropWhile_append_slash {p : Char → Bool} (hp : p '/' = false) (cs path : List Char) :
    (cs ++ '/' :: path).dropWhile p = cs.dropWhile p ++ '/' :: path := by
  rw [List.dropWhile_append]
  split
  · rename_i hnil
    rw [List.isEmpty_iff.1 hnil]
    exact List.dropWhile_cons_of_neg (by simp [hp])
  · rfl

theorem takeWhile_append_slash {p : Char → Bool} (hp : p '/' = false) (cs path : List Char) :
    (cs ++ '/' :: path).takeWhile p = cs.takeWhile p := by
  rw [List.takeWhile_append]
  split
  · rename_i hall
    rw [List.takeWhile_cons_of_neg (by simp [hp]), List.append_nil]
    exact (List.takeWhile_prefix p).eq_of_length hall |>.symm
  · rfl

def tidied (base : List Char) : List Char :=
  (base.dropWhile fun c ↦ c.toNat ≤ 0x20).filter fun c ↦ c ≠ '\t' ∧ c ≠ '\n' ∧ c ≠ '\r'

theorem tidy_append {text : List Char} (h : IsTail text) (base : List Char) :
    tidy (String.ofList (base ++ '/' :: text)) = tidied base ++ '/' :: text := by
  have hkept (front : List Char) :
      (front ++ '/' :: text).reverse.dropWhile (fun c ↦ decide (c.toNat ≤ 0x20)) =
        (front ++ '/' :: text).reverse := by
    obtain rfl | ⟨middle, last, rfl⟩ := List.eq_nil_or_concat' text
    · rw [List.reverse_append]
      exact List.dropWhile_cons_of_neg (by decide)
    · have hend : 0x20 < last.toNat := h.ends last (by simp)
      rw [← List.cons_append, ← List.append_assoc, List.reverse_append]
      exact List.dropWhile_cons_of_neg (by simpa using hend)
  have htext : ('/' :: text).filter (fun c ↦ c ≠ '\t' ∧ c ≠ '\n' ∧ c ≠ '\r') = '/' :: text := by
    refine List.filter_eq_self.2 fun c hc ↦ decide_eq_true ?_
    obtain rfl | hc := List.mem_cons.1 hc
    · decide
    · exact ⟨h.ne hc (by decide), h.ne hc (by decide), h.ne hc (by decide)⟩
  rw [tidy, String.toList_ofList, dropWhile_append_slash (by decide), hkept, List.reverse_reverse,
    List.filter_append, htext, tidied]

theorem scheme?_append (base : List Char) :
    (∀ path, scheme? (base ++ '/' :: path) = none) ∨
      ∃ scheme front, (∀ c ∈ front, c ∈ base) ∧
        ∀ path, scheme? (base ++ '/' :: path) = some (scheme, front ++ '/' :: path) := by
  have hslash : isSchemeChar '/' = false := by decide
  cases hbase : base.dropWhile isSchemeChar with
  | nil =>
    refine .inl fun path ↦ ?_
    rw [scheme?, dropWhile_append_slash hslash, hbase]
    rfl
  | cons c front =>
    have hfront : ∀ d ∈ front, d ∈ base := fun d hd ↦
      (List.dropWhile_sublist isSchemeChar).subset (hbase ▸ List.mem_cons_of_mem c hd)
    by_cases hc : c = ':'
    · subst hc
      by_cases hname : (base.takeWhile isSchemeChar).map Char.toLower = "http".toList ∨
          (base.takeWhile isSchemeChar).map Char.toLower = "https".toList
      · refine .inr ⟨String.ofList ((base.takeWhile isSchemeChar).map Char.toLower), front, hfront,
          fun path ↦ ?_⟩
        rw [scheme?, dropWhile_append_slash hslash, takeWhile_append_slash hslash, hbase]
        exact if_pos hname
      · refine .inl fun path ↦ ?_
        rw [scheme?, dropWhile_append_slash hslash, takeWhile_append_slash hslash, hbase]
        exact if_neg hname
    · refine .inl fun path ↦ ?_
      rw [scheme?, dropWhile_append_slash hslash, hbase, List.cons_append]
      split
      · rename_i heq
        exact absurd (List.cons.inj heq).1 hc
      · rfl

/-- A segment that does not lead back or stay where it is. -/
def isForth (segment : List Char) : Bool := !isSingleDot segment && !isDoubleDot segment

theorem resolve_forth {front : List (List Char)} (h : ∀ segment ∈ front, isForth segment = true)
    (done l : List (List Char)) :
    resolve done (front ++ l) = resolve (front.reverse ++ done) l := by
  induction front generalizing done with
  | nil => rfl
  | cons segment rest ih =>
    obtain ⟨hsegment, hrest⟩ := List.forall_mem_cons.1 h
    simp only [isForth, Bool.and_eq_true, Bool.not_eq_true'] at hsegment
    rw [List.cons_append, resolve]
    simp only [hsegment.1, hsegment.2, Bool.false_eq_true, if_false, ih hrest, List.reverse_cons,
      List.append_assoc, List.singleton_append]

theorem resolve_of_isForth {l : List (List Char)} (h : ∀ segment ∈ l, isForth segment = true)
    (done : List (List Char)) : resolve done l = done.reverse ++ l := by
  have hall := resolve_forth h done []
  rwa [List.append_nil, resolve, List.reverse_append, List.reverse_reverse] at hall

/-- What has been walked down in front of a path decides on where the path begins. -/
theorem resolve_append (front done : List (List Char)) :
    ∃ start, ∀ l, l ≠ [] → resolve done (front ++ l) = resolve start l := by
  induction front generalizing done with
  | nil => exact ⟨done, fun l _ ↦ rfl⟩
  | cons s front ih =>
    -- more follows, so a dot segment leaves nothing behind
    have hmore {l : List (List Char)} (hl : l ≠ []) : (front ++ l).isEmpty = false := by
      simp [hl]
    simp only [List.cons_append, resolve]
    cases isDoubleDot s with
    | true =>
      obtain ⟨start, hstart⟩ := ih (done.drop 1)
      exact ⟨start, fun l hl ↦ by simpa [hmore hl] using hstart l hl⟩
    | false =>
      cases isSingleDot s with
      | true =>
        obtain ⟨start, hstart⟩ := ih done
        exact ⟨start, fun l hl ↦ by simpa [hmore hl] using hstart l hl⟩
      | false => simpa using ih (s :: done)

/-- As many steps back as there have been forth lead to where they began. -/
theorem resolve_back (front done : List (List Char)) {l : List (List Char)} (hl : l ≠ []) :
    resolve (front ++ done) (List.replicate front.length "..".toList ++ l) = resolve done l := by
  induction front with
  | nil => rfl
  | cons s front ih =>
    have hmore : (List.replicate front.length "..".toList ++ l).isEmpty = false := by simp [hl]
    have hdots : isDoubleDot "..".toList = true := by decide
    rw [List.length_cons, List.replicate_succ, List.cons_append, List.cons_append, resolve,
      if_pos hdots, hmore, if_neg Bool.false_ne_true, List.drop_one, List.tail_cons, ih]

theorem slashesForward_of_plain {cs : List Char} (h : '\\' ∉ cs) : slashesForward cs = cs := by
  refine (List.map_congr_left fun c hc ↦ ?_).trans (List.map_id _)
  exact if_neg fun heq : c = '\\' ↦ h (heq ▸ hc)

theorem slashesForward_append {path : List Char} (h : '\\' ∉ path) (front : List Char) :
    slashesForward (front ++ '/' :: path) = slashesForward front ++ '/' :: path := by
  rw [slashesForward, List.map_append, List.map_cons, ← slashesForward, ← slashesForward,
    slashesForward_of_plain h]
  rfl

theorem segments_append (front : List Char) :
    ∃ start, ∀ path, '\\' ∉ path →
      segments (front ++ '/' :: path) = (resolve start (pieces '/' path)).map encoded := by
  cases front with
  | nil =>
    refine ⟨[], fun path h ↦ ?_⟩
    rw [segments, List.nil_append, List.drop_one, List.tail_cons, slashesForward_of_plain h]
    rfl
  | cons c front =>
    obtain ⟨start, hstart⟩ := resolve_append (pieces '/' (slashesForward front)) []
    refine ⟨start, fun path h ↦ ?_⟩
    rw [segments, List.cons_append, List.drop_one, List.tail_cons, slashesForward_append h,
      pieces_append_mark, hstart _ (pieces_ne_nil '/' path)]
    rfl

theorem mem_of_mem_tidied {base : List Char} {c : Char} (h : c ∈ tidied base) : c ∈ base :=
  (List.dropWhile_sublist _).subset (List.mem_of_mem_filter h)

def site? (scheme : String) (authority : List Char) : Option Url := do
  let authority := match splitLast '@' authority with
    | some (_, authority) => authority
    | none => authority
  let (host, port) := splitPort false authority
  let host ← Host.parse? host
  let port ← port? scheme port
  return { scheme, host, port, path := [], query := none }

theorem parse?_of_scheme? {text scheme : String} {front site tail : List Char}
    (hscheme : scheme? (tidy text) = some (scheme, front))
    (hslashes : front.dropWhile isSlash = site ++ '/' :: tail)
    (hsite : ∀ c ∈ site, c ≠ '?' ∧ c ≠ '#') (htail : '#' ∉ tail) :
    parse? text =
      (site? scheme (site.takeWhile fun c ↦ !(isSlash c || c == '?'))).map fun found ↦
        { found with
          path := segments
            ((site.dropWhile fun c ↦ !(isSlash c || c == '?')) ++ '/' :: pathPart tail)
          query := queryPart tail } := by
  have hends : (!(isSlash '/' || '/' == '?')) = false := by decide
  have hwhole : (site ++ '/' :: tail).takeWhile (· ≠ '#') = site ++ '/' :: tail := by
    refine List.takeWhile_eq_self_iff.2 fun c hc ↦ decide_eq_true ?_
    obtain hc | hc := List.mem_append.1 hc
    · exact (hsite c hc).2
    · obtain rfl | hc := List.mem_cons.1 hc
      · decide
      · exact fun heq ↦ htail (heq ▸ hc)
  have hquestion : ∀ c ∈ site.dropWhile fun c ↦ !(isSlash c || c == '?'),
      decide (c ≠ '?') = true := fun c hc ↦
    decide_eq_true (hsite c ((List.dropWhile_sublist _).subset hc)).1
  have hpath : ('/' :: tail).takeWhile (· ≠ '?') = '/' :: pathPart tail :=
    List.takeWhile_cons_of_pos rfl
  have hquery : ('/' :: tail).dropWhile (· ≠ '?') = tail.dropWhile (· ≠ '?') :=
    List.dropWhile_cons_of_pos rfl
  rw [parse?, hscheme]
  simp only [Option.bind_eq_bind, Option.bind_some, hslashes, hwhole,
    takeWhile_append_slash (p := fun c ↦ !(isSlash c || c == '?')) hends,
    dropWhile_append_slash (p := fun c ↦ !(isSlash c || c == '?')) hends,
    List.takeWhile_append_of_pos hquestion, List.dropWhile_append_of_pos hquestion, hpath, hquery,
    site?, Option.map_bind, Function.comp_def]
  rfl

/-- An endpoint of slashes alone makes the version of the service its host, which is none. -/
theorem parse?_slashes {base front text : List Char} {scheme : String} (h : IsTarget text)
    (hscheme : scheme? (tidied base ++ '/' :: text) = some (scheme, front ++ '/' :: text))
    (hfront : front.dropWhile isSlash = []) :
    parse? (String.ofList (base ++ '/' :: text)) = none := by
  obtain ⟨rest, hrest⟩ := h.rooted
  have hslashes : (front ++ '/' :: text).dropWhile isSlash = "v2.0".toList ++ '/' :: rest := by
    rw [List.dropWhile_append, hfront, hrest]
    rfl
  have htail : '#' ∉ rest := by
    intro hmem
    have htext : '#' ∈ text := by simp [hrest, hmem]
    exact h.ne htext (by decide) rfl
  have hhost : site? scheme "v2.0".toList = none := by
    have hnone : Host.parse? "v2.0".toList = none := by decide +kernel
    have hat : splitLast '@' "v2.0".toList = none := by decide
    have hport : splitPort false "v2.0".toList = ("v2.0".toList, none) := by decide
    simp only [site?, hat, hport, hnone, Option.bind_eq_bind, Option.bind_none]
  have hauthority : ("v2.0".toList.takeWhile fun c ↦ !(isSlash c || c == '?')) =
      "v2.0".toList := by decide
  rw [← tidy_append h.toIsTail] at hscheme
  rw [parse?_of_scheme? hscheme hslashes (by simp) htail, hauthority, hhost, Option.map_none]

/-- The address of what stands behind an endpoint: there is none, or else the endpoint has a site
and the path leads down from where the endpoint's own path has led. -/
theorem parse?_append {base : List Char} (hbase : ∀ c ∈ base, c ≠ '?' ∧ c ≠ '#') :
    (∀ text, IsTarget text → parse? (String.ofList (base ++ '/' :: text)) = none) ∨
      ∃ (site : Url) (start : List (List Char)), ∀ text, IsTarget text →
        parse? (String.ofList (base ++ '/' :: text)) = some { site with
          path := (resolve start (pieces '/' (pathPart text))).map encoded
          query := queryPart text } := by
  obtain hnone | ⟨scheme, front, hfront, hscheme⟩ := scheme?_append (tidied base)
  · refine .inl fun text h ↦ ?_
    rw [parse?, tidy_append h.toIsTail, hnone]
    rfl
  cases hsite : front.dropWhile isSlash with
  | nil => exact .inl fun text h ↦ parse?_slashes h (hscheme text) hsite
  | cons c site =>
    have hmarks : ∀ d ∈ c :: site, d ≠ '?' ∧ d ≠ '#' := fun d hd ↦
      hbase d (mem_of_mem_tidied (hfront d
        ((List.dropWhile_sublist isSlash).subset (hsite ▸ hd))))
    have hslashes (text : List Char) :
        (front ++ '/' :: text).dropWhile isSlash = (c :: site) ++ '/' :: text := by
      rw [List.dropWhile_append, hsite]
      rfl
    have htidy {text : List Char} (h : IsTarget text) :
        scheme? (tidy (String.ofList (base ++ '/' :: text))) =
          some (scheme, front ++ '/' :: text) := by
      rw [tidy_append h.toIsTail, hscheme]
    have hread {text : List Char} (h : IsTarget text) :=
      parse?_of_scheme? (htidy h) (hslashes text) hmarks fun hmem ↦ h.ne hmem (by decide) rfl
    obtain ⟨start, hstart⟩ :=
      segments_append ((c :: site).dropWhile fun c ↦ !(isSlash c || c == '?'))
    cases hfound : site? scheme ((c :: site).takeWhile fun c ↦ !(isSlash c || c == '?')) with
    | none => exact .inl fun text h ↦ by rw [hread h, hfound, Option.map_none]
    | some found =>
      refine .inr ⟨found, start, fun text h ↦ ?_⟩
      rw [hread h, hfound, Option.map_some, hstart _ h.straight]

def shown (text : List Char) : List Char :=
  percentEncode encodedInPath (pathPart text) ++
    (queryPart text).elim [] fun query ↦ '?' :: query.toList

theorem parts_cases (text : List Char) :
    (queryPart text = none ∧ pathPart text = text) ∨ ∃ query,
      queryPart text = some (String.ofList (percentEncode encodedInQuery query)) ∧
        text = pathPart text ++ '?' :: query := by
  have hparts : text = pathPart text ++ text.dropWhile (· ≠ '?') :=
    List.takeWhile_append_dropWhile.symm
  rw [queryPart]
  cases hrest : text.dropWhile (· ≠ '?') with
  | nil => exact .inl ⟨rfl, by rw [hrest, List.append_nil] at hparts; exact hparts.symm⟩
  | cons c query =>
    have hc : c = '?' := by
      have hne : text.dropWhile (· ≠ '?') ≠ [] := hrest ▸ List.cons_ne_nil c query
      have hstop := List.head_dropWhile_not (· ≠ '?') hne
      simpa only [hrest, List.head_cons, decide_eq_false_iff_not, not_not] using hstop
    subst hc
    exact .inr ⟨query, rfl, hrest ▸ hparts⟩

theorem percentDecode_shown {text : List Char} (h : '%' ∉ text) :
    percentDecode (shown text) = text.flatMap String.utf8EncodeChar := by
  obtain ⟨hquery, hpath⟩ | ⟨query, hquery, htext⟩ := parts_cases text
  · rw [shown, hquery, hpath, Option.elim_none, List.append_nil, percentDecode_percentEncode h]
  · have hpath : '%' ∉ pathPart text := fun hmem ↦ h ((List.takeWhile_prefix _).subset hmem)
    have hrest : '%' ∉ query := fun hmem ↦ h (htext ▸ by simp [hmem])
    conv_rhs => rw [htext, List.flatMap_append, List.flatMap_cons]
    rw [shown, hquery, Option.elim_some, String.toList_ofList,
      percentDecode_percentEncode_append hpath, percentDecode_of_ne (by decide),
      percentDecode_percentEncode hrest]

theorem eq_of_shown {a b : String} (ha : '%' ∉ a.toList) (hb : '%' ∉ b.toList)
    (h : shown a.toList = shown b.toList) : a = b := by
  have hbytes : utf8 a = utf8 b := by
    have hdecoded := congrArg percentDecode h
    rwa [percentDecode_shown ha, percentDecode_shown hb] at hdecoded
  have htext := congrArg ofUtf8? hbytes
  rw [ofUtf8?_utf8, ofUtf8?_utf8] at htext
  exact Option.some.inj htext

theorem intercalate_append_cons (mark : Char) (front cs : List Char) (l : List (List Char)) :
    List.intercalate [mark] ((front ++ cs) :: l) = front ++ List.intercalate [mark] (cs :: l) := by
  cases l with
  | nil => simp
  | cons next more => simp [List.append_assoc]

theorem intercalate_percentEncode (path : List Char) :
    List.intercalate ['/'] ((pieces '/' path).map (percentEncode encodedInPath)) =
      percentEncode encodedInPath path := by
  induction path with
  | nil => rfl
  | cons c rest ih =>
    rw [percentEncode, List.flatMap_cons, ← percentEncode, ← ih, pieces]
    cases hrest : pieces '/' rest with
    | nil => exact absurd hrest (pieces_ne_nil '/' rest)
    | cons piece more =>
      by_cases hc : c = '/'
      · subst hc
        rfl
      · rw [if_neg hc, List.map_cons, List.map_cons, ← intercalate_append_cons]
        rfl

theorem intercalate_encoded (path : List Char) :
    ("/".intercalate ((pieces '/' path).map encoded)).toList =
      percentEncode encodedInPath path := by
  have hlists : ((pieces '/' path).map encoded).map String.toList =
      (pieces '/' path).map (percentEncode encodedInPath) := by
    simp [encoded, Function.comp_def]
  rw [String.toList_intercalate, hlists]
  exact intercalate_percentEncode path

theorem intercalate_append_pieces (start : List (List Char)) :
    ∃ front, ∀ path, "/".intercalate ((start ++ pieces '/' path).map encoded) =
      front ++ "/".intercalate ((pieces '/' path).map encoded) := by
  cases start with
  | nil => exact ⟨"", fun path ↦ String.empty_append.symm⟩
  | cons segment rest =>
    refine ⟨"/".intercalate ((segment :: rest).map encoded) ++ "/", fun path ↦ ?_⟩
    rw [List.map_append, String.intercalate_append_of_ne_nil (by simp)
      (by simp [pieces_ne_nil '/' path])]

theorem toText_append (site : Url) (start : List (List Char)) :
    ∃ front, ∀ text, Url.toText { site with
        path := (start ++ pieces '/' (pathPart text)).map encoded
        query := queryPart text } = String.ofList (front ++ shown text) := by
  obtain ⟨front, hfront⟩ := intercalate_append_pieces start
  refine ⟨(Url.toText { site with path := [], query := none } ++ front).toList,
    fun text ↦ String.toList_inj.1 ?_⟩
  simp only [toText, hfront, shown, String.toList_append, intercalate_encoded,
    String.toList_ofList, List.append_assoc]
  cases queryPart text with
  | none => simp
  | some query => simp

/-- Where no segment leads back or stays where it is, an address shows all that stands behind an
endpoint, after a text of the endpoint's own. -/
theorem toText_of_isForth {base : List Char} (hbase : ∀ c ∈ base, c ≠ '?' ∧ c ≠ '#') :
    ∃ front, ∀ text, IsTarget text → (∀ segment ∈ pieces '/' (pathPart text), isForth segment) →
      ∀ url, parse? (String.ofList (base ++ '/' :: text)) = some url →
        url.toText = String.ofList (front ++ shown text) := by
  obtain hnone | ⟨site, start, hread⟩ := parse?_append hbase
  · refine ⟨[], fun text h _ url hurl ↦ ?_⟩
    rw [hnone text h] at hurl
    cases hurl
  · obtain ⟨front, hfront⟩ := toText_append site start.reverse
    refine ⟨front, fun text h hforth url hurl ↦ ?_⟩
    rw [hread text h, resolve_of_isForth hforth, Option.some.injEq] at hurl
    rw [← hurl, hfront]

end Url

end Net

end TrafficSteering
