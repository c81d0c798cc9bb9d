import Mathlib.Data.List.TakeWhile
import TrafficSteering.Json.Printer
import TrafficSteering.Json.Reader
import TrafficSteering.Proofs.Resource.Fields
import TrafficSteering.Proofs.Text.Digits

namespace TrafficSteering

open Text

/-- The text of the number denotes the number again, which rounding in its reader can prevent. -/
def Decimal.Binary64.readsBack (x : Binary64) : Bool :=
  match Json.parse x.toText with
  | .ok (.real y) => x = y
  | _ => false

namespace Json

mutual

/-- How many containers stand inside one another. -/
def depth : Json → Nat
  | .arr items => itemsDepth items + 1
  | .obj members => membersDepth members + 1
  | _ => 0

def itemsDepth : List Json → Nat
  | [] => 0
  | item :: rest => max (depth item) (itemsDepth rest)

def membersDepth : List (String × Json) → Nat
  | [] => 0
  | (_, value) :: rest => max (depth value) (membersDepth rest)

end

mutual

/-- Whole numbers have 64 bits, other numbers survive as text, and members stand in order. -/
def isFaithful : Json → Bool
  | .int value => decide (-UInt64.size ≤ 2 * value) && decide (value < UInt64.size)
  | .real value => value.readsBack
  | .arr items => areFaithful items
  | .obj members => decide (Entries.Sorted members) && membersFaithful members
  | _ => true

def areFaithful : List Json → Bool
  | [] => true
  | item :: rest => isFaithful item && areFaithful rest

def membersFaithful : List (String × Json) → Bool
  | [] => true
  | (_, value) :: rest => isFaithful value && membersFaithful rest

end

mutual

def toTokens : Json → List Token
  | .str text => [.text text]
  | .arr items => .openArr :: (itemTokens items ++ [.closeArr])
  | .obj members => .openObj :: (memberTokens members ++ [.closeObj])
  | value => [.atom value]

def itemTokens : List Json → List Token
  | [] => []
  | [item] => toTokens item
  | item :: rest => toTokens item ++ .comma :: itemTokens rest

def memberTokens : List (String × Json) → List Token
  | [] => []
  | [(key, value)] => .text key :: .colon :: toTokens value
  | (key, value) :: rest =>
    .text key :: .colon :: (toTokens value ++ .comma :: memberTokens rest)

end

section

def lex (s : Lexer) (cs : List Char) : Except Fault (List Token) := do
  (← cs.foldlM Lexer.step s).finish

theorem lex_step {s s' : Lexer} {c : Char} (h : s.step c = .ok s') (cs : List Char) :
    lex s (c :: cs) = lex s' cs := by
  rw [lex, lex, List.foldlM_cons, h]
  rfl

def Ended : List Char → Prop
  | [] => True
  | c :: _ => isWordChar c = false

theorem between_wordChar {c : Char} (h : isWordChar c = true) (ts : List Token) :
    Lexer.between ts c = .ok ⟨ts, .word [c]⟩ := by
  unfold Lexer.between
  split
  iterate 5 cases h
  have hopen : c.toNat ≠ 0x7B := fun hc ↦ by
    rw [← Char.ofNat_toNat c, hc] at h
    cases h
  have hclose : c.toNat ≠ 0x7D := fun hc ↦ by
    rw [← Char.ofNat_toNat c, hc] at h
    cases h
  have hblank : ¬ (c = ' ' ∨ c = '\n' ∨ c = '\t' ∨ c = '\r') := by
    rintro (rfl | rfl | rfl | rfl) <;> cases h
  rw [if_neg hopen, if_neg hclose, if_neg hblank, if_pos h]

theorem lex_inWord {w : List Char} (hw : w.all isWordChar = true) (ts : List Token)
    (done cs : List Char) :
    lex ⟨ts, .word done⟩ (w ++ cs) = lex ⟨ts, .word (w.reverse ++ done)⟩ cs := by
  induction w generalizing done with
  | nil => rfl
  | cons c w ih =>
    rw [List.all_cons, Bool.and_eq_true_iff] at hw
    obtain ⟨hc, hw⟩ := hw
    have hstep : Lexer.step ⟨ts, .word done⟩ c = .ok ⟨ts, .word (c :: done)⟩ := by
      simp only [Lexer.step, hc, if_true]
    rw [List.cons_append, lex_step hstep, ih hw, List.reverse_cons, List.append_assoc]
    rfl

theorem lex_word {w : List Char} (hw : w.all isWordChar = true) (hne : w ≠ [])
    (ts : List Token) {cs : List Char} (hcs : Ended cs) :
    lex ⟨ts, .between⟩ (w ++ cs) =
      readWord w >>= fun value ↦ lex ⟨.atom value :: ts, .between⟩ cs := by
  obtain ⟨first, more, rfl⟩ := List.exists_cons_of_ne_nil hne
  rw [List.all_cons, Bool.and_eq_true_iff] at hw
  obtain ⟨hfirst, hmore⟩ := hw
  have hdone : (more.reverse ++ [first]).reverse = first :: more := by simp
  have hstart : Lexer.step ⟨ts, .between⟩ first = .ok ⟨ts, .word [first]⟩ :=
    between_wordChar hfirst ts
  rw [List.cons_append, lex_step hstart, lex_inWord hmore]
  cases cs with
  | nil =>
    simp only [lex, List.foldlM_nil, pure, Except.pure, bind, Except.bind, Lexer.finish, hdone]
  | cons c cs =>
    have hc : isWordChar c = false := hcs
    simp only [lex, List.foldlM_cons, Lexer.step, hc, hdone, Bool.false_eq_true, if_false]
    cases readWord (first :: more) <;> rfl

theorem lex_atom {w : List Char} (hw : w.all isWordChar = true) (hne : w ≠ [])
    {value : Json} (hread : readWord w = .ok value) (ts : List Token) {cs : List Char}
    (hcs : Ended cs) : lex ⟨ts, .between⟩ (w ++ cs) = lex ⟨.atom value :: ts, .between⟩ cs := by
  rw [lex_word hw hne ts hcs, hread]
  rfl

theorem lex_escaped {c d : Char} (h : unescape? d = some c) (hd : d ≠ 'u') (ts : List Token)
    (done cs : List Char) :
    lex ⟨ts, .quoted done⟩ ('\\' :: d :: cs) = lex ⟨ts, .quoted (c :: done)⟩ cs := by
  have hslash : Lexer.step ⟨ts, .quoted done⟩ '\\' = .ok ⟨ts, .escaped done⟩ := rfl
  have hstep : Lexer.step ⟨ts, .escaped done⟩ d = .ok ⟨ts, .quoted (c :: done)⟩ := by
    simp only [Lexer.step, if_neg hd, h]
  rw [lex_step hslash, lex_step hstep]

theorem lex_digit {digits : List Char} {c : Char} {n : Nat}
    (h : number? 16 hexDigit? 0 (digits ++ [c]) = some n) (hshort : digits.length < 3)
    (ts : List Token) (done cs : List Char) :
    lex ⟨ts, .unicode done none digits⟩ (c :: cs) =
      lex ⟨ts, .unicode done none (digits ++ [c])⟩ cs := by
  have hlength : (digits ++ [c]).length < 4 := by
    rw [List.length_append]
    exact Nat.succ_lt_succ hshort
  refine lex_step ?_ cs
  simp only [Lexer.step, h, if_pos hlength]

theorem lex_control {c : Char} (hc : c.toNat < 0x20) (ts : List Token) (done cs : List Char) :
    lex ⟨ts, .quoted done⟩ ('\\' :: 'u' :: '0' :: '0' :: Nat.digitChar (c.toNat / 16) ::
      Nat.digitChar (c.toNat % 16) :: cs) = lex ⟨ts, .quoted (c :: done)⟩ cs := by
  have hcodes : ∀ n < 0x20,
      number? 16 hexDigit? 0 ['0', '0', Nat.digitChar (n / 16)] = some (n / 16) ∧
      number? 16 hexDigit? 0 ['0', '0', Nat.digitChar (n / 16), Nat.digitChar (n % 16)] =
        some n := by decide
  obtain ⟨hthird, hfourth⟩ := hcodes c.toNat hc
  have hunit : Mode.ofUnit done none c.toNat = some (.quoted (c :: done)) := by
    rw [Mode.ofUnit, if_neg (by omega), if_neg (by omega), Char.ofNat_toNat]
  have hlast : Lexer.step ⟨ts, .unicode done none ['0', '0', Nat.digitChar (c.toNat / 16)]⟩
      (Nat.digitChar (c.toNat % 16)) = .ok ⟨ts, .quoted (c :: done)⟩ := by
    simp only [Lexer.step, List.cons_append, List.nil_append, hfourth, hunit]
    rfl
  have hslash : Lexer.step ⟨ts, .quoted done⟩ '\\' = .ok ⟨ts, .escaped done⟩ := rfl
  have hmark : Lexer.step ⟨ts, .escaped done⟩ 'u' = .ok ⟨ts, .unicode done none []⟩ := rfl
  have hzero : number? 16 hexDigit? 0 ['0'] = some 0 := by decide
  have hzeros : number? 16 hexDigit? 0 ['0', '0'] = some 0 := by decide
  rw [lex_step hslash, lex_step hmark, lex_digit hzero (by decide), List.nil_append,
    lex_digit hzeros (by decide), lex_digit hthird (by decide)]
  exact lex_step hlast cs

theorem lex_escape (c : Char) (ts : List Token) (done cs : List Char) :
    lex ⟨ts, .quoted done⟩ (escape c ++ cs) = lex ⟨ts, .quoted (c :: done)⟩ cs := by
  unfold escape
  split
  iterate 5 exact lex_escaped rfl (by decide) ts done cs
  rename_i hquote hslash _ _ _
  split
  · rename_i hc
    rw [← Char.ofNat_toNat c, hc]
    exact lex_escaped rfl (by decide) ts done cs
  · split
    · rename_i hc
      rw [← Char.ofNat_toNat c, hc]
      exact lex_escaped rfl (by decide) ts done cs
    · split
      · rename_i hc
        exact lex_control hc ts done cs
      · rename_i hc
        refine lex_step ?_ cs
        simp only [Lexer.step, if_neg hquote, if_neg hslash, if_neg hc]

theorem lex_quote (text : String) (ts : List Token) (cs : List Char) :
    lex ⟨ts, .between⟩ ((quote text).toList ++ cs) = lex ⟨.text text :: ts, .between⟩ cs := by
  have hinside (rest done : List Char) : lex ⟨ts, .quoted done⟩ (rest.flatMap escape ++ '"' :: cs) =
      lex ⟨.text (String.ofList (done.reverse ++ rest)) :: ts, .between⟩ cs := by
    induction rest generalizing done with
    | nil =>
      rw [List.append_nil]
      exact lex_step rfl cs
    | cons c rest ih =>
      rw [List.flatMap_cons, List.append_assoc, lex_escape, ih, List.reverse_cons,
        List.append_assoc]
      rfl
  have hopen : Lexer.step ⟨ts, .between⟩ '"' = .ok ⟨ts, .quoted []⟩ := rfl
  rw [quote, String.toList_ofList, List.cons_append, List.cons_append, lex_step hopen,
    List.append_assoc, List.singleton_append, hinside, List.reverse_nil, List.nil_append,
    String.ofList_toList]

theorem digitsValue_toDigits (n : Nat) : digitsValue (Nat.toDigits 10 n) = n := by
  have hdigit : ∀ d < 10, (Nat.digitChar d).toNat - 48 = d := by decide
  induction n using toDigits_induction (show 1 < 10 by decide) with
  | last d hd hdigits =>
    rw [hdigits, digitsValue, List.foldl_cons, List.foldl_nil, hdigit d hd]
    omega
  | more n _ hdigits ih =>
    rw [hdigits, digitsValue, List.foldl_append, List.foldl_cons, List.foldl_nil,
      hdigit _ (Nat.mod_lt n (by decide)), ← digitsValue, ih]
    omega

theorem isDigit_toDigits (n : Nat) : ∀ c ∈ Nat.toDigits 10 n, c.isDigit = true :=
  fun _ ↦ Nat.isDigit_of_mem_toDigits (by decide) (by decide)

theorem isWordChar_of_isDigit {c : Char} (h : c.isDigit = true) : isWordChar c = true := by
  simp [isWordChar, Char.isAlphanum, h]

theorem all_isWordChar {cs : List Char} (h : ∀ c ∈ cs, c.isDigit = true) :
    cs.all isWordChar = true :=
  List.all_eq_true.2 fun c hc ↦ isWordChar_of_isDigit (h c hc)

theorem readNumber_digits (n : Nat) :
    (n < UInt64.size → readNumber (Nat.toDigits 10 n) = .ok (.int n)) ∧
      (0 < n → 2 * n ≤ UInt64.size → readNumber ('-' :: Nat.toDigits 10 n) = .ok (.int (-n))) := by
  have hdigits := isDigit_toDigits n
  have hwhole : (Nat.toDigits 10 n).takeWhile Char.isDigit = Nat.toDigits 10 n :=
    List.takeWhile_eq_self_iff.2 hdigits
  have hrest : (Nat.toDigits 10 n).dropWhile Char.isDigit = [] :=
    List.dropWhile_eq_nil_iff.2 hdigits
  have hform : ((Nat.toDigits 10 n).isEmpty || ((Nat.toDigits 10 n).head? == some '0' &&
      decide (1 < (Nat.toDigits 10 n).length))) = false := by
    have hne : (Nat.toDigits 10 n).isEmpty = false := by simp [Nat.toDigits_ne_nil]
    rw [hne, Bool.false_or, Bool.and_eq_false_iff]
    by_cases hlong : 1 < (Nat.toDigits 10 n).length
    · exact .inl (beq_false_of_ne (head?_toDigits_of_long (by decide) (by decide) hlong))
    · exact .inr (decide_eq_false hlong)
  constructor
  · intro hn
    have hsign : splitSign (Nat.toDigits 10 n) = (false, Nat.toDigits 10 n) := by
      unfold splitSign
      split
      · rename_i heq
        rw [heq] at hdigits
        cases hdigits '-' List.mem_cons_self
      · rfl
    simp only [readNumber, hsign, hwhole, hrest, hform, digitsValue_toDigits, Bool.false_eq_true,
      if_false, Bool.not_false, Bool.true_and, decide_eq_true hn, if_true]
  · intro hpos hn
    simp only [readNumber, splitSign, hwhole, hrest, hform, digitsValue_toDigits,
      Bool.false_eq_true, if_false, Bool.not_true, Bool.false_and, Bool.true_and,
      decide_eq_true hpos, decide_eq_true hn, if_true]

theorem readWord_of_head {c : Char} {w : List Char} (h : c ∉ ['n', 't', 'f']) :
    readWord (c :: w) = readNumber (c :: w) := by
  have hnot (d : Char) (ds : List Char) (hd : d ∈ ['n', 't', 'f']) : c :: w ≠ d :: ds :=
    fun heq ↦ h ((List.cons.inj heq).1 ▸ hd)
  rw [readWord, if_neg (hnot _ _ (by decide)), if_neg (hnot _ _ (by decide)),
    if_neg (hnot _ _ (by decide))]

theorem lex_int {value : Int} (h : (Json.int value).isFaithful = true) (ts : List Token)
    {cs : List Char} (hcs : Ended cs) :
    lex ⟨ts, .between⟩ ((toString value).toList ++ cs) =
      lex ⟨.atom (.int value) :: ts, .between⟩ cs := by
  obtain ⟨hlow, hhigh⟩ := Bool.and_eq_true_iff.1 h
  rw [decide_eq_true_iff] at hlow hhigh
  cases value with
  | ofNat n =>
    have htext : (toString (Int.ofNat n)).toList = Nat.toDigits 10 n := String.toList_ofList
    have hread : readWord (Nat.toDigits 10 n) = .ok (.int n) := by
      obtain ⟨c, w, hw⟩ := List.exists_cons_of_ne_nil (Nat.toDigits_ne_nil (b := 10) (n := n))
      have hnumber := (readNumber_digits n).1 (Int.ofNat_lt.1 hhigh)
      have hdigit : c.isDigit = true := isDigit_toDigits n c (hw ▸ List.mem_cons_self)
      rw [hw] at hnumber ⊢
      rw [readWord_of_head, hnumber]
      simp only [List.mem_cons, List.not_mem_nil, or_false]
      rintro (rfl | rfl | rfl) <;> cases hdigit
    rw [htext]
    exact lex_atom (all_isWordChar (isDigit_toDigits n)) Nat.toDigits_ne_nil hread ts hcs
  | negSucc n =>
    have htext : (toString (Int.negSucc n)).toList = '-' :: Nat.toDigits 10 (n + 1) := by
      have hrepr : toString (Int.negSucc n) = "-" ++ String.ofList (Nat.toDigits 10 (n + 1)) := rfl
      rw [hrepr, String.toList_append]
      exact congrArg ('-' :: ·) String.toList_ofList
    have hfits : 2 * (n + 1) ≤ UInt64.size := by
      simp only [UInt64.size] at hlow ⊢
      omega
    have hread : readWord ('-' :: Nat.toDigits 10 (n + 1)) = .ok (.int (Int.negSucc n)) := by
      rw [readWord_of_head (by decide)]
      exact (readNumber_digits (n + 1)).2 (Nat.succ_pos n) hfits
    have hword : ('-' :: Nat.toDigits 10 (n + 1)).all isWordChar = true := by
      rw [List.all_cons, all_isWordChar (isDigit_toDigits _)]
      rfl
    rw [htext]
    exact lex_atom hword (List.cons_ne_nil _ _) hread ts hcs

end

def build (s : Parser) (ts : List Token) : Except Fault Json := do
  (← ts.foldlM Parser.step s).finish

theorem build_step {s s' : Parser} {t : Token} (h : s.step t = .ok s') (ts : List Token) :
    build s (t :: ts) = build s' ts := by
  rw [build, build, List.foldlM_cons, h]
  rfl

theorem parse_eq (text : String) :
    parse text = lex ⟨[], .between⟩ text.toList >>= build ⟨[], .value⟩ := rfl

def IsWord (text : String) : Prop := text.toList.all isWordChar = true

theorem IsWord.append {s t : String} (hs : IsWord s) (ht : IsWord t) : IsWord (s ++ t) := by
  rw [IsWord, String.toList_append, List.all_append, Bool.and_eq_true_iff]
  exact ⟨hs, ht⟩

theorem IsWord.ofList {cs : List Char} (h : ∀ c ∈ cs, c.isDigit = true) :
    IsWord (String.ofList cs) := by
  rw [IsWord, String.toList_ofList]
  exact all_isWordChar h

theorem IsWord.zeros (n : Nat) : IsWord (Decimal.zeros n) :=
  .ofList fun _ hc ↦ List.eq_of_mem_replicate hc ▸ rfl

theorem isWord_toString (value : Int) : IsWord (toString value) := by
  cases value with
  | ofNat n => exact .ofList (isDigit_toDigits n)
  | negSucc n => exact .append (s := "-") rfl (.ofList (isDigit_toDigits (n + 1)))

theorem Scientific.isWord_toText (s : Decimal.Scientific) : IsWord s.toText := by
  have hdigits := isDigit_toDigits s.digits
  have htake (n : Nat) : IsWord (String.ofList ((Nat.toDigits 10 s.digits).take n)) :=
    .ofList fun c hc ↦ hdigits c (List.mem_of_mem_take hc)
  have hdrop (n : Nat) : IsWord (String.ofList ((Nat.toDigits 10 s.digits).drop n)) :=
    .ofList fun c hc ↦ hdigits c (List.mem_of_mem_drop hc)
  have hpoint : IsWord "." := rfl
  have hzero : IsWord "0." := rfl
  unfold Decimal.Scientific.toText
  dsimp only
  split
  · exact ((IsWord.ofList hdigits).append (.zeros _)).append rfl
  · split
    · exact ((htake _).append hpoint).append (hdrop _)
    · split
      · exact (hzero.append (.zeros _)).append (.ofList hdigits)
      · refine ((htake 1).append ?_).append ?_ |>.append (isWord_toString _)
        · split
          · rfl
          · exact hpoint.append (hdrop 1)
        · split <;> rfl

theorem isWord_toText (x : Decimal.Binary64) : IsWord x.toText := by
  have hmagnitude : IsWord
      (if x.significand = 0 then "0.0" else (Decimal.shortest x).toText) := by
    split
    · rfl
    · exact Scientific.isWord_toText _
  unfold Decimal.Binary64.toText
  dsimp only
  split
  · exact .append rfl hmagnitude
  · exact hmagnitude

theorem lex_real {x : Decimal.Binary64} (h : x.readsBack = true) (ts : List Token)
    {cs : List Char} (hcs : Ended cs) :
    lex ⟨ts, .between⟩ (x.toText.toList ++ cs) = lex ⟨.atom (.real x) :: ts, .between⟩ cs := by
  have hparse : parse x.toText = .ok (.real x) := by
    unfold Decimal.Binary64.readsBack at h
    split at h
    · rename_i y hy
      rw [hy, of_decide_eq_true h]
    · cases h
  have hword := isWord_toText x
  have hne : x.toText.toList ≠ [] := by
    intro hnil
    rw [parse_eq, hnil] at hparse
    cases hparse
  refine lex_atom hword hne ?_ ts hcs
  have hend : Ended [] := trivial
  rw [parse_eq, ← List.append_nil x.toText.toList, lex_word hword hne [] hend] at hparse
  cases hread : readWord x.toText.toList with
  | error fault =>
    rw [hread] at hparse
    cases hparse
  | ok value =>
    rw [hread] at hparse
    cases hparse
    rfl

mutual

theorem lex_compact (v : Json) (h : v.isFaithful = true) (ts : List Token) (cs : List Char)
    (hcs : Ended cs) :
    lex ⟨ts, .between⟩ (v.compact.toList ++ cs) = lex ⟨v.toTokens.reverse ++ ts, .between⟩ cs := by
  match v with
  | .null => exact lex_atom (w := ['n', 'u', 'l', 'l']) rfl (List.cons_ne_nil _ _) rfl ts hcs
  | .bool true => exact lex_atom (w := ['t', 'r', 'u', 'e']) rfl (List.cons_ne_nil _ _) rfl ts hcs
  | .bool false =>
    exact lex_atom (w := ['f', 'a', 'l', 's', 'e']) rfl (List.cons_ne_nil _ _) rfl ts hcs
  | .int value => exact lex_int h ts hcs
  | .real x => exact lex_real h ts hcs
  | .str text => exact lex_quote text ts cs
  | .arr items =>
    have htext : (Json.arr items).compact.toList ++ cs =
        '[' :: ((compactItems items).toList ++ ']' :: cs) := by
      simp [compact, String.toList_append]
    have hopen : Lexer.step ⟨ts, .between⟩ '[' = .ok ⟨.openArr :: ts, .between⟩ := rfl
    have hclose (us : List Token) :
        Lexer.step ⟨us, .between⟩ ']' = .ok ⟨.closeArr :: us, .between⟩ := rfl
    have htokens : (Json.arr items).toTokens.reverse ++ ts =
        .closeArr :: ((itemTokens items).reverse ++ .openArr :: ts) := by simp [toTokens]
    rw [htext, lex_step hopen, lex_compactItems items h _ (']' :: cs) rfl, lex_step (hclose _),
      htokens]
  | .obj members =>
    have htext : (Json.obj members).compact.toList ++ cs =
        '\x7b' :: ((compactMembers members).toList ++ '\x7d' :: cs) := by
      simp [compact, String.toList_append]
    have hopen : Lexer.step ⟨ts, .between⟩ '\x7b' = .ok ⟨.openObj :: ts, .between⟩ := rfl
    have hclose (us : List Token) :
        Lexer.step ⟨us, .between⟩ '\x7d' = .ok ⟨.closeObj :: us, .between⟩ := rfl
    have htokens : (Json.obj members).toTokens.reverse ++ ts =
        .closeObj :: ((memberTokens members).reverse ++ .openObj :: ts) := by simp [toTokens]
    rw [htext, lex_step hopen,
      lex_compactMembers members (Bool.and_eq_true_iff.1 h).2 _ ('\x7d' :: cs) rfl,
      lex_step (hclose _), htokens]

theorem lex_compactItems (items : List Json) (h : areFaithful items = true) (ts : List Token)
    (cs : List Char) (hcs : Ended cs) :
    lex ⟨ts, .between⟩ ((compactItems items).toList ++ cs) =
      lex ⟨(itemTokens items).reverse ++ ts, .between⟩ cs := by
  match items with
  | [] => rfl
  | [item] => exact lex_compact item (Bool.and_eq_true_iff.1 h).1 ts cs hcs
  | item :: next :: rest =>
    obtain ⟨hitem, hrest⟩ := Bool.and_eq_true_iff.1 h
    have htext : (compactItems (item :: next :: rest)).toList ++ cs =
        item.compact.toList ++ ',' :: ((compactItems (next :: rest)).toList ++ cs) := by
      simp [compactItems, String.toList_append]
    have hcomma (us : List Token) :
        Lexer.step ⟨us, .between⟩ ',' = .ok ⟨.comma :: us, .between⟩ := rfl
    have htokens : (itemTokens (item :: next :: rest)).reverse ++ ts =
        (itemTokens (next :: rest)).reverse ++ .comma :: (item.toTokens.reverse ++ ts) := by
      simp [itemTokens]
    rw [htext, lex_compact item hitem ts (',' :: _) rfl, lex_step (hcomma _),
      lex_compactItems (next :: rest) hrest _ cs hcs, htokens]

theorem lex_compactMembers (members : List (String × Json)) (h : membersFaithful members = true)
    (ts : List Token) (cs : List Char) (hcs : Ended cs) :
    lex ⟨ts, .between⟩ ((compactMembers members).toList ++ cs) =
      lex ⟨(memberTokens members).reverse ++ ts, .between⟩ cs := by
  have hcolon (us : List Token) :
      Lexer.step ⟨us, .between⟩ ':' = .ok ⟨.colon :: us, .between⟩ := rfl
  match members with
  | [] => rfl
  | [(key, value)] =>
    have htext : (compactMembers [(key, value)]).toList ++ cs =
        (quote key).toList ++ ':' :: (value.compact.toList ++ cs) := by
      simp [compactMembers, String.toList_append]
    have htokens : (memberTokens [(key, value)]).reverse ++ ts =
        value.toTokens.reverse ++ .colon :: .text key :: ts := by simp [memberTokens]
    rw [htext, lex_quote, lex_step (hcolon _),
      lex_compact value (Bool.and_eq_true_iff.1 h).1 _ cs hcs, htokens]
  | (key, value) :: next :: rest =>
    obtain ⟨hvalue, hrest⟩ := Bool.and_eq_true_iff.1 h
    have htext : (compactMembers ((key, value) :: next :: rest)).toList ++ cs =
        (quote key).toList ++ ':' :: (value.compact.toList ++
          ',' :: ((compactMembers (next :: rest)).toList ++ cs)) := by
      simp [compactMembers, String.toList_append]
    have hcomma (us : List Token) :
        Lexer.step ⟨us, .between⟩ ',' = .ok ⟨.comma :: us, .between⟩ := rfl
    have htokens : (memberTokens ((key, value) :: next :: rest)).reverse ++ ts =
        (memberTokens (next :: rest)).reverse ++
          .comma :: (value.toTokens.reverse ++ .colon :: .text key :: ts) := by
      simp [memberTokens]
    rw [htext, lex_quote, lex_step (hcolon _), lex_compact value hvalue _ (',' :: _) rfl,
      lex_step (hcomma _), lex_compactMembers (next :: rest) hrest _ cs hcs, htokens]

end

theorem toTokens_eq_cons (v : Json) : ∃ t ts, v.toTokens = t :: ts ∧ t ≠ .closeArr := by
  cases v <;> exact ⟨_, _, rfl, nofun⟩

theorem itemTokens_eq_cons (item : Json) (rest : List Json) :
    ∃ t ts, itemTokens (item :: rest) = t :: ts ∧ t ≠ .closeArr := by
  obtain ⟨t, ts, heq, ht⟩ := toTokens_eq_cons item
  cases rest with
  | nil => exact ⟨t, ts, heq, ht⟩
  | cons next rest =>
    refine ⟨t, ts ++ .comma :: itemTokens (next :: rest), ?_, ht⟩
    rw [← List.cons_append, ← heq]
    rfl

theorem build_first {t : Token} (ht : t ≠ .closeArr) (stack : List Frame) (ts : List Token) :
    build ⟨stack, .itemOrClose⟩ (t :: ts) = build ⟨.arr [] :: stack, .value⟩ (t :: ts) := by
  have hstep : Parser.step ⟨stack, .itemOrClose⟩ t =
      Parser.step ⟨.arr [] :: stack, .value⟩ t := by
    cases t with
    | closeArr => exact absurd rfl ht
    | _ => rfl
  rw [build, build, List.foldlM_cons, List.foldlM_cons, hstep]

theorem build_open {t : Token} {s : Parser} {stack : List Frame}
    (ht : Parser.step ⟨stack, .value⟩ t =
      if stack.length < maxDepth then .ok s else .error .tooDeep) (ts : List Token) :
    build ⟨stack, .value⟩ (t :: ts) =
      if stack.length < maxDepth then build s ts else .error .tooDeep := by
  split
  · rename_i hlt
    exact build_step (ht.trans (if_pos hlt)) ts
  · rename_i hge
    rw [build, List.foldlM_cons, ht, if_neg hge]
    rfl

/-- Of two parts that are read one after the other, the deeper one decides. -/
theorem ite_max {α : Type} (n a b : Nat) (x e : α) :
    (if n + a ≤ maxDepth then (if n + b ≤ maxDepth then x else e) else e) =
      if n + max a b ≤ maxDepth then x else e := by
  by_cases ha : n + a ≤ maxDepth
  · rw [if_pos ha]
    exact if_congr (by omega) rfl rfl
  · rw [if_neg ha, if_neg (by omega)]

mutual

/-- A value is handed to the container around it, unless it nests deeper than is read. -/
theorem build_toTokens (v : Json) (h : v.isFaithful = true) (stack : List Frame)
    (hstack : stack.length ≤ maxDepth) (ts : List Token) :
    build ⟨stack, .value⟩ (v.toTokens ++ ts) =
      if stack.length + v.depth ≤ maxDepth then build (Parser.deliver v stack) ts
      else .error .tooDeep := by
  match v with
  | .null | .bool _ | .int _ | .real _ | .str _ => exact (if_pos hstack).symm
  | .arr items =>
    have htokens : (Json.arr items).toTokens ++ ts =
        .openArr :: (itemTokens items ++ .closeArr :: ts) := by simp [toTokens]
    have hopen : Parser.step ⟨stack, .value⟩ .openArr =
        if stack.length < maxDepth then .ok ⟨stack, .itemOrClose⟩ else .error .tooDeep := rfl
    rw [htokens, build_open hopen, depth]
    by_cases hlt : stack.length < maxDepth
    · rw [if_pos hlt]
      match items with
      | [] => exact (if_pos hlt).symm
      | item :: rest =>
        obtain ⟨t, us, heq, ht⟩ := itemTokens_eq_cons item rest
        rw [heq, List.cons_append, build_first ht, ← List.cons_append, ← heq,
          build_itemTokens (item :: rest) (List.cons_ne_nil _ _) h [] stack hlt ts,
          Nat.add_right_comm, Nat.add_assoc]
        rfl
    · rw [if_neg hlt, if_neg (by omega)]
  | .obj members =>
    obtain ⟨hsorted, hmembers⟩ := Bool.and_eq_true_iff.1 h
    have htokens : (Json.obj members).toTokens ++ ts =
        .openObj :: (memberTokens members ++ .closeObj :: ts) := by simp [toTokens]
    have hopen : Parser.step ⟨stack, .value⟩ .openObj =
        if stack.length < maxDepth then .ok ⟨stack, .keyOrClose⟩ else .error .tooDeep := rfl
    rw [htokens, build_open hopen, depth]
    by_cases hlt : stack.length < maxDepth
    · rw [if_pos hlt]
      match members with
      | [] => exact (if_pos hlt).symm
      | (key, value) :: rest =>
        have hclose : closeObj (((key, value) :: rest).reverse ++ []) =
            .obj ((key, value) :: rest) := by
          rw [List.append_nil, closeObj, List.reverse_reverse]
          exact congrArg ofObject (Dict.ofList_entries ⟨_, of_decide_eq_true hsorted⟩)
        have hfirst : build ⟨stack, .keyOrClose⟩
            (memberTokens ((key, value) :: rest) ++ .closeObj :: ts) =
              build ⟨stack, .key []⟩ (memberTokens ((key, value) :: rest) ++ .closeObj :: ts) := by
          cases rest <;> rfl
        rw [hfirst, build_memberTokens ((key, value) :: rest) (List.cons_ne_nil _ _) hmembers []
          stack hlt ts, hclose, Nat.add_right_comm, Nat.add_assoc]
    · rw [if_neg hlt, if_neg (by omega)]

theorem build_itemTokens (items : List Json) (hne : items ≠ []) (h : areFaithful items = true)
    (done : List Json) (stack : List Frame) (hstack : stack.length < maxDepth) (ts : List Token) :
    build ⟨.arr done :: stack, .value⟩ (itemTokens items ++ .closeArr :: ts) =
      if stack.length + 1 + itemsDepth items ≤ maxDepth then
        build (Parser.deliver (.arr (done.reverse ++ items)) stack) ts
      else .error .tooDeep := by
  match items with
  | [] => exact absurd rfl hne
  | [item] =>
    have hfirst := build_toTokens item (Bool.and_eq_true_iff.1 h).1 (.arr done :: stack) hstack
      (.closeArr :: ts)
    have hclose : Parser.step (Parser.deliver item (.arr done :: stack)) .closeArr =
        .ok (Parser.deliver (.arr (item :: done).reverse) stack) := rfl
    rw [itemTokens, hfirst, build_step hclose, itemsDepth, itemsDepth, Nat.max_zero,
      List.reverse_cons]
    rfl
  | item :: next :: rest =>
    obtain ⟨hitem, hrest⟩ := Bool.and_eq_true_iff.1 h
    have htokens : itemTokens (item :: next :: rest) ++ .closeArr :: ts =
        item.toTokens ++ .comma :: (itemTokens (next :: rest) ++ .closeArr :: ts) := by
      simp [itemTokens]
    have hfirst := build_toTokens item hitem (.arr done :: stack) hstack
      (.comma :: (itemTokens (next :: rest) ++ .closeArr :: ts))
    have hcomma : Parser.step (Parser.deliver item (.arr done :: stack)) .comma =
        .ok ⟨.arr (item :: done) :: stack, .value⟩ := rfl
    have hdone : done.reverse ++ item :: next :: rest = (item :: done).reverse ++ next :: rest := by
      simp
    rw [htokens, hfirst, build_step hcomma,
      build_itemTokens (next :: rest) (List.cons_ne_nil _ _) hrest (item :: done) stack hstack ts,
      hdone]
    exact ite_max _ _ _ _ _

theorem build_memberTokens (members : List (String × Json)) (hne : members ≠ [])
    (h : membersFaithful members = true) (done : List (String × Json)) (stack : List Frame)
    (hstack : stack.length < maxDepth) (ts : List Token) :
    build ⟨stack, .key done⟩ (memberTokens members ++ .closeObj :: ts) =
      if stack.length + 1 + membersDepth members ≤ maxDepth then
        build (Parser.deliver (closeObj (members.reverse ++ done)) stack) ts
      else .error .tooDeep := by
  have hkey (key : String) :
      Parser.step ⟨stack, .key done⟩ (.text key) = .ok ⟨stack, .colon done key⟩ := rfl
  have hcolon (key : String) : Parser.step ⟨stack, .colon done key⟩ .colon =
      .ok ⟨.obj done key :: stack, .value⟩ := rfl
  match members with
  | [] => exact absurd rfl hne
  | [(key, value)] =>
    have hfirst := build_toTokens value (Bool.and_eq_true_iff.1 h).1 (.obj done key :: stack)
      hstack (.closeObj :: ts)
    have hclose : Parser.step (Parser.deliver value (.obj done key :: stack)) .closeObj =
        .ok (Parser.deliver (closeObj ((key, value) :: done)) stack) := rfl
    rw [memberTokens, List.cons_append, List.cons_append, build_step (hkey key),
      build_step (hcolon key), hfirst, build_step hclose, membersDepth, membersDepth, Nat.max_zero]
    rfl
  | (key, value) :: next :: rest =>
    obtain ⟨hvalue, hrest⟩ := Bool.and_eq_true_iff.1 h
    have htokens : memberTokens ((key, value) :: next :: rest) ++ .closeObj :: ts =
        .text key :: .colon :: (value.toTokens ++
          .comma :: (memberTokens (next :: rest) ++ .closeObj :: ts)) := by
      simp [memberTokens]
    have hfirst := build_toTokens value hvalue (.obj done key :: stack) hstack
      (.comma :: (memberTokens (next :: rest) ++ .closeObj :: ts))
    have hcomma : Parser.step (Parser.deliver value (.obj done key :: stack)) .comma =
        .ok ⟨stack, .key ((key, value) :: done)⟩ := rfl
    have hdone : ((key, value) :: next :: rest).reverse ++ done =
        (next :: rest).reverse ++ (key, value) :: done := by simp
    rw [htokens, build_step (hkey key), build_step (hcolon key), hfirst, build_step hcomma,
      build_memberTokens (next :: rest) (List.cons_ne_nil _ _) hrest ((key, value) :: done) stack
        hstack ts, hdone]
    exact ite_max _ _ _ _ _

end

theorem areFaithful_iff {items : List Json} :
    areFaithful items = true ↔ ∀ item ∈ items, item.isFaithful = true := by
  induction items with
  | nil => simp [areFaithful]
  | cons item rest ih => rw [areFaithful, Bool.and_eq_true_iff, ih, List.forall_mem_cons]

theorem itemsDepth_le_iff {items : List Json} {n : Nat} :
    itemsDepth items ≤ n ↔ ∀ item ∈ items, item.depth ≤ n := by
  induction items with
  | nil => simp [itemsDepth]
  | cons item rest ih => rw [itemsDepth, Nat.max_le, ih, List.forall_mem_cons]

@[simp] theorem isFaithful_single (key : String) (value : Json) :
    (Json.obj [(key, value)]).isFaithful = value.isFaithful := by
  have hsorted : Entries.Sorted [(key, value)] := List.pairwise_singleton _ _
  simp [isFaithful, membersFaithful, hsorted]

@[simp] theorem depth_single (key : String) (value : Json) :
    (Json.obj [(key, value)]).depth = value.depth + 1 := by
  simp [depth, membersDepth]

/-- What is written of a value denotes it, down to the greatest depth that is read. -/
theorem parse_compact {v : Json} (h : v.isFaithful = true) :
    parse v.compact = if v.depth ≤ maxDepth then .ok v else .error .tooDeep := by
  have hend : Ended [] := trivial
  have hlex : lex ⟨[], .between⟩ v.compact.toList = .ok v.toTokens := by
    have hcompact := lex_compact v h [] [] hend
    rw [List.append_nil, List.append_nil] at hcompact
    rw [hcompact]
    exact congrArg Except.ok v.toTokens.reverse_reverse
  have hbuild := build_toTokens v h [] (Nat.zero_le _) []
  rw [List.append_nil, List.length_nil, Nat.zero_add] at hbuild
  rw [parse_eq, hlex]
  exact hbuild

end Json

end TrafficSteering
