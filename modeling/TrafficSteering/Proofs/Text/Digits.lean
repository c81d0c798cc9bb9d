import Mathlib.Data.List.Basic
import TrafficSteering.Text.Digit

namespace TrafficSteering.Text

variable {base : Nat} {digit? : Char → Option Nat}

theorem number?_append (n : Nat) (cs ds : List Char) :
    number? base digit? n (cs ++ ds) =
      (number? base digit? n cs).bind (number? base digit? · ds) := by
  induction cs generalizing n with
  | nil => rfl
  | cons c cs ih =>
    rw [List.cons_append, number?, number?]
    cases digit? c with
    | none => rfl
    | some d => exact ih (n * base + d)

/-- Digits as they are written: the last one follows those of what is left of the number. -/
theorem toDigits_induction {motive : Nat → Prop} (hbase : 1 < base)
    (last : ∀ d < base, Nat.toDigits base d = [d.digitChar] → motive d)
    (more : ∀ n, base ≤ n →
      Nat.toDigits base n = Nat.toDigits base (n / base) ++ [(n % base).digitChar] →
      motive (n / base) → motive n) (n : Nat) : motive n := by
  induction n using Nat.strongRecOn with
  | ind n ih =>
    have hdigits := Nat.toDigits_eq_if (b := base) (n := n) hbase
    split at hdigits
    · rename_i hlast
      exact last n hlast hdigits
    · rename_i hmore
      exact more n (by omega) hdigits (ih (n / base) (Nat.div_lt_self (by omega) hbase))

theorem number?_toDigits (hbase : 1 < base)
    (hdigit : ∀ d < base, digit? d.digitChar = some d) (n : Nat) :
    number? base digit? 0 (Nat.toDigits base n) = some n := by
  have hlast (k d : Nat) (hd : d < base) :
      number? base digit? k [d.digitChar] = some (k * base + d) := by
    simp only [number?, hdigit d hd]
  induction n using toDigits_induction hbase with
  | last d hd hdigits => rw [hdigits, hlast 0 d hd, Nat.zero_mul, Nat.zero_add]
  | more n _ hdigits ih =>
    rw [hdigits, number?_append, ih, Option.bind_some, hlast _ _ (Nat.mod_lt n (by omega)),
      Nat.div_add_mod']

theorem number?_eq_none {c : Char} {cs : List Char} (hc : c ∈ cs) (hdigit : digit? c = none)
    (n : Nat) : number? base digit? n cs = none := by
  induction cs generalizing n with
  | nil => cases hc
  | cons d cs ih =>
    rw [number?]
    obtain rfl | hc := List.mem_cons.1 hc
    · rw [hdigit]
    · cases digit? d with
      | none => rfl
      | some k => exact ih hc (n * base + k)

theorem notMem_toDigits {mark : Char} (hbase : 1 < base) (hmark : ∀ d < base, mark ≠ d.digitChar)
    (n : Nat) : mark ∉ Nat.toDigits base n := by
  induction n using toDigits_induction hbase with
  | last d hd hdigits =>
    rw [hdigits]
    exact mt List.mem_singleton.1 (hmark d hd)
  | more n _ hdigits ih =>
    rw [hdigits, List.mem_append, List.mem_singleton, not_or]
    exact ⟨ih, hmark _ (Nat.mod_lt n (by omega))⟩

theorem head?_toDigits (hbase : 1 < base) (hzero : ∀ d < base, 0 < d → d.digitChar ≠ '0')
    {n : Nat} (hn : 0 < n) : (Nat.toDigits base n).head? ≠ some '0' := by
  induction n using toDigits_induction hbase with
  | last d hd hdigits =>
    rw [hdigits]
    exact fun h ↦ hzero d hd hn (Option.some.inj h)
  | more n hle hdigits ih =>
    rw [hdigits, List.head?_append_of_ne_nil _ Nat.toDigits_ne_nil]
    exact ih (Nat.div_pos hle (by omega))

theorem head?_toDigits_of_long (hbase : 1 < base)
    (hzero : ∀ d < base, 0 < d → d.digitChar ≠ '0') {n : Nat}
    (hlong : 1 < (Nat.toDigits base n).length) : (Nat.toDigits base n).head? ≠ some '0' := by
  refine head?_toDigits hbase hzero (Nat.pos_of_ne_zero fun hn ↦ ?_)
  rw [hn, Nat.toDigits_zero] at hlong
  exact absurd hlong (by decide)

theorem decimalDigit?_digitChar : ∀ d < 10, decimalDigit? d.digitChar = some d := by decide

theorem hexDigit?_digitChar : ∀ d < 16, hexDigit? d.digitChar = some d := by decide

end TrafficSteering.Text
