import Mathlib.Logic.Function.Basic
import TrafficSteering.Program
import TrafficSteering.Text.Blank

namespace TrafficSteering

def hexNumber (digits : List Char) : Nat :=
  digits.foldl (fun n c ↦ 16 * n + if c.toNat < 97 then c.toNat - 48 else c.toNat - 87) 0

theorem hexNumber_append_digit (digits : List Char) {n : Nat} (h : n < 16) :
    hexNumber (digits ++ [n.digitChar]) = 16 * hexNumber digits + n := by
  have hdigit : ∀ n < 16, (if n.digitChar.toNat < 97 then n.digitChar.toNat - 48
      else n.digitChar.toNat - 87) = n := by decide
  rw [hexNumber, List.foldl_append, List.foldl_cons, List.foldl_nil, hdigit n h, hexNumber]

theorem hexNumber_replicate_append (k : Nat) (digits : List Char) :
    hexNumber (List.replicate k '0' ++ digits) = hexNumber digits := by
  induction k with
  | zero => rfl
  | succ k ih => exact ih

theorem hexNumber_toDigits (n : Nat) : hexNumber (Nat.toDigits 16 n) = n := by
  induction n using Nat.strongRecOn with
  | ind n ih =>
    rw [Nat.toDigits_eq_if (by decide)]
    split
    · rename_i h
      exact (hexNumber_append_digit [] h).trans (Nat.zero_add n)
    · rename_i h
      rw [hexNumber_append_digit _ (Nat.mod_lt n (by decide)), ih (n / 16) (by omega)]
      omega

theorem numberedId_injective : Function.Injective numberedId := by
  intro a b h
  have htexts : (numberedId a).toList = (numberedId b).toList := congrArg String.toList h
  simp only [numberedId, String.toList_append, String.toList_ofList] at htexts
  have hnumbers := congrArg hexNumber (List.append_cancel_right htexts)
  simpa only [hexNumber_replicate_append, hexNumber_toDigits] using hnumbers

theorem numberedId_not_blank (n : Nat) : Text.blank (numberedId n) = false := by
  rw [← Bool.not_eq_true, Text.blank_iff]
  intro h
  have hdash : Text.isBlank '-' = true := h '-' (by simp [numberedId])
  exact absurd hdash (by decide)

end TrafficSteering
