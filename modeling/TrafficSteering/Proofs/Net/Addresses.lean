import Mathlib.Data.List.TakeWhile
import TrafficSteering.Net.Address
import TrafficSteering.Proofs.Net.Forms
import TrafficSteering.Proofs.Text.Digits

namespace TrafficSteering

open Text

namespace Text

theorem exists_mem_pieces {mark c : Char} {cs : List Char} (hc : c ∈ cs) (hmark : c ≠ mark) :
    ∃ piece ∈ pieces mark cs, c ∈ piece := by
  induction cs with
  | nil => cases hc
  | cons d cs ih =>
    rw [pieces]
    obtain rfl | hc := List.mem_cons.1 hc
    · rw [if_neg hmark]
      split
      · exact ⟨[c], List.mem_cons_self, List.mem_cons_self⟩
      · exact ⟨_, List.mem_cons_self, List.mem_cons_self⟩
    · obtain ⟨piece, hpiece, hmem⟩ := ih hc
      split
      · exact ⟨piece, List.mem_cons_of_mem [] hpiece, hmem⟩
      · split
        · rename_i hnil
          exact absurd hnil (pieces_ne_nil mark cs)
        · rename_i first more hpieces
          rw [hpieces] at hpiece
          obtain rfl | hpiece := List.mem_cons.1 hpiece
          · exact ⟨_, List.mem_cons_self, List.mem_cons_of_mem d hmem⟩
          · exact ⟨piece, List.mem_cons_of_mem _ hpiece, hmem⟩

end Text

namespace Net

theorem octet?_toDigits (x : UInt8) : octet? (Nat.toDigits 10 x.toNat) = some x := by
  have hlt : x.toNat < 256 := x.toNat_lt
  have hshort : (Nat.toDigits 10 x.toNat).length ≤ 3 :=
    (Nat.length_toDigits_le_iff (by decide) (by decide)).2 (by omega)
  have hhead : 1 < (Nat.toDigits 10 x.toNat).length →
      (Nat.toDigits 10 x.toNat).head? ≠ some '0' :=
    head?_toDigits_of_long (by decide) (by decide)
  have hform : ((Nat.toDigits 10 x.toNat).isEmpty ||
      decide (3 < (Nat.toDigits 10 x.toNat).length) ||
      (decide (1 < (Nat.toDigits 10 x.toNat).length) &&
        (Nat.toDigits 10 x.toNat).head? == some '0')) = false := by
    have hfull : Nat.toDigits 10 x.toNat ≠ [] := Nat.toDigits_ne_nil
    simp only [Bool.or_eq_false_iff, List.isEmpty_eq_false_iff, decide_eq_false_iff_not,
      Bool.and_eq_false_imp, decide_eq_true_eq, beq_eq_false_iff_ne]
    exact ⟨⟨hfull, by omega⟩, hhead⟩
  rw [octet?, hform, number?_toDigits (by decide) decimalDigit?_digitChar]
  simp only [Bool.false_eq_true, if_false, if_pos hlt, UInt8.ofNat_toNat]

namespace IPv4

theorem notMem_toChars {mark : Char} (hdot : mark ≠ '.') (hmark : ∀ d < 10, mark ≠ d.digitChar)
    (x : IPv4) : mark ∉ x.toChars := by
  have hpart (n : UInt8) : mark ∉ Nat.toDigits 10 n.toNat := notMem_toDigits (by decide) hmark _
  simp [toChars, hpart, hdot]

theorem parse?_toChars (x : IPv4) : parse? x.toChars = some x := by
  have hpart (n : UInt8) : pieces '.' (Nat.toDigits 10 n.toNat) = [Nat.toDigits 10 n.toNat] :=
    pieces_of_notMem (notMem_toDigits (by decide) (by decide) _)
  have hpieces : pieces '.' x.toChars = [Nat.toDigits 10 x.a.toNat, Nat.toDigits 10 x.b.toNat,
      Nat.toDigits 10 x.c.toNat, Nat.toDigits 10 x.d.toNat] := by
    simp only [toChars, pieces_append_mark, hpart]
    rfl
  rw [parse?, hpieces]
  simp only [List.map_cons, List.map_nil, octet?_toDigits]

theorem parse?_eq_none {cs : List Char} (h : ':' ∈ cs) : parse? cs = none := by
  obtain ⟨piece, hpiece, hcolon⟩ : ∃ piece ∈ pieces '.' cs, ':' ∈ piece :=
    exists_mem_pieces h (by decide)
  have hnone : octet? piece = none := by
    rw [octet?, number?_eq_none hcolon (by decide)]
    split <;> rfl
  have hmem : none ∈ (pieces '.' cs).map octet? := List.mem_map.2 ⟨piece, hpiece, hnone⟩
  rw [parse?]
  split
  · rename_i hparts
    simp [hparts] at hmem
  · rfl

theorem toGroups_ofGroups (hi lo : UInt16) : (ofGroups hi lo).toGroups = [hi, lo] := by
  have hjoin (g : UInt16) : (g / 256).toUInt8.toUInt16 * 256 + g.toUInt8.toUInt16 = g := by
    have hlt := g.toNat_lt
    rw [← UInt16.toNat_inj]
    simp
    omega
  simp only [toGroups, ofGroups, hjoin]

end IPv4

theorem group?_toDigits (g : UInt16) : group? (Nat.toDigits 16 g.toNat) = some g := by
  have hlt : g.toNat < 65536 := g.toNat_lt
  have hshort : (Nat.toDigits 16 g.toNat).length ≤ 4 :=
    (Nat.length_toDigits_le_iff (by decide) (by decide)).2 (by omega)
  have hform : ((Nat.toDigits 16 g.toNat).isEmpty ||
      decide (4 < (Nat.toDigits 16 g.toNat).length)) = false := by
    have hfull : Nat.toDigits 16 g.toNat ≠ [] := Nat.toDigits_ne_nil
    simp only [Bool.or_eq_false_iff, List.isEmpty_eq_false_iff, decide_eq_false_iff_not]
    exact ⟨hfull, by omega⟩
  rw [group?, hform, number?_toDigits (by decide) hexDigit?_digitChar]
  simp

namespace IPv6

variable {gs : List UInt16}

theorem colon_notMem_group (g : UInt16) : ':' ∉ Nat.toDigits 16 g.toNat :=
  notMem_toDigits (by decide) (by decide) _

theorem joinGroups_cons_cons (g h : UInt16) (gs : List UInt16) :
    joinGroups (g :: h :: gs) = Nat.toDigits 16 g.toNat ++ ':' :: joinGroups (h :: gs) := by
  simp [joinGroups, List.intercalate_cons_cons]

theorem joinGroups_cons (g : UInt16) (gs : List UInt16) :
    ∃ d more, d ≠ ':' ∧ joinGroups (g :: gs) = d :: more := by
  obtain ⟨d, ds, hdigits⟩ :=
    List.exists_cons_of_ne_nil (Nat.toDigits_ne_nil (n := g.toNat) (b := 16))
  have hd : d ≠ ':' := fun hcolon ↦ colon_notMem_group g (by rw [hdigits, hcolon]; simp)
  cases gs with
  | nil => exact ⟨d, ds, hd, by simpa [joinGroups] using hdigits⟩
  | cons h gs => exact ⟨d, _, hd, by rw [joinGroups_cons_cons, hdigits, List.cons_append]⟩

theorem pieces_joinGroups (h : gs ≠ []) :
    pieces ':' (joinGroups gs) = gs.map fun g ↦ Nat.toDigits 16 g.toNat := by
  refine pieces_intercalate (mt List.map_eq_nil_iff.1 h) fun cs hcs ↦ ?_
  obtain ⟨g, -, rfl⟩ := List.mem_map.1 hcs
  exact colon_notMem_group g

theorem groups?_digits (decimalEnd : Bool) (gs : List UInt16) :
    groups? decimalEnd (gs.map fun g ↦ Nat.toDigits 16 g.toNat) = some gs := by
  induction gs with
  | nil => rfl
  | cons g gs ih =>
    cases gs with
    | nil => simp only [List.map_cons, List.map_nil, groups?, group?_toDigits]
    | cons h gs =>
      rw [List.map_cons] at ih
      simp only [List.map_cons, groups?, group?_toDigits, ih]

theorem side?_joinGroups (decimalEnd : Bool) (gs : List UInt16) :
    side? decimalEnd (joinGroups gs) = some gs := by
  cases gs with
  | nil => rfl
  | cons g gs =>
    have hpieces := pieces_joinGroups (List.cons_ne_nil g gs)
    have hfull : (joinGroups (g :: gs)).isEmpty = false := by
      rw [List.isEmpty_eq_false_iff]
      intro hnil
      rw [hnil, List.map_cons] at hpieces
      exact Nat.toDigits_ne_nil (List.cons.inj hpieces).1.symm
    rw [side?, hfull, hpieces, groups?_digits]
    rfl

theorem notMem_joinGroups {mark : Char} (hcolon : mark ≠ ':')
    (hmark : ∀ d < 16, mark ≠ d.digitChar) (gs : List UInt16) : mark ∉ joinGroups gs := by
  have hgroup (g : UInt16) : mark ∉ Nat.toDigits 16 g.toNat := notMem_toDigits (by decide) hmark _
  induction gs with
  | nil => exact List.not_mem_nil
  | cons g gs ih =>
    cases gs with
    | nil => simpa [joinGroups] using hgroup g
    | cons h gs =>
      rw [joinGroups_cons_cons, List.mem_append, List.mem_cons, not_or, not_or]
      exact ⟨hgroup g, hcolon, ih⟩

theorem splitGap_cons {c d : Char} {rest : List Char} (h : ¬ (c = ':' ∧ d = ':')) :
    splitGap (c :: d :: rest) = (splitGap (d :: rest)).map fun p ↦ (c :: p.1, p.2) := by
  rw [splitGap]
  exact fun more hc hd ↦ h ⟨hc, (List.cons.inj hd).1⟩

theorem splitGap_append {ds : List Char} (h : ':' ∉ ds) (rest : List Char) :
    splitGap (ds ++ rest) = (splitGap rest).map fun p ↦ (ds ++ p.1, p.2) := by
  induction ds with
  | nil => simp
  | cons d ds ih =>
    obtain ⟨hd, hds⟩ := List.ne_and_not_mem_of_not_mem_cons h
    rw [List.cons_append, splitGap, ih hds, Option.map_map]
    · rfl
    · exact fun more hc ↦ absurd hc.symm hd

theorem splitGap_joinGroups (gs : List UInt16) (rest : List Char) :
    splitGap (joinGroups gs ++ rest) = (splitGap rest).map fun p ↦ (joinGroups gs ++ p.1, p.2) := by
  induction gs with
  | nil => exact Option.map_id'.symm
  | cons g gs ih =>
    cases gs with
    | nil => simpa [joinGroups] using splitGap_append (colon_notMem_group g) rest
    | cons h gs =>
      obtain ⟨d, more, hd, hjoined⟩ := joinGroups_cons h gs
      -- between two groups stands one colon, and a digit after it
      have hcolon : splitGap (':' :: (joinGroups (h :: gs) ++ rest)) =
          (splitGap (joinGroups (h :: gs) ++ rest)).map fun p ↦ (':' :: p.1, p.2) := by
        rw [hjoined]
        exact splitGap_cons fun hboth ↦ hd hboth.2
      rw [joinGroups_cons_cons, List.append_assoc, List.cons_append,
        splitGap_append (colon_notMem_group g), hcolon, ih, Option.map_map, Option.map_map]
      simp [Function.comp_def]

theorem eq_replicate_leadingZeros (gs : List UInt16) :
    gs = List.replicate (leadingZeros gs) 0 ++ gs.drop (leadingZeros gs) := by
  have hzeros : gs.takeWhile (· == 0) = List.replicate (leadingZeros gs) 0 :=
    List.eq_replicate_iff.2 ⟨rfl, fun g hg ↦ by simpa using List.mem_takeWhile_imp hg⟩
  rw [← hzeros]
  exact (List.prefix_iff_eq_append.1 (List.takeWhile_prefix _)).symm

theorem longestRun_eq (i : Nat) (gs : List UInt16) : ∃ before after,
    gs = before ++ List.replicate (longestRun i gs).2 0 ++ after ∧
      (longestRun i gs).1 = i + before.length := by
  induction gs generalizing i with
  | nil => exact ⟨[], [], rfl, rfl⟩
  | cons g gs ih =>
    rw [longestRun]
    split
    · exact ⟨[], _, eq_replicate_leadingZeros (g :: gs), rfl⟩
    · obtain ⟨before, after, hgs, hstart⟩ := ih (i + 1)
      refine ⟨g :: before, after, congrArg (g :: ·) hgs, ?_⟩
      rw [hstart, List.length_cons]
      omega

theorem ofList?_groups (x : IPv6) : ofList? x.groups = some x := dif_pos x.length_eq

/-- An address with a gap stands for the groups around it. -/
theorem parse?_gap (x : IPv6) {before after : List UInt16} {n : Nat} (hn : 0 < n)
    (hgroups : x.groups = before ++ List.replicate n 0 ++ after) :
    parse? (joinGroups before ++ ':' :: ':' :: joinGroups after) = some x := by
  have hlength : before.length + n + after.length = 8 := by
    rw [← x.length_eq, hgroups, List.length_append, List.length_append, List.length_replicate]
  have hrest : 8 - before.length - after.length = n := by omega
  have hgap : splitGap (joinGroups before ++ ':' :: ':' :: joinGroups after) =
      some (joinGroups before, joinGroups after) := by
    rw [splitGap_joinGroups, splitGap, Option.map_some, List.append_nil]
  rw [parse?, hgap]
  simp only [side?_joinGroups, hrest, ← hgroups, ofList?_groups]
  exact if_pos (by omega)

theorem parse?_whole (x : IPv6) : parse? (joinGroups x.groups) = some x := by
  have hfull : x.groups ≠ [] := fun hnil ↦ by
    have hlength := x.length_eq
    rw [hnil] at hlength
    cases hlength
  have hgap : splitGap (joinGroups x.groups) = none := by
    simpa [splitGap] using splitGap_joinGroups x.groups []
  rw [parse?, hgap, pieces_joinGroups hfull, groups?_digits]
  exact ofList?_groups x

/-- The text of a mapped address ends like that of an address of four parts. -/
theorem parse?_mapped {x : IPv6} {y : IPv4} (h : x.mapped? = some y) :
    parse? ("::ffff:".toList ++ y.toChars) = some x := by
  rw [mapped?] at h
  split at h
  · rename_i hi lo hgroups
    obtain rfl := Option.some.inj h
    have hcolon : ':' ∉ (IPv4.ofGroups hi lo).toChars :=
      IPv4.notMem_toChars (by decide) (by decide) _
    have hpieces : pieces ':' ("ffff:".toList ++ (IPv4.ofGroups hi lo).toChars) =
        ["ffff".toList, (IPv4.ofGroups hi lo).toChars] := by
      have hmark := pieces_append_mark ':' "ffff".toList (IPv4.ofGroups hi lo).toChars
      rwa [pieces_of_notMem hcolon] at hmark
    have hgroup : group? (IPv4.ofGroups hi lo).toChars = none := by
      rw [group?, number?_eq_none (c := '.') (by simp [IPv4.toChars]) (by decide)]
      split <;> rfl
    have hside : side? true ("ffff:".toList ++ (IPv4.ofGroups hi lo).toChars) =
        some [0xFFFF, hi, lo] := by
      rw [side?, hpieces]
      simp only [groups?, hgroup, IPv4.parse?_toChars, if_true, Option.map_some,
        IPv4.toGroups_ofGroups, show group? "ffff".toList = some 0xFFFF by decide]
      rfl
    have hgap : splitGap ("::ffff:".toList ++ (IPv4.ofGroups hi lo).toChars) =
        some ([], "ffff:".toList ++ (IPv4.ofGroups hi lo).toChars) := rfl
    have hnone : side? false [] = some [] := rfl
    rw [parse?, hgap]
    simp only [hnone, hside]
    rw [← ofList?_groups x, hgroups]
    rfl
  · cases h

theorem parse?_toChars (x : IPv6) : parse? x.toChars = some x := by
  rw [toChars]
  cases hmapped : x.mapped? with
  | some y => exact parse?_mapped hmapped
  | none =>
    -- what the text leaves out is the run that is found, and no group but zero is in it
    obtain ⟨before, after, hgroups, hstart⟩ := longestRun_eq 0 x.groups
    generalize longestRun 0 x.groups = run at hgroups hstart ⊢
    obtain ⟨start, n⟩ := run
    obtain rfl : start = before.length := hstart.trans (Nat.zero_add _)
    dsimp only at hgroups ⊢
    split
    · rename_i hlong
      have htake : x.groups.take before.length = before := by
        rw [hgroups, List.append_assoc, List.take_left]
      have hdrop : x.groups.drop (before.length + n) = after := by
        rw [hgroups]
        exact List.drop_left' (by simp)
      rw [htake, hdrop]
      exact parse?_gap x (by omega) hgroups
    · exact parse?_whole x

theorem colon_mem_toChars (x : IPv6) : ':' ∈ x.toChars := by
  rw [toChars]
  cases x.mapped? with
  | some y => exact List.mem_append_left _ (by decide)
  | none =>
    dsimp only
    split
    · exact List.mem_append_right _ List.mem_cons_self
    · obtain ⟨groups, hlength⟩ := x
      match groups, hlength with
      | g :: h :: gs, _ =>
        rw [joinGroups_cons_cons]
        exact List.mem_append_right _ List.mem_cons_self

theorem slash_notMem_toChars (x : IPv6) : '/' ∉ x.toChars := by
  have hjoined (gs : List UInt16) : '/' ∉ joinGroups gs :=
    notMem_joinGroups (by decide) (by decide) gs
  rw [toChars]
  cases x.mapped? with
  | some y =>
    rw [List.mem_append, not_or]
    exact ⟨by decide, IPv4.notMem_toChars (by decide) (by decide) y⟩
  | none =>
    dsimp only
    split
    · simp [hjoined]
    · exact hjoined x.groups

end IPv6

namespace Address

/-- An address is read back from its text, and with it its family. -/
theorem parse?_toText (x : Address) : parse? x.toText = some x := by
  rw [parse?]
  cases x with
  | v4 x => rw [toText, String.toList_ofList, IPv4.parse?_toChars]
  | v6 x =>
    rw [toText, String.toList_ofList, IPv4.parse?_eq_none x.colon_mem_toChars, IPv6.parse?_toChars]
    rfl

theorem slash_notMem_toText (x : Address) : '/' ∉ x.toText.toList := by
  cases x with
  | v4 x =>
    rw [toText, String.toList_ofList]
    exact IPv4.notMem_toChars (by decide) (by decide) x
  | v6 x =>
    rw [toText, String.toList_ofList]
    exact x.slash_notMem_toChars

end Address

end Net

end TrafficSteering
