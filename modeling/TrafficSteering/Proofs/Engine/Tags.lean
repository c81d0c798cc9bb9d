import Mathlib.Data.List.Pairwise
import TrafficSteering.Proofs.Engine.Links

namespace TrafficSteering

open HookTag

def Service.Named (key : String) (s : Service) : Prop :=
  ∀ p ∈ s.ports, tag? key p ≠ none → Kind.port.key p ≠ ""

structure Service.Tagged (key : String) (ids : Nat → String) (s : Service) : Prop where
  once : (s.ports.filterMap (tag? key)).Nodup
  drawn : ∀ p ∈ s.ports, ∀ hookId ∈ tag? key p, ∃ n ≤ s.drawn, hookId = ids n
  named : s.Named key

namespace Service.Tagged

variable {key : String} {ids : Nat → String} {s t : Service} {l₁ l₂ : List Port} {p q : Port}
  {hookId : String}

theorem congr (h : s.Tagged key ids) (hports : t.ports = s.ports) (hdrawn : s.drawn ≤ t.drawn) :
    t.Tagged key ids where
  once := hports ▸ h.once
  drawn p hp hookId ht := by
    obtain ⟨n, hn, hid⟩ := h.drawn p (hports ▸ hp) hookId ht
    exact ⟨n, Nat.le_trans hn hdrawn, hid⟩
  named p hp := h.named p (hports ▸ hp)

theorem untag (h : s.Tagged key ids) (hsplit : s.ports = l₁ ++ p :: l₂) :
    (s.put .port (l₁ ++ retagged key p none :: l₂)).Tagged key ids := by
  have hmem {x : Port} (hx : x ∈ l₁ ++ retagged key p none :: l₂) :
      tag? key x = none ∨ x ∈ s.ports := by
    rcases List.mem_append.1 hx with hx | hx
    · exact .inr (by simp [hsplit, hx])
    · rcases List.mem_cons.1 hx with rfl | hx
      · exact .inl (tag?_retagged key p none)
      · exact .inr (by simp [hsplit, hx])
  refine ⟨?_, fun x hx id hid ↦ ?_, fun x hx hid ↦ ?_⟩
  · have honce := h.once
    rw [hsplit, List.filterMap_append, List.filterMap_cons] at honce
    have htags : (s.put .port (l₁ ++ retagged key p none :: l₂)).ports.filterMap (tag? key) =
        l₁.filterMap (tag? key) ++ l₂.filterMap (tag? key) := by
      simp only [put, Inventory.set, List.filterMap_append, List.filterMap_cons, tag?_retagged]
    rw [htags]
    refine honce.sublist ((List.Sublist.refl _).append ?_)
    split
    · exact List.Sublist.refl _
    · exact List.sublist_cons_self _ _
  · rcases hmem hx with hnone | hx
    · rw [hnone] at hid
      exact absurd hid (by simp)
    · exact h.drawn x hx id hid
  · rcases hmem hx with hnone | hx
    · exact absurd hnone hid
    · exact h.named x hx hid

theorem hook (h : s.Tagged key ids) (hids : Function.Injective ids) (r : FlowClassifier)
    (hsplit : s.ports = l₁ ++ p :: l₂) (hid : Kind.port.key p ≠ "") :
    ((s.add ids .flowClassifier r).put .port
      (l₁ ++ retagged key p (some (ids (s.drawn + 1))) :: l₂)).Tagged key ids := by
  have hfresh {x : Port} (hx : x ∈ s.ports) : tag? key x ≠ some (ids (s.drawn + 1)) := by
    intro htag
    obtain ⟨n, hn, hid⟩ := h.drawn x hx _ htag
    have := hids hid
    omega
  have hmem {x : Port} (hx : x ∈ l₁ ++ retagged key p (some (ids (s.drawn + 1))) :: l₂) :
      x = retagged key p (some (ids (s.drawn + 1))) ∨ x ∈ s.ports := by
    rw [hsplit]
    grind
  refine ⟨?_, fun x hx hookId hhook ↦ ?_, fun x hx htag ↦ ?_⟩
  · have hcleared := (h.untag hsplit).once
    have hnone : (l₁ ++ retagged key p none :: l₂).filterMap (tag? key) =
        l₁.filterMap (tag? key) ++ l₂.filterMap (tag? key) := by simp [tag?_retagged]
    have hsome : (l₁ ++ retagged key p (some (ids (s.drawn + 1))) :: l₂).filterMap (tag? key) =
        l₁.filterMap (tag? key) ++ ids (s.drawn + 1) :: l₂.filterMap (tag? key) := by
      simp [tag?_retagged]
    refine (hsome ▸ List.perm_middle.nodup_iff).2 (List.nodup_cons.2 ⟨?_, hnone ▸ hcleared⟩)
    rw [List.mem_append, List.mem_filterMap, List.mem_filterMap]
    rintro (⟨x, hx, htag⟩ | ⟨x, hx, htag⟩)
    · exact hfresh (by simp [hsplit, hx]) htag
    · exact hfresh (by simp [hsplit, hx]) htag
  · rcases hmem hx with rfl | hx
    · rw [tag?_retagged] at hhook
      exact ⟨s.drawn + 1, Nat.le_refl _, (Option.some.inj hhook).symm⟩
    · obtain ⟨n, hn, hid⟩ := h.drawn x hx hookId hhook
      exact ⟨n, Nat.le_succ_of_le hn, hid⟩
  · rcases hmem hx with rfl | hx
    · exact hid
    · exact h.named x hx htag

theorem step (h : s.Tagged key ids) (hids : Function.Injective ids) (hstep : Step key ids s t) :
    t.Tagged key ids := by
  cases hstep with
  | chain hchain => exact h.congr hchain.frame.1 hchain.frame.2.2
  | draw => exact h.congr rfl (Nat.le_succ _)
  | addClassifier r => exact h.congr rfl (Nat.le_succ _)
  | hook r hsplit hid => exact h.hook hids r hsplit hid
  | untag hsplit => exact h.untag hsplit
  | dropClassifier hsplit hfree => exact h.congr rfl (Nat.le_refl _)

theorem steps (h : s.Tagged key ids) (hids : Function.Injective ids) (hsteps : Steps key ids s t) :
    t.Tagged key ids := by
  induction hsteps with
  | refl => exact h
  | tail _ hstep ih => exact ih.step hids hstep

theorem eq_of_tag (h : s.Tagged key ids) (hp : p ∈ s.ports) (hq : q ∈ s.ports)
    (hptag : tag? key p = some hookId) (hqtag : tag? key q = some hookId) : p = q := by
  by_contra hne
  have hsymm : Std.Symm fun x y : Port ↦
      ∀ b, tag? key x = some b → ∀ b', tag? key y = some b' → b ≠ b' :=
    ⟨fun x y hxy b hb b' hb' he ↦ hxy b' hb' b hb he.symm⟩
  exact (List.pairwise_filterMap.1 h.once).forall hp hq hne hookId hptag hookId hqtag rfl

theorem others (h : s.Tagged key ids) (hs : s.Sound ids) {l₁ l₂ : List Port}
    (hsplit : s.ports = l₁ ++ p :: l₂) (htag : tag? key p = some hookId) :
    ∀ q ∈ l₁ ++ l₂, tag? key q ≠ some hookId := by
  intro q hq hqtag
  have hget : s.get .port = l₁ ++ p :: l₂ := hsplit
  obtain ⟨hleft, hright⟩ := hs.keys_ne hget
  have hsame : q = p := h.eq_of_tag (by grind) (by simp [hsplit]) hqtag htag
  exact (List.mem_append.1 hq).elim (hleft q · (by rw [hsame])) (hright q · (by rw [hsame]))

end Service.Tagged

end TrafficSteering
