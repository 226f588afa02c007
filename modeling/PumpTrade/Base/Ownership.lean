import Mathlib.Data.List.Nodup
import Mathlib.Logic.Function.Basic

/-!
# Ownership

Tokens that are claimed by parties, handed out by them, and given back. A claimed token has one
owner: the party that holds it, or whoever it was handed out to.

* `Owned`, with `Owned.claim`, `Owned.handOut`, `Owned.giveBack`: what each move keeps.
-/

namespace Base

variable {ι τ : Type}

/-- Each claimed token is held by one party or was handed out once. -/
structure Owned (claimed : List τ) (held : ι → Option τ) (handed : List τ) : Prop where
  claimed_nodup : claimed.Nodup
  handed_nodup : handed.Nodup
  held_inj : ∀ i j b, held i = some b → held j = some b → i = j
  not_handed : ∀ i b, held i = some b → b ∉ handed
  mem_claimed : ∀ b, b ∈ claimed ↔ b ∈ handed ∨ ∃ i, held i = some b

theorem owned_nil : Owned ([] : List τ) (fun _ : ι => none) [] where
  claimed_nodup := List.nodup_nil
  handed_nodup := List.nodup_nil
  held_inj := by simp
  not_handed := by simp
  mem_claimed := by simp

variable {claimed handed : List τ} {held : ι → Option τ} {i : ι} {b : τ}

theorem Owned.claim [DecidableEq ι] (h : Owned claimed held handed) (hi : held i = none) (hb : b ∉ claimed) :
    Owned (b :: claimed) (Function.update held i (some b)) handed := by
  have hother : ∀ j, held j ≠ some b := fun j hj => hb ((h.mem_claimed b).mpr (Or.inr ⟨j, hj⟩))
  have hupdate : ∀ j c, Function.update held i (some b) j = some c ↔ (j = i ∧ c = b) ∨ held j = some c := by
    intro j c
    by_cases hj : j = i
    · subst hj
      simp [hi, eq_comm]
    · simp [hj]
  constructor
  · exact List.nodup_cons.mpr ⟨hb, h.claimed_nodup⟩
  · exact h.handed_nodup
  · intro j k c hj hk
    rcases (hupdate j c).mp hj with ⟨rfl, rfl⟩ | hj'
    · rcases (hupdate k c).mp hk with ⟨rfl, -⟩ | hk'
      · rfl
      · exact absurd hk' (hother k)
    · rcases (hupdate k c).mp hk with ⟨rfl, rfl⟩ | hk'
      · exact absurd hj' (hother j)
      · exact h.held_inj j k c hj' hk'
  · intro j c hj hc
    rcases (hupdate j c).mp hj with ⟨rfl, rfl⟩ | hj
    · exact hb ((h.mem_claimed c).mpr (Or.inl hc))
    · exact h.not_handed j c hj hc
  · intro c
    rw [List.mem_cons, h.mem_claimed]
    simp only [hupdate]
    grind

theorem Owned.handOut [DecidableEq ι] (h : Owned claimed held handed) (hi : held i = some b) :
    Owned claimed (Function.update held i none) (b :: handed) := by
  have hupdate : ∀ j c, Function.update held i none j = some c ↔ j ≠ i ∧ held j = some c := by
    intro j c
    by_cases hj : j = i
    · subst hj
      simp
    · simp [hj]
  constructor
  · exact h.claimed_nodup
  · exact List.nodup_cons.mpr ⟨h.not_handed i b hi, h.handed_nodup⟩
  · intro j k c hj hk
    exact h.held_inj j k c ((hupdate j c).mp hj).2 ((hupdate k c).mp hk).2
  · intro j c hj hc
    obtain ⟨hne, hj⟩ := (hupdate j c).mp hj
    rcases List.mem_cons.mp hc with rfl | hc
    · exact hne (h.held_inj j i c hj hi)
    · exact h.not_handed j c hj hc
  · intro c
    rw [h.mem_claimed, List.mem_cons]
    simp only [hupdate]
    grind

theorem Owned.giveBack [DecidableEq τ] (h : Owned claimed held handed) (hb : b ∈ handed) :
    Owned (claimed.erase b) held (handed.erase b) := by
  constructor
  · exact h.claimed_nodup.erase b
  · exact h.handed_nodup.erase b
  · exact h.held_inj
  · exact fun j c hj hc => h.not_handed j c hj (List.mem_of_mem_erase hc)
  · intro c
    rw [h.claimed_nodup.mem_erase_iff, h.handed_nodup.mem_erase_iff, h.mem_claimed]
    constructor
    · rintro ⟨hne, hc⟩
      exact hc.imp_left fun hc => ⟨hne, hc⟩
    · rintro (⟨hne, hc⟩ | ⟨j, hj⟩)
      · exact ⟨hne, Or.inl hc⟩
      · refine ⟨?_, Or.inr ⟨j, hj⟩⟩
        rintro rfl
        exact h.not_handed j c hj hb

end Base
