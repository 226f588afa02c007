import PumpTrade.Base.Memory

/-!
# Arenas

An arena hands out the ranges of one region from its start on: a mark says how far it has come, and
the next range begins at the mark.

* `Range`: a start and a length, `Range.Disjoint` and `Range.Inside` by the bytes of the ranges;
* `Arena`: the ranges that were handed out lie below the mark and share no byte;
* **`Arena.grant`**: one more range, and the mark beyond it.
-/

namespace Base

/-- The `len` bytes from `start` on. -/
structure Range (β : Type) where
  start : Ptr β
  len : ℕ
  deriving DecidableEq, Repr

namespace Range

variable {β : Type}

instance : Membership (Ptr β) (Range β) := ⟨fun r q => q.Within r.start r.len⟩

instance [DecidableEq β] (q : Ptr β) (r : Range β) : Decidable (q ∈ r) :=
  inferInstanceAs (Decidable (q.Within r.start r.len))

/-- No byte is in both ranges. -/
def Disjoint (r s : Range β) : Prop := ∀ q ∈ r, q ∉ s

/-- Each byte of the one range is in the other. -/
def Inside (r s : Range β) : Prop := ∀ q ∈ r, q ∈ s

theorem Inside.len_le {r s : Range β} (h : r.Inside s) (hpos : 0 < r.len) : r.len ≤ s.len := by
  have hfirst : s.start.offset ≤ r.start.offset := (h (r.start.add 0) (Ptr.within_add hpos)).2.1
  have hlast : r.start.offset + (r.len - 1) < s.start.offset + s.len :=
    (h (r.start.add (r.len - 1)) (Ptr.within_add (by omega))).2.2
  omega

end Range

/-- The mark is in the region, the ranges lie between the start of the region and the mark, and no
two share a byte. -/
structure Arena {β : Type} (region : Range β) (mark : ℕ) (ranges : List (Range β)) : Prop where
  mark_le : mark ≤ region.len
  block_eq : ∀ r ∈ ranges, r.start.block = region.start.block
  start_ge : ∀ r ∈ ranges, region.start.offset ≤ r.start.offset
  below : ∀ r ∈ ranges, r.start.offset + r.len ≤ region.start.offset + mark
  disjoint : ranges.Pairwise Range.Disjoint

variable {β : Type} {region : Range β} {mark : ℕ} {ranges : List (Range β)}

theorem arena_nil (h : mark ≤ region.len) : Arena region mark [] where
  mark_le := h
  block_eq := nofun
  start_ge := nofun
  below := nofun
  disjoint := List.Pairwise.nil

theorem Arena.inside (h : Arena region mark ranges) {r : Range β} (hr : r ∈ ranges) : r.Inside region := by
  rintro q ⟨hblock, hstart, hend⟩
  have hbelow := h.below r hr
  have hmark := h.mark_le
  refine ⟨hblock.trans (h.block_eq r hr), Nat.le_trans (h.start_ge r hr) hstart, ?_⟩
  omega

/-- **One more range**, from the mark on, and a mark at its end or beyond. -/
theorem Arena.grant (h : Arena region mark ranges) {n mark' : ℕ} (hn : mark + n ≤ mark')
    (hmark : mark' ≤ region.len) : Arena region mark' (⟨region.start.add mark, n⟩ :: ranges) where
  mark_le := hmark
  block_eq := List.forall_mem_cons.mpr ⟨rfl, h.block_eq⟩
  start_ge := List.forall_mem_cons.mpr ⟨Nat.le_add_right _ _, h.start_ge⟩
  below := by
    refine List.forall_mem_cons.mpr ⟨?_, fun r hr => ?_⟩
    · simp only [Ptr.offset_add]
      omega
    · exact Nat.le_trans (h.below r hr) (by omega)
  disjoint := by
    refine List.Pairwise.cons (fun r hr => ?_) h.disjoint
    rintro q ⟨-, hstart, -⟩ ⟨-, -, hend⟩
    have hbelow := h.below r hr
    simp only [Ptr.offset_add] at hstart
    omega

end Base
