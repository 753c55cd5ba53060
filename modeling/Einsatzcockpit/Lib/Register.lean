import Mathlib.Order.Lattice
import Mathlib.Data.List.Nodup
import Mathlib.Data.List.Perm.Basic

namespace Fence

variable {σ γ : Type*} [LinearOrder γ] (generation : σ → γ) (live : σ → Prop)

/-- A holder of a generation has lost its resource: a later generation was
given out, or its own one has ended. -/
def Stale (held : γ) (s : σ) : Prop :=
  held < generation s ∨ held = generation s ∧ ¬ live s

/-- Generations only grow, and a resource only comes to life again under a
later one. -/
def Advances (s t : σ) : Prop :=
  generation s ≤ generation t ∧ (live t → ¬ live s → generation s < generation t)

variable {generation live}

theorem Advances.refl (s : σ) : Advances generation live s s :=
  ⟨le_rfl, fun alive dead => absurd alive dead⟩

theorem Advances.trans {s t u : σ} (first : Advances generation live s t) (second : Advances generation live t u) :
    Advances generation live s u := by
  refine ⟨first.1.trans second.1, fun alive dead => ?_⟩
  by_cases between : live t
  · exact (first.2 between dead).trans_le second.1
  · exact first.1.trans_lt (second.2 alive between)

theorem Advances.of_dead {s t : σ} (same : generation t = generation s) (dead : ¬ live t) :
    Advances generation live s t :=
  ⟨same.ge, fun alive => absurd alive dead⟩

theorem Advances.of_lt {s t : σ} (later : generation s < generation t) : Advances generation live s t :=
  ⟨later.le, fun _ _ => later⟩

theorem Stale.advance {held : γ} {s t : σ} (stale : Stale generation live held s)
    (advances : Advances generation live s t) : Stale generation live held t := by
  rcases stale with superseded | ⟨same, dead⟩
  · exact Or.inl (superseded.trans_le advances.1)
  · rcases advances.1.lt_or_eq with later | still
    · exact Or.inl (same.trans_lt later)
    · refine Or.inr ⟨same.trans still, fun alive => ?_⟩
      exact absurd still (advances.2 alive dead).ne

theorem Stale.of_dead {held : γ} {s : σ} (bound : held ≤ generation s) (dead : ¬ live s) :
    Stale generation live held s :=
  bound.lt_or_eq.imp id fun same => ⟨same, dead⟩

/-- A compare-and-set over the generation and its life refuses a stale holder. -/
theorem Stale.refused {held : γ} {s : σ} (stale : Stale generation live held s) :
    ¬ (live s ∧ generation s = held) := by
  rintro ⟨alive, same⟩
  rcases stale with superseded | ⟨-, dead⟩
  · exact absurd same.symm superseded.ne
  · exact dead alive

end Fence

namespace Register

variable {α β τ : Type*} [LinearOrder τ]

/-- The value `current` is that of a write with the greatest stamp, or the
initial one while there is none. -/
def Holds (stamp : α → τ) (value : α → β) (initial : β) (writes : List α) (current : β) : Prop :=
  writes = [] ∧ current = initial ∨
    ∃ last ∈ writes, (∀ write ∈ writes, stamp write ≤ stamp last) ∧ current = value last

variable {stamp : α → τ} {value : α → β} {initial current current' : β} {writes writes' : List α}

theorem Holds.empty (stamp : α → τ) (value : α → β) (initial : β) : Holds stamp value initial [] initial :=
  Or.inl ⟨rfl, rfl⟩

theorem Holds.newest (initial : β) {write : α} (newest : ∀ other ∈ writes, stamp other ≤ stamp write) :
    Holds stamp value initial (writes ++ [write]) (value write) := by
  refine Or.inr ⟨write, by simp, fun other member => ?_, rfl⟩
  rcases List.mem_append.mp member with old | new
  · exact newest other old
  · rw [List.mem_singleton.mp new]

theorem Holds.older (held : Holds stamp value initial writes current) {write newer : α} (member : newer ∈ writes)
    (older : stamp write ≤ stamp newer) : Holds stamp value initial (writes ++ [write]) current := by
  rcases held with ⟨rfl, -⟩ | ⟨last, isWrite, greatest, isValue⟩
  · cases member
  · refine Or.inr ⟨last, List.mem_append_left _ isWrite, fun other known => ?_, isValue⟩
    rcases List.mem_append.mp known with old | new
    · exact greatest other old
    · rw [List.mem_singleton.mp new]
      exact older.trans (greatest newer member)

theorem Holds.unique (held : Holds stamp value initial writes current)
    (held' : Holds stamp value initial writes' current') (same : writes.Perm writes')
    (distinct : (writes.map stamp).Nodup) : current = current' := by
  rcases held with ⟨rfl, rfl⟩ | ⟨last, isWrite, greatest, rfl⟩
  · rcases held' with ⟨-, rfl⟩ | ⟨last', isWrite', -⟩
    · rfl
    · rw [same.nil_eq.symm] at isWrite'
      cases isWrite'
  · rcases held' with ⟨rfl, -⟩ | ⟨last', isWrite', greatest', rfl⟩
    · rw [same.eq_nil] at isWrite
      cases isWrite
    · have stamps : stamp last = stamp last' :=
        le_antisymm (greatest' last (same.mem_iff.mp isWrite)) (greatest last' (same.mem_iff.mpr isWrite'))
      rw [List.inj_on_of_nodup_map distinct isWrite (same.mem_iff.mpr isWrite') stamps]

end Register
