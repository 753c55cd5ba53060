import Mathlib.Data.List.Nodup
import Mathlib.Data.List.Flatten
import Mathlib.Data.List.Perm.Basic

namespace Cover

variable {κ ι : Type*}

/-- Two entries of one lane have no item in common. -/
def Exclusive (entries : List (κ × List ι)) : Prop :=
  entries.Pairwise fun a b => a.1 = b.1 → a.2.Disjoint b.2

/-- What one lane holds, every lane holds. -/
def Full (entries : List (κ × List ι)) : Prop :=
  ∀ entry ∈ entries, ∀ item ∈ entry.2, ∀ lane, ∃ other ∈ entries, other.1 = lane ∧ item ∈ other.2

theorem exclusive_nil : Exclusive ([] : List (κ × List ι)) := List.Pairwise.nil

theorem full_nil : Full ([] : List (κ × List ι)) := fun _ member => absurd member List.not_mem_nil

theorem Exclusive.append {entries : List (κ × List ι)} (exclusive : Exclusive entries) {lanes : List κ}
    (nodup : lanes.Nodup) {items : List ι} (fresh : ∀ item ∈ items, ∀ entry ∈ entries, item ∉ entry.2) :
    Exclusive (entries ++ lanes.map fun lane => (lane, items)) := by
  refine List.pairwise_append.mpr ⟨exclusive, ?_, fun old inside new added _ item isOld isNew => ?_⟩
  · refine List.pairwise_map.mpr (nodup.imp fun {lane other} different same => ?_)
    exact absurd same different
  · obtain ⟨lane, -, rfl⟩ := List.mem_map.mp added
    exact fresh item isNew old inside isOld

theorem Full.append {entries : List (κ × List ι)} (full : Full entries) {lanes : List κ}
    (all : ∀ lane, lane ∈ lanes) (items : List ι) : Full (entries ++ lanes.map fun lane => (lane, items)) := by
  intro entry member item holds lane
  rcases List.mem_append.mp member with old | new
  · obtain ⟨other, inside, onLane, covered⟩ := full entry old item holds lane
    exact ⟨other, List.mem_append_left _ inside, onLane, covered⟩
  · obtain ⟨source, -, rfl⟩ := List.mem_map.mp new
    exact ⟨(lane, items), List.mem_append_right _ (List.mem_map_of_mem (all lane)), rfl, holds⟩

end Cover

/-! Takings of places, where nobody takes what another one holds. -/

namespace Custody

variable {τ κ : Type} {places : τ → List κ} {takings : List τ} {t : τ} {x : κ}

/-- The places that are held. -/
def held (places : τ → List κ) (takings : List τ) : List κ := takings.flatMap places

theorem held_append (takings takings' : List τ) :
    held places (takings ++ takings') = held places takings ++ held places takings' := List.flatMap_append

theorem mem_take : x ∈ held places (takings ++ [t]) ↔ x ∈ held places takings ∨ x ∈ places t := by
  rw [held_append, List.mem_append]
  simp [held]

section

variable (nodup : (held places takings).Nodup)
include nodup

theorem nodup_take (fresh : (places t).Nodup)
    (free : ∀ x ∈ places t, x ∉ held places takings) : (held places (takings ++ [t])).Nodup := by
  rw [held_append, List.nodup_append']
  refine ⟨nodup, by simpa [held] using fresh, fun x taken new => ?_⟩
  exact free x (by simpa [held] using new) taken

theorem nodup_release (keep : τ → Bool) :
    (held places (takings.filter keep)).Nodup :=
  nodup.sublist (List.filter_sublist.flatMap places)

/-- Who gives back what it holds alone gives back these places and no others. -/
theorem mem_release (keep : τ → Bool)
    (only : (takings.filter fun t => !keep t) = [t]) :
    x ∈ held places (takings.filter keep) ↔ x ∈ held places takings ∧ x ∉ places t := by
  have perm : (held places (takings.filter keep) ++ places t).Perm (held places takings) := by
    have split := (List.filter_append_perm keep takings).flatMap_right places
    rw [only, List.flatMap_append, List.flatMap_singleton] at split
    exact split
  have disjoint := (List.nodup_append'.mp (perm.nodup_iff.mpr nodup)).2.2
  rw [← perm.mem_iff, List.mem_append]
  constructor
  · exact fun kept => ⟨.inl kept, fun given => disjoint kept given⟩
  · rintro ⟨kept | given, other⟩
    · exact kept
    · exact absurd given other

end

end Custody

namespace Workers

variable {φ ι : Type*} {workers : List φ} {i : Nat} {phase next : φ}

theorem exists_split (found : workers[i]? = some phase) :
    ∃ before after, workers = before ++ phase :: after ∧ ∀ next, workers.set i next = before ++ next :: after := by
  obtain ⟨inside, rfl⟩ := List.getElem?_eq_some_iff.mp found
  refine ⟨workers.take i, workers.drop (i + 1), ?_, fun next => List.set_eq_take_append_cons_drop.trans (if_pos inside)⟩
  rw [← List.drop_eq_getElem_cons inside, List.take_append_drop]

variable (held : φ → List ι)

/-- No item is held twice. -/
def Separate (workers : List φ) : Prop := (workers.flatMap held).Nodup

variable {held}

section

variable (separate : Separate held workers)
include separate

theorem Separate.nodup (member : phase ∈ workers) : (held phase).Nodup :=
  (List.nodup_flatMap.mp separate).1 phase member

theorem Separate.congr {held' : φ → List ι}
    (same : ∀ phase ∈ workers, held' phase = held phase) : Separate held' workers := by
  unfold Separate at separate ⊢
  rwa [List.flatMap_congr same]

theorem Separate.set_sublist (found : workers[i]? = some phase)
    (less : (held next).Sublist (held phase)) : Separate held (workers.set i next) := by
  obtain ⟨before, after, rfl, set⟩ := exists_split found
  rw [set]
  unfold Separate at separate ⊢
  rw [List.flatMap_append, List.flatMap_cons] at separate ⊢
  exact separate.sublist ((less.append_right _).append_left _)

theorem Separate.set_free (found : workers[i]? = some phase)
    (nodup : (held next).Nodup) (free : ∀ other ∈ workers, ∀ item ∈ held next, item ∉ held other) :
    Separate held (workers.set i next) := by
  obtain ⟨before, after, rfl, set⟩ := exists_split found
  rw [set]
  unfold Separate at separate ⊢
  rw [List.flatMap_append, List.flatMap_cons] at separate ⊢
  have others : (before.flatMap held ++ after.flatMap held).Nodup :=
    separate.sublist ((List.sublist_append_right _ _).append_left _)
  have notBefore : ∀ item ∈ held next, item ∉ before.flatMap held := fun item mine theirs => by
    obtain ⟨other, isOther, has⟩ := List.mem_flatMap.mp theirs
    exact free other (List.mem_append_left _ isOther) item mine has
  have notAfter : ∀ item ∈ held next, item ∉ after.flatMap held := fun item mine theirs => by
    obtain ⟨other, isOther, has⟩ := List.mem_flatMap.mp theirs
    exact free other (List.mem_append_right _ (List.mem_cons_of_mem _ isOther)) item mine has
  rw [List.nodup_append'] at others
  refine List.nodup_append'.mpr ⟨others.1, List.nodup_append'.mpr ⟨nodup, others.2.1, notAfter⟩, ?_⟩
  intro item early late
  rcases List.mem_append.mp late with mine | behind
  · exact notBefore item mine early
  · exact others.2.2 early behind

theorem Separate.of_mem_set (found : workers[i]? = some phase) {other : φ}
    (member : other ∈ workers.set i next) :
    other = next ∨ other ∈ workers ∧ ∀ item ∈ held phase, item ∉ held other := by
  obtain ⟨before, after, rfl, set⟩ := exists_split found
  rw [set] at member
  unfold Separate at separate
  rw [List.flatMap_append, List.flatMap_cons] at separate
  rcases List.mem_append.mp member with early | late
  · refine Or.inr ⟨List.mem_append_left _ early, fun item mine theirs => ?_⟩
    exact (List.nodup_append'.mp separate).2.2 (List.mem_flatMap.mpr ⟨other, early, theirs⟩) (List.mem_append_left _ mine)
  · rcases List.mem_cons.mp late with isNext | behind
    · exact Or.inl isNext
    · refine Or.inr ⟨List.mem_append_right _ (List.mem_cons_of_mem _ behind), fun item mine theirs => ?_⟩
      have parts := List.nodup_append'.mp (List.nodup_append'.mp separate).2.1
      exact parts.2.2 mine (List.mem_flatMap.mpr ⟨other, behind, theirs⟩)

theorem Separate.eq_of_mem (found : workers[i]? = some phase) {other : φ}
    (member : other ∈ workers) {item : ι} (mine : item ∈ held phase) (theirs : item ∈ held other) : other = phase := by
  have kept : workers.set i phase = workers := by
    obtain ⟨before, after, same, set⟩ := exists_split found
    rw [set, ← same]
  rw [← kept] at member
  rcases separate.of_mem_set found member with same | ⟨_, apart⟩
  · exact same
  · exact absurd theirs (apart item mine)

end

section

variable (found : workers[i]? = some phase)
include found

theorem mem_set_of_ne {other : φ} (member : other ∈ workers) (differs : other ≠ phase) :
    other ∈ workers.set i next := by
  obtain ⟨before, after, rfl, set⟩ := exists_split found
  rw [set]
  rcases List.mem_append.mp member with early | late
  · exact List.mem_append_left _ early
  · exact List.mem_append_right _ (List.mem_cons_of_mem _ ((List.mem_cons.mp late).resolve_left differs))

theorem mem_set_iff {item : ι} (before : item ∉ held phase) (after : item ∉ held next)
    (other : φ) : other ∈ workers.set i next ∧ item ∈ held other ↔ other ∈ workers ∧ item ∈ held other := by
  constructor
  · rintro ⟨member, has⟩
    rcases List.mem_or_eq_of_mem_set member with old | rfl
    · exact ⟨old, has⟩
    · exact absurd has after
  · rintro ⟨member, has⟩
    exact ⟨mem_set_of_ne found member fun same => before (same ▸ has), has⟩

theorem mem_set_self : next ∈ workers.set i next := by
  obtain ⟨before, after, rfl, set⟩ := exists_split found
  rw [set]
  exact List.mem_append_right _ (List.mem_cons_self ..)

end

end Workers
