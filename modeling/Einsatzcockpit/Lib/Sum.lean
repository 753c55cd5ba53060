import Einsatzcockpit.Lib.Table
import Mathlib.Algebra.BigOperators.Group.List.Lemmas
import Mathlib.Algebra.Order.BigOperators.Group.List
import Mathlib.Algebra.GroupWithZero.Nat
import Mathlib.Algebra.Order.Group.Int

namespace Relational

variable {α β M : Type*}

theorem sum_map_except [AddCommMonoid M] [DecidableEq β] (key : α → β) {rows : List α} (nodup : (rows.map key).Nodup)
    {row : α} (member : row ∈ rows) {f g : α → M} (others : ∀ r ∈ rows, key r ≠ key row → g r = f r) :
    (rows.map g).sum + f row = (rows.map f).sum + g row := by
  induction rows with
  | nil => cases member
  | cons head rest ih =>
    rw [List.map_cons, List.nodup_cons] at nodup
    rw [List.map_cons, List.map_cons, List.sum_cons, List.sum_cons]
    rcases List.mem_cons.mp member with rfl | inside
    · have same : rest.map g = rest.map f := by
        refine List.map_congr_left fun r isIn => others r (List.mem_cons_of_mem _ isIn) fun equal => nodup.1 ?_
        exact List.mem_map.mpr ⟨r, isIn, equal⟩
      rw [same, add_comm (g row), add_assoc, add_comm (g row), ← add_assoc, add_comm (rest.map f).sum]
    · have differs : key head ≠ key row := fun same => nodup.1 (List.mem_map.mpr ⟨row, inside, same.symm⟩)
      rw [others head (List.mem_cons_self ..) differs, add_assoc, add_assoc,
        ih nodup.2 inside fun r isIn => others r (List.mem_cons_of_mem _ isIn)]

theorem sum_indicator (p : α → Bool) (xs : List α) : (xs.map fun x => if p x then 1 else 0).sum = xs.countP p := by
  induction xs with
  | nil => rfl
  | cons x rest ih => rw [List.map_cons, List.sum_cons, List.countP_cons, ih, Nat.add_comm]

theorem sum_countP_comm (rel : α → β → Bool) (xs : List α) (ys : List β) :
    (xs.map fun x => ys.countP (rel x)).sum = (ys.map fun y => xs.countP (rel · y)).sum := by
  induction ys with
  | nil =>
    refine List.sum_eq_zero fun n member => ?_
    obtain ⟨x, -, rfl⟩ := List.mem_map.mp member
    rfl
  | cons y rest ih =>
    simp only [List.countP_cons, List.sum_map_add, List.map_cons, List.sum_cons, ih, sum_indicator]
    exact Nat.add_comm ..

theorem countP_key [DecidableEq β] (key : α → β) {rows : List α} (nodup : (rows.map key).Nodup) {row : α}
    (member : row ∈ rows) : rows.countP (fun other => key other == key row) = 1 := by
  rw [List.countP_eq_length_filter, filter_key key nodup member, List.length_singleton]

theorem sum_filter [AddMonoid M] (p : α → Bool) (f : α → M) (xs : List α) :
    ((xs.filter p).map f).sum = (xs.map fun x => if p x then f x else 0).sum := by
  induction xs with
  | nil => rfl
  | cons x rest ih =>
    rw [List.map_cons, List.sum_cons, ← ih]
    cases hit : p x with
    | true => rw [List.filter_cons_of_pos hit, List.map_cons, List.sum_cons, if_pos rfl]
    | false => rw [List.filter_cons_of_neg (by rw [hit]; decide), if_neg (by decide), zero_add]

theorem sum_ite_key [AddMonoid M] [DecidableEq β] (key : α → β) {groups : List α} (nodup : (groups.map key).Nodup)
    (owner : Option β) (a : M) : (groups.map fun g => if owner = some (key g) then a else 0).sum =
      if ∃ g ∈ groups, owner = some (key g) then a else 0 := by
  induction groups with
  | nil => simp
  | cons g rest ih =>
    rw [List.map_cons, List.nodup_cons] at nodup
    rw [List.map_cons, List.sum_cons, ih nodup.2]
    simp only [List.mem_cons, exists_eq_or_imp]
    by_cases own : owner = some (key g)
    · have alone : ¬ ∃ g' ∈ rest, owner = some (key g') := by
        rintro ⟨g', member, same⟩
        rw [own, Option.some.injEq] at same
        exact nodup.1 (List.mem_map.mpr ⟨g', member, same.symm⟩)
      rw [if_pos own, if_neg alone, if_pos (Or.inl own), add_zero]
    · simp only [own, if_false, zero_add, false_or]

theorem sum_groups [AddCommMonoid M] [DecidableEq β] {ι : Type*} (key : α → β) {groups : List α}
    (nodup : (groups.map key).Nodup) (owner : ι → Option β) (f : ι → M) (items : List ι) :
    (groups.map fun g => (items.map fun i => if owner i = some (key g) then f i else 0).sum).sum =
      (items.map fun i => if ∃ g ∈ groups, owner i = some (key g) then f i else 0).sum := by
  induction items with
  | nil => simp
  | cons i rest ih =>
    simp only [List.map_cons, List.sum_cons, List.sum_map_add]
    rw [sum_ite_key key nodup (owner i) (f i), ih]

end Relational
