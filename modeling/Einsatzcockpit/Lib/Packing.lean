import Mathlib.Algebra.BigOperators.Group.List.Basic
import Mathlib.Algebra.GroupWithZero.Nat
import Mathlib.Algebra.Order.Monoid.Unbundled.Basic

namespace Packing

variable {α : Type*} (cap : Nat) (size : α → Nat)

/-- The parts, each as long as it can be; `part` is the open one. -/
def pack (part : List α) : List α → List (List α)
  | [] => [part]
  | a :: rest => if ((part ++ [a]).map size).sum ≤ cap then pack (part ++ [a]) rest else part :: pack [a] rest

/-- The number of parts that are opened when `used` is taken up already. -/
def opened (used : Nat) : List α → Nat
  | [] => 0
  | a :: rest => if used + size a ≤ cap then opened (used + size a) rest else opened (size a) rest + 1

/-- What is left free in the parts that are closed. -/
def loss (used : Nat) : List α → Nat
  | [] => 0
  | a :: rest => if used + size a ≤ cap then loss (used + size a) rest else (cap - used) + loss (size a) rest

variable {cap : Nat} {size : α → Nat}

theorem length_pack (part items : List α) : (pack cap size part items).length = opened cap size (part.map size).sum items + 1 := by
  induction items generalizing part with
  | nil => rfl
  | cons a rest ih =>
    have more : ((part ++ [a]).map size).sum = (part.map size).sum + size a := by simp
    rw [pack, opened, more]
    split
    · rw [ih, more]
    · rw [List.length_cons, ih, List.map_singleton, List.sum_singleton]

theorem opened_bounds {used : Nat} {items : List α} (small : ∀ a ∈ items, 0 < size a ∧ size a ≤ cap) (fits : used ≤ cap) :
    used + (items.map size).sum + loss cap size used items ≤ cap * (opened cap size used items + 1) ∧
      (opened cap size used items = 0 ∨ cap * opened cap size used items < used + (items.map size).sum + loss cap size used items) := by
  induction items generalizing used with
  | nil => exact ⟨by simpa [opened, loss] using fits, Or.inl rfl⟩
  | cons a rest ih =>
    have later : ∀ b ∈ rest, 0 < size b ∧ size b ≤ cap := fun b member => small b (List.mem_cons_of_mem _ member)
    rw [opened, loss, List.map_cons, List.sum_cons]
    split
    · next also =>
      have rest_ := ih later also
      rwa [Nat.add_assoc used] at rest_
    · have first := small a (List.mem_cons_self ..)
      have rest_ := ih later first.2
      rw [Nat.mul_succ]
      refine ⟨by omega, Or.inr ?_⟩
      rw [Nat.mul_succ]
      rcases rest_.2 with none_ | some_
      · rw [none_, Nat.mul_zero]
        omega
      · omega

theorem length_pack_le_iff {items : List α} (small : ∀ a ∈ items, 0 < size a ∧ size a ≤ cap) (some_ : items ≠ []) {n : Nat} :
    (pack cap size [] items).length ≤ n ↔ (items.map size).sum + loss cap size 0 items ≤ cap * n := by
  rw [length_pack, List.map_nil, List.sum_nil]
  obtain ⟨enough, last⟩ := opened_bounds small (Nat.zero_le cap)
  rw [Nat.zero_add] at enough last
  refine ⟨fun less => enough.trans (Nat.mul_le_mul_left _ less), fun room => ?_⟩
  rcases last with none_ | more
  · rw [none_]
    refine Nat.one_le_iff_ne_zero.mpr fun zero => ?_
    cases items with
    | nil => exact some_ rfl
    | cons a rest =>
      have first := (small a (List.mem_cons_self ..)).1
      rw [zero, Nat.mul_zero, List.map_cons, List.sum_cons] at room
      omega
  · exact Nat.lt_of_mul_lt_mul_left (more.trans_le room)

/-- Counting by division is right exactly where the loss does not need a further part. -/
theorem length_pack_eq_ceil {items : List α} {total : Nat} (small : ∀ a ∈ items, 0 < size a ∧ size a ≤ cap) (some_ : items ≠ [])
    (capacious : 0 < cap) (counted : total ≤ (items.map size).sum) :
    (total + (cap - 1)) / cap = (pack cap size [] items).length ↔
      (items.map size).sum + loss cap size 0 items ≤ cap * ((total + (cap - 1)) / cap) := by
  have enough := (length_pack_le_iff small some_).mp (le_refl (pack cap size [] items).length)
  have least : (total + (cap - 1)) / cap ≤ (pack cap size [] items).length := by
    rw [Nat.div_le_iff_le_mul_add_pred capacious]
    omega
  rw [← length_pack_le_iff small some_]
  exact ⟨fun same => same.ge, fun less => least.antisymm less⟩

end Packing
