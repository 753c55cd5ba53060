import Mathlib.Data.Prod.Lex
import Mathlib.Order.PiLex
import Mathlib.Tactic.Order

namespace Endless

/-- The sign tells how the first value compares with the second. -/
def Signs {α : Type*} [LT α] (sign : Int) (x y : α) : Prop :=
  sign = -1 ∧ x < y ∨ sign = 0 ∧ x = y ∨ sign = 1 ∧ y < x

section Signs

variable {α : Type*} [LinearOrder α] {x y z : α} {sign t : Int}

theorem Signs.pos_iff (signs : Signs sign x y) : 0 < sign ↔ y < x := by
  obtain ⟨rfl, less⟩ | ⟨rfl, rfl⟩ | ⟨rfl, more⟩ := signs
  · simp [less.le]
  · simp
  · simp [more]

theorem Signs.nonpos_iff (signs : Signs sign x y) : sign ≤ 0 ↔ x ≤ y := by
  rw [← not_lt, signs.pos_iff, not_lt]

theorem Signs.swap (signs : Signs sign x y) (back : Signs t y x) : t = -sign := by
  obtain ⟨rfl, less⟩ | ⟨rfl, same⟩ | ⟨rfl, more⟩ := signs <;>
    obtain ⟨rfl, less'⟩ | ⟨rfl, same'⟩ | ⟨rfl, more'⟩ := back <;> first | rfl | (exfalso; order)

end Signs

section Pairs

variable {α β : Type*} [LinearOrder α] [LinearOrder β] {a a' : α} {b b' : β} {sign t : Int}

theorem Signs.pair (first : Signs sign a a') (second : sign = 0 → Signs t b b') :
    Signs (if sign ≠ 0 then sign else t) (toLex (a, b)) (toLex (a', b')) := by
  simp only [Signs, Prod.Lex.toLex_lt_toLex, EmbeddingLike.apply_eq_iff_eq, Prod.mk.injEq]
  obtain ⟨rfl, less⟩ | ⟨rfl, rfl⟩ | ⟨rfl, more⟩ := first
  · simp [less]
  · simpa [Signs] using second rfl
  · simp [more]

theorem Signs.pair_of_first (first : Signs sign a a') (decided : sign ≠ 0) : Signs sign (toLex (a, b)) (toLex (a', b')) := by
  have pair := @Signs.pair _ _ _ _ _ _ b b' _ 0 first fun zero => absurd zero decided
  rwa [if_pos decided] at pair

end Pairs

section Sequences

variable {α : Type*} [LinearOrder α] {x y : Lex (ℕ → α)} {sign t : Int}

/-- The sequence after its first place. -/
def rest (x : Lex (ℕ → α)) : Lex (ℕ → α) := toLex fun n => ofLex x (n + 1)

theorem lt_iff : x < y ↔ ofLex x 0 < ofLex y 0 ∨ ofLex x 0 = ofLex y 0 ∧ rest x < rest y := by
  constructor
  · rintro ⟨n, before, less⟩
    cases n with
    | zero => exact Or.inl less
    | succ n => exact Or.inr ⟨before 0 n.succ_pos, n, fun k lower => before (k + 1) (Nat.succ_lt_succ lower), less⟩
  · rintro (less | ⟨same, n, before, less⟩)
    · exact ⟨0, fun k lower => absurd lower k.not_lt_zero, less⟩
    · refine ⟨n + 1, fun k lower => ?_, less⟩
      cases k with
      | zero => exact same
      | succ k => exact before k (Nat.lt_of_succ_lt_succ lower)

omit [LinearOrder α] in
theorem eq_iff : x = y ↔ ofLex x 0 = ofLex y 0 ∧ rest x = rest y := by
  refine ⟨fun same => same ▸ ⟨rfl, rfl⟩, fun ⟨first, later⟩ => ?_⟩
  funext n
  cases n with
  | zero => exact first
  | succ n => exact congrFun later n

theorem Signs.sequence (first : Signs sign (ofLex x 0) (ofLex y 0)) (later : sign = 0 → Signs t (rest x) (rest y)) :
    Signs (if sign ≠ 0 then sign else t) x y := by
  obtain ⟨rfl, less⟩ | ⟨rfl, same⟩ | ⟨rfl, more⟩ := first
  · exact Or.inl ⟨rfl, lt_iff.mpr (Or.inl less)⟩
  · obtain ⟨rfl, less⟩ | ⟨rfl, equal⟩ | ⟨rfl, more⟩ := later rfl
    · exact Or.inl ⟨rfl, lt_iff.mpr (Or.inr ⟨same, less⟩)⟩
    · exact Or.inr (Or.inl ⟨rfl, eq_iff.mpr ⟨same, equal⟩⟩)
    · exact Or.inr (Or.inr ⟨rfl, lt_iff.mpr (Or.inr ⟨same.symm, more⟩)⟩)
  · exact Or.inr (Or.inr ⟨rfl, lt_iff.mpr (Or.inl more)⟩)

theorem Signs.sequence_of_first (first : Signs sign (ofLex x 0) (ofLex y 0)) (decided : sign ≠ 0) : Signs sign x y := by
  have sequence := Signs.sequence (t := 0) first fun zero => absurd zero decided
  rwa [if_pos decided] at sequence

end Sequences

end Endless
