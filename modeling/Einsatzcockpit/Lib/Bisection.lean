import Mathlib.Tactic.FieldSimp
import Mathlib.Tactic.Linarith
import Mathlib.Tactic.Positivity
import Mathlib.Tactic.Ring

/-! Bisection for the greatest point that is acceptable. The acceptable points form an
interval, which need not reach down to the point where the search begins. -/

namespace Bisection

variable {K : Type*} [Field K] [LinearOrder K] [IsStrictOrderedRing K]

/-- Halves the interval until it is no wider than the tolerance, `fuel` times at most. -/
def bisect (ok : K → Bool) (tol : K) : Nat → K → K → K
  | 0, lo, _ => lo
  | fuel + 1, lo, hi =>
    if tol < hi - lo then
      if ok ((lo + hi) / 2) then bisect ok tol fuel ((lo + hi) / 2) hi else bisect ok tol fuel lo ((lo + hi) / 2)
    else lo

/-- How often an interval of that width is halved. -/
def halvings (tol : K) : Nat → K → Nat
  | 0, _ => 0
  | fuel + 1, width => if tol < width then halvings tol fuel (width / 2) + 1 else 0

variable {ok : K → Bool} {tol anchor top : K}

theorem bisect_mem {fuel : Nat} {lo hi : K} (order : lo ≤ hi) : lo ≤ bisect ok tol fuel lo hi ∧ bisect ok tol fuel lo hi ≤ hi := by
  induction fuel generalizing lo hi with
  | zero => exact ⟨le_rfl, order⟩
  | succ fuel ih =>
    rw [bisect]
    split_ifs
    · have rest := ih (by linarith : (lo + hi) / 2 ≤ hi)
      exact ⟨by linarith [rest.1], rest.2⟩
    · have rest := ih (by linarith : lo ≤ (lo + hi) / 2)
      exact ⟨rest.1, by linarith [rest.2]⟩
    · exact ⟨le_rfl, order⟩

/-- What is known of an interval that is searched: it begins at the left end or at an
acceptable point, and all acceptable points lie below its end. -/
structure Searched (ok : K → Bool) (top lo hi : K) : Prop where
  nonneg : 0 ≤ lo
  within : lo < hi ∧ hi ≤ top
  start : lo = 0 ∨ ok lo = true
  above : ∀ q, 0 ≤ q → q ≤ top → ok q = true → q < hi

/-- The steps of the grid that the halvings make of an interval. -/
def grid (tol : K) (fuel : Nat) (lo hi : K) : K := (hi - lo) / 2 ^ halvings tol fuel (hi - lo)

theorem grid_halve {fuel : Nat} {lo hi : K} (wide : tol < hi - lo) {lo' hi' : K} (half : hi' - lo' = (hi - lo) / 2) :
    grid tol (fuel + 1) lo hi = grid tol fuel lo' hi' ∧ ∃ k : Nat, (hi - lo) / 2 = k * grid tol fuel lo' hi' := by
  have steps : halvings tol (fuel + 1) (hi - lo) = halvings tol fuel (hi' - lo') + 1 := by rw [halvings, if_pos wide, half]
  refine ⟨?_, 2 ^ halvings tol fuel (hi' - lo'), ?_⟩
  · rw [grid, grid, steps, half, pow_succ', ← div_div]
  · rw [grid, half, Nat.cast_pow, Nat.cast_ofNat, mul_div_cancel₀]
    exact pow_ne_zero _ two_ne_zero

theorem grid_nonneg {fuel : Nat} {lo hi : K} (order : lo ≤ hi) : 0 ≤ grid tol fuel lo hi :=
  div_nonneg (sub_nonneg.mpr order) (pow_nonneg zero_le_two _)

/-- Of the steps that are as wide as the interval, the first is already too far. -/
theorem Searched.coarse {lo hi : K} (searched : Searched ok top lo hi) {k : Nat} (inside : lo + k * (hi - lo) ≤ top)
    (isOk : ok (lo + k * (hi - lo)) = true) : lo + k * (hi - lo) ≤ lo := by
  have width := sub_pos.mpr searched.within.1
  have under := searched.above _ (add_nonneg searched.nonneg (mul_nonneg (Nat.cast_nonneg k) width.le)) inside isOk
  rcases Nat.eq_zero_or_pos k with rfl | some_
  · rw [Nat.cast_zero, zero_mul, add_zero]
  · have one : (1 : K) ≤ k := by exact_mod_cast some_
    nlinarith

section

variable (convex : ∀ a b c, 0 ≤ a → c ≤ top → a ≤ b → b ≤ c → ok a = true → ok c = true → ok b = true) (isOk : ok anchor = true)
include convex isOk

/-- Where the middle is not acceptable and above the anchor, the search goes on below it. -/
theorem Searched.lower (nonneg : 0 ≤ anchor) {lo hi : K} (searched : Searched ok top lo hi)
    (bad : ¬ ok ((lo + hi) / 2) = true) (high : anchor < (lo + hi) / 2) : Searched ok top lo ((lo + hi) / 2) where
  nonneg := searched.nonneg
  within := ⟨by linarith [searched.within.1], by linarith [searched.within.1, searched.within.2]⟩
  start := searched.start
  above q _ inside good := not_le.mp fun beyond => bad (convex anchor _ q nonneg inside high.le beyond isOk good)

/-- Where it is below the anchor, the search ends at the left end, and the grid has no
acceptable point but that. -/
theorem Searched.stop (small : anchor ≤ tol) (below : anchor ≤ top) {fuel : Nat} {lo hi : K} (searched : Searched ok top lo hi)
    (bad : ¬ ok ((lo + hi) / 2) = true) (low : (lo + hi) / 2 ≤ anchor) :
    lo = 0 ∧ bisect ok tol fuel lo ((lo + hi) / 2) = 0 ∧ grid tol fuel lo ((lo + hi) / 2) = (lo + hi) / 2 := by
  have left : lo = 0 := searched.start.resolve_right fun good =>
    bad (convex lo _ anchor searched.nonneg below (by linarith [searched.within.1]) low good isOk)
  subst left
  have narrow : ¬ tol < (0 + hi) / 2 - 0 := by linarith
  refine ⟨rfl, ?_, ?_⟩
  · cases fuel with
    | zero => rfl
    | succ fuel => rw [bisect, if_neg narrow]
  · have none_ : halvings tol fuel ((0 + hi) / 2 - 0) = 0 := by
      cases fuel with
      | zero => rfl
      | succ fuel => rw [halvings, if_neg narrow]
    rw [grid, none_, pow_zero, div_one, sub_zero]

/-- The search ends at the greatest acceptable point of the grid, and at the left end if
there is none. -/
theorem bisect_greatest (nonneg : 0 ≤ anchor) (small : anchor ≤ tol) (below : anchor ≤ top) {fuel : Nat} {lo hi : K}
    (searched : Searched ok top lo hi) :
    (bisect ok tol fuel lo hi = 0 ∨ ok (bisect ok tol fuel lo hi) = true) ∧
      (∃ k : Nat, bisect ok tol fuel lo hi = lo + k * grid tol fuel lo hi) ∧
      ∀ k : Nat, lo + k * grid tol fuel lo hi ≤ top → ok (lo + k * grid tol fuel lo hi) = true →
        lo + k * grid tol fuel lo hi ≤ bisect ok tol fuel lo hi := by
  induction fuel generalizing lo hi with
  | zero =>
    rw [bisect, grid, halvings, pow_zero, div_one]
    exact ⟨searched.start, ⟨0, by simp⟩, fun k inside good => searched.coarse inside good⟩
  | succ fuel ih =>
    rw [bisect]
    by_cases wide : tol < hi - lo
    · have order := searched.within
      have midLo : hi - (lo + hi) / 2 = (hi - lo) / 2 := by ring
      have midHi : (lo + hi) / 2 - lo = (hi - lo) / 2 := by ring
      rw [if_pos wide]
      by_cases good : ok ((lo + hi) / 2) = true
      · rw [if_pos good]
        obtain ⟨same, half, isHalf⟩ := @grid_halve K _ _ _ tol fuel lo hi wide _ _ midLo
        have next : Searched ok top ((lo + hi) / 2) hi :=
          ⟨by have := searched.nonneg; linarith, ⟨by linarith [order.1], order.2⟩, Or.inr good, searched.above⟩
        obtain ⟨found, ⟨k, isK⟩, greatest⟩ := ih next
        have mid : (lo + hi) / 2 = lo + half * grid tol fuel ((lo + hi) / 2) hi := by rw [← isHalf]; ring
        have atLeast : (lo + hi) / 2 ≤ bisect ok tol fuel ((lo + hi) / 2) hi := by
          have reached := greatest 0 (by simpa using (by linarith [order.1, order.2] : (lo + hi) / 2 ≤ top)) (by simpa using good)
          simpa using reached
        rw [same]
        refine ⟨found, ⟨half + k, ?_⟩, fun k' inside isOk' => ?_⟩
        · rw [isK, Nat.cast_add, add_mul, ← add_assoc, ← mid]
        · rcases le_total k' half with less | more
          · have less' : (k' : K) ≤ half := by exact_mod_cast less
            have steps := mul_le_mul_of_nonneg_right less' (@grid_nonneg K _ _ _ tol fuel _ _ next.within.1.le)
            linarith
          · obtain ⟨rest, rfl⟩ := Nat.exists_eq_add_of_le more
            have split : lo + ((half + rest : Nat) : K) * grid tol fuel ((lo + hi) / 2) hi =
                (lo + hi) / 2 + rest * grid tol fuel ((lo + hi) / 2) hi := by
              rw [Nat.cast_add, add_mul, ← add_assoc, ← mid]
            rw [split] at inside isOk' ⊢
            exact greatest rest inside isOk'
      · rw [if_neg good]
        rw [(@grid_halve K _ _ _ tol fuel lo hi wide _ _ midHi).1]
        rcases lt_or_ge anchor ((lo + hi) / 2) with high | low
        · exact ih (searched.lower convex isOk nonneg good high)
        · obtain ⟨left, stopped, step⟩ := @Searched.stop K _ _ _ ok tol anchor top convex isOk small below fuel lo hi searched good low
          rw [stopped, step]
          subst left
          refine ⟨Or.inl rfl, ⟨0, by simp⟩, fun k inside isOk' => ?_⟩
          have width := searched.within.1
          have under := searched.above _ (add_nonneg le_rfl (mul_nonneg (Nat.cast_nonneg k) (by linarith))) inside isOk'
          match k with
          | 0 => simp
          | 1 => exact absurd (by simpa using isOk') good
          | k + 2 =>
            have two : (2 : K) ≤ ((k + 2 : Nat) : K) := by exact_mod_cast Nat.le_add_left 2 k
            nlinarith
    · rw [if_neg wide]
      have same : grid tol (fuel + 1) lo hi = hi - lo := by rw [grid, halvings, if_neg wide, pow_zero, div_one]
      rw [same]
      exact ⟨searched.start, ⟨0, by simp⟩, fun k inside good => searched.coarse inside good⟩

end

end Bisection
