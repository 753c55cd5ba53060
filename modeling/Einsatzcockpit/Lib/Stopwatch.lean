import Mathlib.Algebra.Order.Group.Defs
import Mathlib.Algebra.Order.Sub.Basic
import Mathlib.Tactic.Abel

/-- A clock that can be stopped: what it has counted, and since when it runs. -/
structure Stopwatch (τ : Type*) where
  elapsed : τ
  since : Option τ

namespace Stopwatch

variable {τ : Type*} [AddCommGroup τ] (w : Stopwatch τ)

/-- What the clock shows. -/
def reading (now : τ) : τ :=
  match w.since with
  | none => w.elapsed
  | some start => w.elapsed + (now - start)

def stop (now : τ) : Stopwatch τ := { elapsed := w.reading now, since := none }

def start (now : τ) : Stopwatch τ := { w with since := some now }

variable {w} {now later from_ : τ}

@[simp] theorem reading_stop (now later : τ) : (w.stop now).reading later = w.reading now := rfl

theorem reading_start (now later : τ) : (w.start now).reading later = w.elapsed + (later - now) := rfl

theorem reading_of_stopped (stopped : w.since = none) (now : τ) : w.reading now = w.elapsed := by
  rw [reading, stopped]

theorem reading_start_self (stopped : w.since = none) (now : τ) : (w.start now).reading now = w.reading now := by
  rw [reading_start, sub_self, add_zero, reading_of_stopped stopped]

variable [LinearOrder τ] [IsOrderedAddMonoid τ]

theorem reading_mono (order : now ≤ later) : w.reading now ≤ w.reading later := by
  unfold reading
  split
  · exact le_rfl
  · exact add_le_add_right (sub_le_sub_right order _) _

end Stopwatch
