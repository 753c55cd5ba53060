import Mathlib.Algebra.Order.Group.Defs
import Mathlib.Data.List.Count
import Mathlib.Tactic.Abel

/-! A level falls along a sequence of stretches, and a relay at the start of a stretch brings it
back to a fixed value. -/

namespace Relay

section Definitions

variable {K : Type*} [AddCommGroup K] [LinearOrder K] (least fresh : K)

/-- The level after a stretch, at whose start a relay may stand. -/
def after (level loss : K) (relay : Bool) : K := (if relay then fresh else level) - loss

/-- The relays keep the level up over each of the stretches. -/
def Keeps : K → List K → List Bool → Prop
  | _, [], [] => True
  | level, loss :: losses, relay :: relays =>
    least ≤ after fresh level loss relay ∧ Keeps (after fresh level loss relay) losses relays
  | _, _, _ => False

def final : K → List K → List Bool → K
  | level, loss :: losses, relay :: relays => final (after fresh level loss relay) losses relays
  | level, _, _ => level

/-- The relays that are set as late as possible. -/
def late : K → List K → Option (List Bool)
  | _, [] => some []
  | level, loss :: losses =>
    if least ≤ level - loss then (late (level - loss) losses).map (false :: ·)
    else if least ≤ fresh - loss then (late (fresh - loss) losses).map (true :: ·)
    else none

/-- Where a relay becomes due, the loss since the start has not been greater before; `drop` is
how much greater it has been. -/
def Peaks : K → K → List K → Prop
  | _, _, [] => True
  | drop, level, loss :: losses =>
    if least ≤ level - loss then Peaks (max (drop - loss) 0) (level - loss) losses
    else drop = 0 ∧ Peaks (max (drop - loss) 0) (fresh - loss) losses

instance Keeps.decidable : ∀ (level : K) (losses : List K) (relays : List Bool), Decidable (Keeps least fresh level losses relays)
  | _, [], [] => isTrue trivial
  | level, loss :: losses, relay :: relays =>
    have := Keeps.decidable (after fresh level loss relay) losses relays
    inferInstanceAs (Decidable (least ≤ after fresh level loss relay ∧ Keeps least fresh (after fresh level loss relay) losses relays))
  | _, [], _ :: _ => isFalse id
  | _, _ :: _, [] => isFalse id

instance Peaks.decidable : ∀ (drop level : K) (losses : List K), Decidable (Peaks least fresh drop level losses)
  | _, _, [] => isTrue trivial
  | drop, level, loss :: losses =>
    have := Peaks.decidable (max (drop - loss) 0) (level - loss) losses
    have := Peaks.decidable (max (drop - loss) 0) (fresh - loss) losses
    inferInstanceAs (Decidable (if least ≤ level - loss then Peaks least fresh (max (drop - loss) 0) (level - loss) losses
      else drop = 0 ∧ Peaks least fresh (max (drop - loss) 0) (fresh - loss) losses))

end Definitions

section Late

variable {K : Type*} [AddCommGroup K] [LinearOrder K] {least fresh : K}

theorem late_keeps {level : K} {losses : List K} {chosen : List Bool} (isLate : late least fresh level losses = some chosen) :
    Keeps least fresh level losses chosen := by
  induction losses generalizing level chosen with
  | nil =>
    cases isLate
    trivial
  | cons loss losses ih =>
    rw [late] at isLate
    split_ifs at isLate with far fit
    · obtain ⟨rest, isRest, rfl⟩ := Option.map_eq_some_iff.mp isLate
      exact ⟨far, ih isRest⟩
    · obtain ⟨rest, isRest, rfl⟩ := Option.map_eq_some_iff.mp isLate
      exact ⟨fit, ih isRest⟩

end Late

section Fewest

variable {K : Type*} [AddCommGroup K] [LinearOrder K] [IsOrderedAddMonoid K] {least fresh : K}

/-- How another placement can stand that has set `spare` relays more so far. -/
structure Compared (fresh drop own other : K) (spare : Nat) : Prop where
  same : spare = 0 → other ≤ own
  more : 0 < spare → other ≤ fresh + drop

variable {drop own other loss : K} {spare : Nat}

theorem Compared.far (compared : Compared fresh drop own other spare) (start : 0 ≤ drop) (relay : Bool) :
    Compared fresh (max (drop - loss) 0) (own - loss) (after fresh other loss relay) (spare + relay.toNat) := by
  cases relay with
  | false =>
    refine ⟨fun none_ => sub_le_sub_right (compared.same none_) loss, fun some_ => ?_⟩
    calc other - loss ≤ fresh + drop - loss := sub_le_sub_right (compared.more some_) loss
      _ = fresh + (drop - loss) := add_sub_assoc ..
      _ ≤ fresh + max (drop - loss) 0 := add_le_add_right (le_max_left ..) fresh
  | true =>
    refine ⟨fun none_ => absurd none_ (Nat.succ_ne_zero spare), fun _ => ?_⟩
    calc fresh - loss ≤ fresh - loss + drop := le_add_of_nonneg_right start
      _ = fresh + (drop - loss) := by abel
      _ ≤ fresh + max (drop - loss) 0 := add_le_add_right (le_max_left ..) fresh

/-- A relay is due, and the other placement has set one more or sets one too. -/
theorem Compared.due (compared : Compared fresh 0 own other spare) (due : ¬ least ≤ own - loss) {relay : Bool}
    (keeps : least ≤ after fresh other loss relay) : least ≤ fresh - loss ∧ ∃ spare', spare + relay.toNat = spare' + 1 ∧
      Compared fresh (max (0 - loss) 0) (fresh - loss) (after fresh other loss relay) spare' := by
  have lift : ∀ level ≤ fresh, level - loss ≤ fresh + max (0 - loss) 0 := by
    intro level low
    calc level - loss ≤ fresh - loss := sub_le_sub_right low loss
      _ = fresh + (0 - loss) := by abel
      _ ≤ fresh + max (0 - loss) 0 := add_le_add_right (le_max_left ..) fresh
  cases relay with
  | false =>
    cases spare with
    | zero => exact absurd (keeps.trans (sub_le_sub_right (compared.same rfl) loss)) due
    | succ spare =>
      have low : other ≤ fresh := (compared.more (Nat.succ_pos spare)).trans_eq (add_zero fresh)
      exact ⟨keeps.trans (sub_le_sub_right low loss), spare, rfl, fun _ => sub_le_sub_right low loss, fun _ => lift other low⟩
  | true => exact ⟨keeps, spare, rfl, fun _ => le_rfl, fun _ => lift fresh le_rfl⟩

end Fewest

end Relay
