import Mathlib.Data.List.Perm.Basic
import Mathlib.Data.List.Dedup

/-! Writes over a state that may arrive in any order and any number of times. -/

namespace Overlay

variable {σ ε : Type*} {same : σ → σ → Prop} {apply : σ → ε → σ}

/-- Up to `same` the writes commute and repeating one changes nothing. -/
structure OrderFree (same : σ → σ → Prop) (apply : σ → ε → σ) : Prop where
  equivalence : Equivalence same
  congr : ∀ {s t : σ} (e : ε), same s t → same (apply s e) (apply t e)
  comm : ∀ (s : σ) (e f : ε), same (apply (apply s e) f) (apply (apply s f) e)
  idem : ∀ (s : σ) (e : ε), same (apply (apply s e) e) (apply s e)

namespace OrderFree

variable (free : OrderFree same apply)
include free

theorem foldl_congr (events : List ε) {s t : σ} (equal : same s t) :
    same (events.foldl apply s) (events.foldl apply t) := by
  induction events generalizing s t with
  | nil => exact equal
  | cons e rest ih => exact ih (free.congr e equal)

theorem foldl_perm {events events' : List ε} (perm : events.Perm events') (s : σ) :
    same (events.foldl apply s) (events'.foldl apply s) := by
  induction perm generalizing s with
  | nil => exact free.equivalence.refl s
  | cons e _ ih => exact ih (apply s e)
  | swap e f rest => exact free.foldl_congr rest (free.comm s f e)
  | trans _ _ first second => exact free.equivalence.trans (first s) (second s)

theorem foldl_absorb {events : List ε} {e : ε} (member : e ∈ events) (s : σ) :
    same (events.foldl apply (apply s e)) (events.foldl apply s) := by
  induction events generalizing s with
  | nil => cases member
  | cons head rest ih =>
    rcases List.mem_cons.mp member with rfl | inside
    · exact free.foldl_congr rest (free.idem s e)
    · exact free.equivalence.trans (free.foldl_congr rest (free.comm s e head)) (ih inside (apply s head))

theorem foldl_subset {events more : List ε} (subset : events ⊆ more) (s : σ) :
    same (more.foldl apply (events.foldl apply s)) (more.foldl apply s) := by
  induction events generalizing s with
  | nil => exact free.equivalence.refl _
  | cons e rest ih =>
    have later := ih (fun f inside => subset (List.mem_cons_of_mem _ inside)) (apply s e)
    exact free.equivalence.trans later (free.foldl_absorb (subset (List.mem_cons_self ..)) s)

theorem foldl_of_mem {events events' : List ε} (members : ∀ e, e ∈ events ↔ e ∈ events') (s : σ) :
    same (events.foldl apply s) (events'.foldl apply s) := by
  have left := free.foldl_subset (fun e inside => (members e).mp inside) s
  have right := free.foldl_subset (fun e inside => (members e).mpr inside) s
  rw [← List.foldl_append] at left right
  have swapped := free.foldl_perm (List.perm_append_comm : (events ++ events').Perm (events' ++ events)) s
  exact free.equivalence.trans (free.equivalence.symm right)
    (free.equivalence.trans (free.equivalence.symm swapped) left)

end OrderFree

end Overlay

namespace Reorder

variable {α β γ δ : Type}

/-- The entries of the one list in another order, each in relation with its partner. -/
def Reordered (R : α → β → Prop) (a : List α) (b : List β) : Prop :=
  ∃ between, a.Perm between ∧ List.Forall₂ R between b

variable {R : α → β → Prop} {a : List α} {b : List β}

theorem Reordered.map {S : γ → δ → Prop} {f : α → γ} {g : β → δ} (reordered : Reordered R a b)
    (step : ∀ x y, R x y → S (f x) (g y)) : Reordered S (a.map f) (b.map g) := by
  obtain ⟨between, perm, partners⟩ := reordered
  refine ⟨between.map f, perm.map f, ?_⟩
  rw [List.forall₂_map_left_iff, List.forall₂_map_right_iff]
  exact partners.imp fun x y related => step x y related

theorem Reordered.filter {p : α → Bool} {q : β → Bool} (reordered : Reordered R a b)
    (agree : ∀ x y, R x y → p x = q y) : Reordered R (a.filter p) (b.filter q) := by
  obtain ⟨between, perm, partners⟩ := reordered
  refine ⟨between.filter p, perm.filter p, List.rel_filter (fun {x y} related => ?_) partners⟩
  show p x = true ↔ q y = true
  rw [agree x y related]

theorem Reordered.perm {a b : List α} (reordered : Reordered Eq a b) : a.Perm b := by
  obtain ⟨between, perm, partners⟩ := reordered
  rw [List.forall₂_eq_eq_eq] at partners
  rwa [← partners]

theorem Reordered.partner (reordered : Reordered R a b) {x : α} (member : x ∈ a) : ∃ y ∈ b, R x y := by
  obtain ⟨between, perm, partners⟩ := reordered
  have among := perm.mem_iff.mp member
  clear perm member
  induction partners with
  | nil => cases among
  | cons related partners ih =>
    rcases List.mem_cons.mp among with rfl | among
    · exact ⟨_, List.mem_cons_self, related⟩
    · obtain ⟨y, member, related⟩ := ih among
      exact ⟨y, List.mem_cons_of_mem _ member, related⟩

theorem Reordered.partner' (reordered : Reordered R a b) {y : β} (member : y ∈ b) : ∃ x ∈ a, R x y := by
  obtain ⟨between, perm, partners⟩ := reordered
  have found : ∃ x ∈ between, R x y := by
    clear perm
    induction partners with
    | nil => cases member
    | cons related partners ih =>
      rcases List.mem_cons.mp member with rfl | member
      · exact ⟨_, List.mem_cons_self, related⟩
      · obtain ⟨x, among, related⟩ := ih member
        exact ⟨x, List.mem_cons_of_mem _ among, related⟩
  obtain ⟨x, among, related⟩ := found
  exact ⟨x, perm.mem_iff.mpr among, related⟩

theorem Reordered.shape (reordered : Reordered R a b) :
    (a = [] ∧ b = []) ∨ (∃ x y, R x y ∧ a = [x] ∧ b = [y]) ∨
      ∃ x y rest x' y' rest', a = x :: y :: rest ∧ b = x' :: y' :: rest' := by
  obtain ⟨between, perm, partners⟩ := reordered
  cases partners with
  | nil => exact .inl ⟨List.perm_nil.mp perm, rfl⟩
  | cons related partners =>
    cases partners with
    | nil => exact .inr (.inl ⟨_, _, related, List.perm_singleton.mp perm, rfl⟩)
    | cons _ partners =>
      have length := perm.length_eq
      match a with
      | x :: y :: rest => exact .inr (.inr ⟨x, y, rest, _, _, _, rfl, rfl⟩)

theorem Reordered.of_perm {a b : List α} (perm : a.Perm b) : Reordered Eq a b :=
  ⟨b, perm, List.forall₂_refl b⟩

/-- Two lists with the same members are the same without their repetitions. -/
theorem dedup_perm [DecidableEq α] {a b : List α} (same : ∀ x, x ∈ a ↔ x ∈ b) : a.dedup.Perm b.dedup :=
  (List.perm_ext_iff_of_nodup (List.nodup_dedup a) (List.nodup_dedup b)).mpr fun x => by
    rw [List.mem_dedup, List.mem_dedup]
    exact same x

end Reorder
