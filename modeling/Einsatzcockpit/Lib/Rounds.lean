import Mathlib.Data.List.Basic

namespace Rounds

variable {α : Type*} (waits : α → α → Bool)

def ready (todo : List α) : List α := todo.filter fun a => !todo.any (waits a)

/-- Each round takes all that wait for nothing left; `n` bounds the rounds. -/
def order : Nat → List α → Option (List α)
  | _, [] => some []
  | 0, _ :: _ => none
  | n + 1, todo =>
    if ready waits todo = [] then none
    else (order n (todo.filter fun a => todo.any (waits a))).map (ready waits todo ++ ·)

/-- A part whose members all wait for one another. -/
def Stuck (part : List α) : Prop := part ≠ [] ∧ ∀ a ∈ part, part.any (waits a) = true

variable {waits} {n : Nat} {todo sorted : List α}

theorem ready_perm : (ready waits todo ++ todo.filter fun a => todo.any (waits a)).Perm todo :=
  List.perm_append_comm.trans (List.filter_append_perm (fun a => todo.any (waits a)) todo)

theorem order_spec (found : order waits n todo = some sorted) :
    sorted.Perm todo ∧ sorted.Pairwise fun a b => waits a b = false := by
  fun_induction order generalizing sorted with
  | case1 =>
    cases found
    exact ⟨.refl _, .nil⟩
  | case2 | case3 => cases found
  | case4 n todo some_ busy ih =>
    obtain ⟨later, fromLater, rfl⟩ := Option.map_eq_some_iff.mp found
    obtain ⟨perm, ordered⟩ := ih fromLater
    have free : ∀ a ∈ ready waits todo, ∀ b ∈ todo, waits a b = false := by
      intro a isReady b member
      have idle := (List.mem_filter.mp isReady).2
      rw [Bool.not_eq_true', List.any_eq_false] at idle
      exact Bool.eq_false_iff.mpr (idle b member)
    refine ⟨(perm.append_left _).trans ready_perm, List.pairwise_append.mpr ⟨?_, ordered, fun a isReady b member => ?_⟩⟩
    · exact List.pairwise_of_forall_mem_list fun a isReady b member => free a isReady b (List.mem_of_mem_filter member)
    · exact free a isReady b (List.mem_of_mem_filter (perm.subset member))

theorem order_none (enough : todo.length ≤ n) : order waits n todo = none ↔ ∃ part ⊆ todo, Stuck waits part := by
  fun_induction order with
  | case1 =>
    refine iff_of_false (fun failed => by cases failed) ?_
    rintro ⟨part, inside, some_, -⟩
    exact some_ (List.subset_nil.mp inside)
  | case2 => cases enough
  | case3 n todo some_ idle =>
    refine iff_of_true rfl ⟨todo, List.Subset.refl _, some_, fun a member => ?_⟩
    by_contra free
    have isReady : a ∈ ready waits todo := List.mem_filter.mpr ⟨member, by rw [Bool.eq_false_iff.mpr free]; rfl⟩
    exact List.not_mem_nil (idle ▸ isReady)
  | case4 n todo some_ busy ih =>
    have total := (@ready_perm _ waits todo).length_eq
    have progress := List.length_pos_iff.mpr busy
    rw [List.length_append] at total
    rw [Option.map_eq_none_iff, ih (by omega)]
    constructor
    · rintro ⟨part, inside, stuck⟩
      exact ⟨part, fun _ member => List.mem_of_mem_filter (inside member), stuck⟩
    · rintro ⟨part, inside, stuck⟩
      refine ⟨part, fun a member => List.mem_filter.mpr ⟨inside member, ?_⟩, stuck⟩
      obtain ⟨b, also, waiting⟩ := List.any_eq_true.mp (stuck.2 a member)
      exact List.any_eq_true.mpr ⟨b, inside also, waiting⟩

end Rounds
