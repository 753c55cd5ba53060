import Mathlib.Data.List.Nodup
import Mathlib.Data.List.Perm.Basic

namespace Ancestry

open Relation

variable {α : Type*}

/-- One step towards the root. -/
def Step (up : α → Option α) (a b : α) : Prop := up a = some b

/-- The chain of ancestors runs into a cycle. -/
def Cyclic (up : α → Option α) (a : α) : Prop := ∃ z, ReflTransGen (Step up) a z ∧ TransGen (Step up) z z

/-- The nodes below a list of nodes, each before what is below it. -/
def visit (children : α → List α) : Nat → List α → List α
  | 0, _ => []
  | n + 1, roots => roots.flatMap fun a => a :: visit children n (children a)

section Chain

variable {up : α → Option α} {a b c : α}

theorem chain_of_step (step : up a = some b) (chain : TransGen (Step up) a c) : ReflTransGen (Step up) b c := by
  obtain ⟨b', first, rest⟩ := TransGen.head'_iff.mp chain
  obtain rfl : b = b' := Option.some.inj (step.symm.trans first)
  exact rest

theorem cyclic_step (step : up a = some b) : Cyclic up a ↔ Cyclic up b := by
  constructor
  · rintro ⟨z, chain, cycle⟩
    rcases ReflTransGen.cases_head chain with rfl | ⟨b', first, rest⟩
    · exact ⟨a, chain_of_step step cycle, cycle⟩
    · obtain rfl : b = b' := Option.some.inj (step.symm.trans first)
      exact ⟨z, rest, cycle⟩
  · rintro ⟨z, chain, cycle⟩
    exact ⟨z, ReflTransGen.head step chain, cycle⟩

section

variable (chain : ReflTransGen (Step up) a b)
include chain

theorem cyclic_chain : Cyclic up a ↔ Cyclic up b := by
  induction chain with
  | refl => rfl
  | tail _ step ih => exact ih.trans (cyclic_step step)

theorem not_cyclic_of_end (last : up b = none) : ¬ Cyclic up a := by
  rw [cyclic_chain chain]
  have stuck : ∀ c, ¬ Step up b c := fun c step => by
    rw [Step, last] at step
    cases step
  rintro ⟨z, rest, cycle⟩
  rcases ReflTransGen.cases_head rest with rfl | ⟨c, first, -⟩
  · obtain ⟨c, first, -⟩ := TransGen.head'_iff.mp cycle
    exact stuck c first
  · exact stuck c first

theorem cyclic_of_return (back : up b = some c) (before : ReflTransGen (Step up) c b) :
    Cyclic up a :=
  ⟨c, chain.tail back, TransGen.tail' before back⟩

end

end Chain

section Attached

/-- The parent of a node whose chain of ancestors runs into no cycle. -/
noncomputable def attach (up : α → Option α) (a : α) : Option α :=
  open Classical in if Cyclic up a then none else up a

variable {up : α → Option α} {a b : α}

theorem attach_eq_some : attach up a = some b ↔ up a = some b ∧ ¬ Cyclic up a := by
  unfold attach
  split
  · next cyclic => simp [cyclic]
  · next acyclic => simp [acyclic]

theorem acyclic_attach (a : α) : ¬ TransGen (Step (attach up)) a a := by
  intro cycle
  obtain ⟨b, first, -⟩ := TransGen.head'_iff.mp cycle
  have acyclic := (attach_eq_some.mp first).2
  have attached : Step (attach up) ≤ Step up := fun _ _ step => (attach_eq_some.mp step).1
  exact acyclic ⟨a, .refl, TransGen.mono attached a a cycle⟩

end Attached

section Rank

variable (att : α → Option α) (ids : List α)

/-- How many ancestors a node has. -/
noncomputable def rank (a : α) : Nat := open Classical in (ids.filter fun b => TransGen (Step att) a b).length

variable {att ids} {a b : α}

theorem rank_root (root : att a = none) : rank att ids a = 0 := by
  classical
  rw [rank, List.length_eq_zero_iff, List.filter_eq_nil_iff]
  intro b _ above
  obtain ⟨c, first, -⟩ := TransGen.head'_iff.mp (of_decide_eq_true above)
  rw [Step, root] at first
  cases first

theorem rank_step (nodup : ids.Nodup) (acyclic : ∀ a, ¬ TransGen (Step att) a a) (inside : b ∈ ids) (step : att a = some b) :
    rank att ids a = rank att ids b + 1 := by
  classical
  have apart : b ∉ ids.filter fun c => TransGen (Step att) b c := fun above =>
    acyclic b (of_decide_eq_true (List.mem_filter.mp above).2)
  have ancestors : (ids.filter fun c => TransGen (Step att) a c).Perm (b :: ids.filter fun c => TransGen (Step att) b c) := by
    refine (List.perm_ext_iff_of_nodup (nodup.filter _) (List.nodup_cons.mpr ⟨apart, nodup.filter _⟩)).mpr fun c => ?_
    rw [List.mem_cons, List.mem_filter, List.mem_filter, decide_eq_true_eq, decide_eq_true_eq]
    constructor
    · rintro ⟨isId, above⟩
      rcases reflTransGen_iff_eq_or_transGen.mp (chain_of_step step above) with rfl | further
      · exact Or.inl rfl
      · exact Or.inr ⟨isId, further⟩
    · rintro (rfl | ⟨isId, above⟩)
      · exact ⟨inside, TransGen.single step⟩
      · exact ⟨isId, TransGen.head step above⟩
  rw [rank, rank, ancestors.length_eq, List.length_cons]

theorem rank_lt (acyclic : ∀ a, ¬ TransGen (Step att) a a) (inside : a ∈ ids) : rank att ids a < ids.length := by
  classical
  exact List.length_filter_lt_length_iff_exists.mpr ⟨a, inside, fun above => acyclic a (of_decide_eq_true above)⟩

end Rank

section Visit

variable {children : α → List α}

/-- The nodes that are reached in so many steps. -/
def layer (children : α → List α) (roots : List α) : Nat → List α
  | 0 => roots
  | n + 1 => (layer children roots n).flatMap children

theorem layer_succ (roots : List α) (n : Nat) : layer children roots (n + 1) = layer children (roots.flatMap children) n := by
  induction n with
  | zero => rfl
  | succ n ih => rw [layer, ih, layer]

theorem visit_flatMap (n : Nat) (roots : List α) : (roots.flatMap fun a => visit children n (children a)) =
    visit children n (roots.flatMap children) := by
  cases n with
  | zero => simp [visit]
  | succ n => simp only [visit, List.flatMap_assoc]

theorem visit_perm_layers (n : Nat) (roots : List α) :
    (visit children n roots).Perm ((List.range n).flatMap (layer children roots)) := by
  induction n generalizing roots with
  | zero => exact .refl _
  | succ n ih =>
    have first : visit children (n + 1) roots = roots.flatMap fun a => a :: visit children n (children a) := rfl
    rw [first, List.range_succ_eq_map, List.flatMap_cons, List.flatMap_map]
    refine (List.map_append_flatMap_perm roots id _).symm.trans ?_
    rw [List.map_id, visit_flatMap]
    refine List.Perm.append_left roots ?_
    refine (ih (roots.flatMap children)).trans (List.Perm.of_eq (List.flatMap_congr fun i _ => ?_))
    exact (layer_succ roots i).symm

theorem perm_ranks {rank : α → Nat} {ids : List α} {n : Nat} (nodup : ids.Nodup) (bound : ∀ a ∈ ids, rank a < n) :
    ((List.range n).flatMap fun i => ids.filter fun a => rank a = i).Perm ids := by
  refine (List.perm_ext_iff_of_nodup ?_ nodup).mpr fun a => ?_
  · refine List.nodup_flatMap.mpr ⟨fun i _ => nodup.filter _, (List.nodup_range.pairwise_of_forall_ne) fun i _ j _ differ => ?_⟩
    intro a isI isJ
    exact differ ((of_decide_eq_true (List.mem_filter.mp isI).2).symm.trans (of_decide_eq_true (List.mem_filter.mp isJ).2))
  · rw [List.mem_flatMap]
    constructor
    · rintro ⟨i, -, inside⟩
      exact (List.mem_filter.mp inside).1
    · exact fun inside => ⟨rank a, List.mem_range.mpr (bound a inside), List.mem_filter.mpr ⟨inside, decide_eq_true rfl⟩⟩

end Visit

section Forest

variable [DecidableEq α] {att : α → Option α} {ids roots : List α} {children : α → List α}

section

variable (nodup : ids.Nodup) (closed : ∀ a ∈ ids, ∀ b, att a = some b → b ∈ ids) (acyclic : ∀ a, ¬ TransGen (Step att) a a)
include nodup closed acyclic

theorem children_rank (below : ∀ p ∈ ids, (children p).Perm (ids.filter fun a => att a = some p)) (n : Nat) :
    ((ids.filter fun a => rank att ids a = n).flatMap children).Perm (ids.filter fun a => rank att ids a = n + 1) := by
  have mem_children : ∀ p ∈ ids, ∀ a, a ∈ children p ↔ a ∈ ids ∧ att a = some p := fun p inside a => by
    rw [(below p inside).mem_iff, List.mem_filter, decide_eq_true_eq]
  refine (List.perm_ext_iff_of_nodup ?_ (nodup.filter _)).mpr fun a => ?_
  · refine List.nodup_flatMap.mpr ⟨fun p inside => ?_, ?_⟩
    · exact (below p (List.mem_filter.mp inside).1).nodup_iff.mpr (nodup.filter _)
    · refine (nodup.filter _).pairwise_of_forall_ne fun p isP q isQ differ => ?_
      intro a underP underQ
      have toP := ((mem_children p (List.mem_filter.mp isP).1 a).mp underP).2
      have toQ := ((mem_children q (List.mem_filter.mp isQ).1 a).mp underQ).2
      exact differ (Option.some.inj (toP.symm.trans toQ))
  · rw [List.mem_flatMap, List.mem_filter, decide_eq_true_eq]
    constructor
    · rintro ⟨p, isP, under⟩
      obtain ⟨inside, rankP⟩ := List.mem_filter.mp isP
      obtain ⟨isId, toP⟩ := (mem_children p inside a).mp under
      exact ⟨isId, by rw [rank_step nodup acyclic inside toP, of_decide_eq_true rankP]⟩
    · rintro ⟨isId, rankA⟩
      cases parent : att a with
      | none =>
        rw [rank_root parent] at rankA
        cases rankA
      | some p =>
        have inside := closed a isId p parent
        rw [rank_step nodup acyclic inside parent] at rankA
        exact ⟨p, List.mem_filter.mpr ⟨inside, decide_eq_true (Nat.succ.inj rankA)⟩, (mem_children p inside a).mpr ⟨isId, parent⟩⟩

/-- From the nodes without a parent each node is visited once, and no deeper visit finds
more. -/
theorem visit_perm (top : roots.Perm (ids.filter fun a => att a = none))
    (below : ∀ p ∈ ids, (children p).Perm (ids.filter fun a => att a = some p)) {n : Nat} (deep : ids.length ≤ n) :
    (visit children n roots).Perm ids := by
  have layers : ∀ i, (layer children roots i).Perm (ids.filter fun a => rank att ids a = i) := by
    intro i
    induction i with
    | zero =>
      refine top.trans (List.Perm.of_eq (List.filter_congr fun a isId => ?_))
      rw [decide_eq_decide]
      constructor
      · exact rank_root
      · intro zero
        by_contra above
        obtain ⟨p, parent⟩ := Option.ne_none_iff_exists'.mp above
        rw [rank_step nodup acyclic (closed a isId p parent) parent] at zero
        cases zero
    | succ i ih => exact (ih.flatMap_right children).trans (children_rank nodup closed acyclic below i)
  refine (visit_perm_layers n roots).trans ?_
  refine (List.Perm.flatMap_left _ fun i _ => layers i).trans (perm_ranks nodup fun a isId => ?_)
  exact Nat.lt_of_lt_of_le (rank_lt acyclic isId) deep

end

end Forest

end Ancestry
