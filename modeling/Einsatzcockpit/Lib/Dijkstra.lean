import Mathlib.Algebra.GroupWithZero.Nat
import Mathlib.Data.List.Nodup
import Mathlib.Data.List.Perm.Subperm
import Mathlib.Data.Prod.Lex
import Mathlib.Order.MinMax

namespace Dijkstra

/-- Lengths that can be added up along a way. The sum need not be associative. -/
structure Lengths (W : Type*) [LinearOrder W] where
  zero : W
  add : W → W → W
  zero_le : ∀ a, zero ≤ a
  le_add : ∀ a b, a ≤ add a b
  add_le_add : ∀ {a b} c, a ≤ b → add a c ≤ add b c

/-- Each node has the nodes next to it, with the lengths of the edges. -/
structure Graph (ν W : Type*) where
  nodes : List ν
  next : ν → List (ν × W)
  targets : ∀ u, ∀ e ∈ next u, e.1 ∈ nodes
  isolated : ∀ u, u ∉ nodes → next u = []

variable {ν W : Type*} [LinearOrder ν] [LinearOrder W] (L : Lengths W) (G : Graph ν W)

/-- A way from `start`, last node first, and its length. -/
inductive Along (start : ν) : List ν → W → Prop
  | start : Along start [start] L.zero
  | snoc {u v : ν} {way : List ν} {d c : W} : Along start (u :: way) d → (v, c) ∈ G.next u →
      Along start (v :: u :: way) (L.add d c)

/-- The edges lead from one node to the other. -/
def Connected : ν → ν → Prop := Relation.ReflTransGen fun u v => ∃ c, (v, c) ∈ G.next u

/-- A way to `goal`, last node first, that none is shorter than. -/
def Shortest (start goal : ν) (way : List ν) : Prop :=
  ∃ d, Along L G start way d ∧ way.head? = some goal ∧ ∀ other d', Along L G start (goal :: other) d' → d ≤ d'

structure State (ν W : Type*) where
  queue : List (W ×ₗ ν)
  distances : ν → Option W
  previous : ν → Option ν

def start (node : ν) : State ν W where
  queue := [toLex (L.zero, node)]
  distances n := if n = node then some L.zero else none
  previous _ := none

/-- A node next to one that is taken from the queue. -/
def relax (node : ν) (distance : W) (state : State ν W) (edge : ν × W) : State ν W :=
  let candidate := L.add distance edge.2
  if (state.distances edge.1).all (candidate < ·) then
    { queue := toLex (candidate, edge.1) :: state.queue
      distances := fun n => if n = edge.1 then some candidate else state.distances n
      previous := fun n => if n = edge.1 then some node else state.previous n }
  else state

/-- The way back from a node. -/
def chain (previous : ν → Option ν) : Nat → ν → List ν
  | 0, node => [node]
  | fuel + 1, node =>
    match previous node with
    | none => [node]
    | some before => node :: chain previous fuel before

/-- The search with so many rounds at most. -/
def search (goal : ν) : Nat → State ν W → Option (Option (List ν))
  | 0, _ => none
  | fuel + 1, state =>
    match state.queue.min? with
    | none => some none
    | some entry =>
      let (distance, node) := ofLex entry
      let rest := { state with queue := state.queue.erase entry }
      if node = goal then some (some (chain state.previous (G.nodes.length + 1) node).reverse)
      else if state.distances node ≠ some distance then search goal fuel rest
      else search goal fuel ((G.next node).foldl (relax L node distance) rest)

/-- How many entries there can be. -/
def rounds : Nat := 1 + (G.nodes.map fun u => (G.next u).length).sum

/-- A shortest way from `first` to `goal`, if there is one. -/
def dijkstra (first goal : ν) : Option (List ν) := (search L G goal (rounds G + 1) (start L first)).join

section Ways

variable {L G} {first node goal : ν} {way : List ν} {d : W}

omit [LinearOrder ν] in
theorem Along.connected (along : Along L G first way d) : ∀ last ∈ way.head?, Connected G first last := by
  induction along with
  | start => exact fun last isHead => Option.some.inj isHead ▸ .refl
  | @snoc u v way d c _ edge ih => exact fun last isHead => Option.some.inj isHead ▸ (ih u rfl).tail ⟨c, edge⟩

omit [LinearOrder ν] in
theorem Connected.along (connected : Connected G first goal) (L : Lengths W) : ∃ way d, Along L G first (goal :: way) d := by
  induction connected with
  | refl => exact ⟨[], L.zero, .start⟩
  | tail _ edge ih =>
    obtain ⟨way, d, along⟩ := ih
    obtain ⟨c, edge⟩ := edge
    exact ⟨_, _, along.snoc edge⟩

end Ways

section Chain

variable {previous previous' : ν → Option ν} {node before : ν} {way : List ν} {fuel : Nat}

omit [LinearOrder ν] in
theorem chain_congr (same : ∀ n ∈ chain previous fuel node, previous' n = previous n) :
    chain previous' fuel node = chain previous fuel node := by
  induction fuel generalizing node with
  | zero => rfl
  | succ fuel ih =>
    rw [chain] at same ⊢
    cases found : previous node with
    | none =>
      rw [found] at same
      rw [chain, found, same node (List.mem_singleton_self node), found]
    | some before =>
      rw [found] at same
      rw [chain, found, same node (List.mem_cons_self ..), found]
      dsimp only
      rw [ih fun n member => same n (List.mem_cons_of_mem _ member)]

/-- The way back from the node is `way`. -/
def Back (previous : ν → Option ν) (node : ν) (way : List ν) : Prop :=
  ∀ fuel, way.length ≤ fuel + 1 → chain previous fuel node = way

omit [LinearOrder ν] in
theorem Back.congr (back : Back previous node way) (same : ∀ n ∈ way, previous' n = previous n) : Back previous' node way := by
  intro fuel enough
  have read := back fuel enough
  rw [chain_congr (by rw [read]; exact same), read]

omit [LinearOrder ν] in
theorem Back.first (none : previous node = none) : Back previous node [node] := by
  intro fuel _
  cases fuel with
  | zero => rfl
  | succ fuel => rw [chain, none]

omit [LinearOrder ν] in
theorem Back.snoc (back : Back previous before way) (last : previous node = some before) (nonempty : way ≠ []) :
    Back previous node (node :: way) := by
  intro fuel enough
  rw [List.length_cons] at enough
  have some_ := List.length_pos_iff.mpr nonempty
  obtain ⟨fuel, rfl⟩ := Nat.exists_eq_add_of_lt (by omega : 0 < fuel)
  rw [Nat.zero_add, chain, last]
  dsimp only
  rw [back fuel (by omega)]

end Chain

/-- The search so far: `closed` are the nodes whose edges have been followed, none
farther than `level`, save those edges that are `waived`. -/
structure Sound (first goal : ν) (closed : List ν) (level : W) (waived : ν → ν × W → Prop) (s : State ν W) : Prop where
  way : ∀ n d, s.distances n = some d → ∃ before, Back s.previous n (n :: before) ∧ Along L G first (n :: before) d ∧
    (n :: before).Nodup ∧ ∀ m ∈ before, m ∈ closed
  source : s.distances first = some L.zero ∧ s.previous first = none
  done : ∀ u ∈ closed, ∃ d, s.distances u = some d ∧ d ≤ level ∧ toLex (d, u) ∉ s.queue
  edges : ∀ u ∈ closed, ∀ d, s.distances u = some d → ∀ e ∈ G.next u, ¬ waived u e →
    ∃ d', s.distances e.1 = some d' ∧ d' ≤ L.add d e.2
  pending : ∀ n d, s.distances n = some d → n ∉ closed → toLex (d, n) ∈ s.queue
  entries : ∀ d n, toLex (d, n) ∈ s.queue → ∃ d', s.distances n = some d' ∧ d' ≤ d
  far : ∀ d n, toLex (d, n) ∈ s.queue → level ≤ d
  nodup : s.queue.Nodup
  ahead : goal ∉ closed

section Search

variable {L G} {first goal node : ν} {closed : List ν} {level d : W} {waived waived' : ν → ν × W → Prop} {s : State ν W}

theorem start_sound (L : Lengths W) (G : Graph ν W) (first goal : ν) :
    Sound L G first goal [] L.zero (fun _ _ => False) (start L first) := by
  have only : ∀ n d, (start L first).distances n = some d → n = first ∧ d = L.zero := by
    intro n d found
    simp only [start] at found
    split_ifs at found with same
    exact ⟨same, (Option.some.inj found).symm⟩
  have inQueue : ∀ d n, toLex (d, n) ∈ (start L first).queue → d = L.zero ∧ n = first := by
    intro d n member
    exact Prod.mk.inj (toLex.injective (List.mem_singleton.mp member))
  refine ⟨fun n d found => ?_, ⟨if_pos rfl, rfl⟩, nofun, nofun, fun n d found _ => ?_, fun d n member => ?_, fun d n member => ?_,
    List.nodup_singleton _, List.not_mem_nil⟩
  · obtain ⟨rfl, rfl⟩ := only n d found
    exact ⟨[], Back.first rfl, .start, List.nodup_singleton _, nofun⟩
  · obtain ⟨rfl, rfl⟩ := only n d found
    exact List.mem_singleton_self _
  · obtain ⟨rfl, rfl⟩ := inQueue d n member
    exact ⟨L.zero, if_pos rfl, le_refl _⟩
  · exact (inQueue d n member).1.ge

omit [LinearOrder ν] in
theorem Sound.waive (sound : Sound L G first goal closed level waived s)
    (fewer : ∀ u ∈ closed, ∀ e ∈ G.next u, waived u e → waived' u e) : Sound L G first goal closed level waived' s :=
  { sound with edges := fun u isClosed d found e edge open_ =>
      sound.edges u isClosed d found e edge fun was => open_ (fewer u isClosed e edge was) }

section

variable (sound : Sound L G first goal closed level waived s) (isClosed : node ∈ closed) (distance : s.distances node = some level)
include sound isClosed distance

theorem Sound.relax {edge : ν × W} (isEdge : edge ∈ G.next node) :
    Sound L G first goal closed level (fun u e => waived u e ∧ ¬ (u = node ∧ e = edge)) (relax L node level s edge) ∧
      (Dijkstra.relax L node level s edge).distances node = some level := by
  obtain ⟨v, c⟩ := edge
  unfold Dijkstra.relax
  dsimp only
  split
  · next shorter =>
    have known : ∀ d, s.distances v = some d → L.add level c < d := by
      intro d found
      rw [found] at shorter
      exact of_decide_eq_true shorter
    -- A closed node is not farther than `level`, so no way over `node` is shorter.
    have notClosed : v ∉ closed := by
      intro inside
      obtain ⟨d, found, near, -⟩ := sound.done v inside
      exact absurd (known d found) (not_lt.mpr (near.trans (L.le_add level c)))
    have notNode : node ≠ v := fun same => notClosed (same ▸ isClosed)
    have notFirst : first ≠ v := fun same => absurd (known _ (same ▸ sound.source.1)) (not_lt.mpr (L.zero_le _))
    refine ⟨⟨fun n d found => ?_, ⟨?_, ?_⟩, fun u inside => ?_, fun u inside d found e edge open_ => ?_, fun n d found outside => ?_,
      fun d n member => ?_, fun d n member => ?_, List.nodup_cons.mpr ⟨fun member => ?_, sound.nodup⟩, sound.ahead⟩, ?_⟩
    · dsimp only at found
      split_ifs at found with atV
      · cases found
        subst atV
        obtain ⟨before, back, along, nodup, inClosed⟩ := sound.way node level distance
        have apart : n ∉ node :: before := fun member => by
          rcases List.mem_cons.mp member with same | inside
          · exact notNode same.symm
          · exact notClosed (inClosed n inside)
        refine ⟨node :: before, (back.congr fun m member => ?_).snoc (if_pos rfl) (List.cons_ne_nil _ _), along.snoc isEdge,
          List.nodup_cons.mpr ⟨apart, nodup⟩, fun m member => ?_⟩
        · exact if_neg fun same : m = n => apart (same ▸ member)
        · rcases List.mem_cons.mp member with rfl | inside
          · exact isClosed
          · exact inClosed m inside
      · obtain ⟨before, back, along, nodup, inClosed⟩ := sound.way n d found
        refine ⟨before, back.congr fun m member => if_neg ?_, along, nodup, inClosed⟩
        rcases List.mem_cons.mp member with rfl | inside
        · exact atV
        · exact fun same => notClosed (same ▸ inClosed m inside)
    · exact (if_neg notFirst).trans sound.source.1
    · exact (if_neg notFirst).trans sound.source.2
    · obtain ⟨d, found, near, gone⟩ := sound.done u inside
      have notV : u ≠ v := fun same => notClosed (same ▸ inside)
      refine ⟨d, (if_neg notV).trans found, near, fun member => ?_⟩
      rcases List.mem_cons.mp member with new | old
      · exact notV (Prod.mk.inj (toLex.injective new)).2
      · exact gone old
    · have notV : u ≠ v := fun same => notClosed (same ▸ inside)
      dsimp only at found ⊢
      rw [if_neg notV] at found
      by_cases atV : e.1 = v
      · refine ⟨_, if_pos atV, ?_⟩
        by_cases this_ : u = node ∧ e = (v, c)
        · obtain ⟨rfl, rfl⟩ := this_
          rw [distance] at found
          exact (Option.some.inj found ▸ le_refl _)
        · obtain ⟨d', was, near⟩ := sound.edges u inside d found e edge fun w => open_ ⟨w, this_⟩
          exact (known d' (atV ▸ was)).le.trans near
      · rw [if_neg atV]
        exact sound.edges u inside d found e edge fun w => open_ ⟨w, fun same => atV (congrArg Prod.fst same.2)⟩
    · dsimp only at found
      split_ifs at found with atV
      · cases found
        exact atV ▸ List.mem_cons_self ..
      · exact List.mem_cons_of_mem _ (sound.pending n d found outside)
    · dsimp only
      rcases List.mem_cons.mp member with new | old
      · obtain ⟨rfl, rfl⟩ := Prod.mk.inj (toLex.injective new)
        exact ⟨_, if_pos rfl, le_refl _⟩
      · obtain ⟨d', found, near⟩ := sound.entries d n old
        by_cases atV : n = v
        · exact ⟨_, if_pos atV, (known d' (atV ▸ found)).le.trans near⟩
        · exact ⟨d', (if_neg atV).trans found, near⟩
    · rcases List.mem_cons.mp member with new | old
      · obtain ⟨rfl, rfl⟩ := Prod.mk.inj (toLex.injective new)
        exact L.le_add _ _
      · exact sound.far d n old
    · obtain ⟨d', found, near⟩ := sound.entries _ v member
      exact absurd (known d' found) (not_lt.mpr near)
    · exact (if_neg notNode).trans distance
  · next notShorter =>
    refine ⟨{ sound with edges := fun u inside d found e edge open_ => ?_ }, distance⟩
    by_cases this_ : u = node ∧ e = (v, c)
    · obtain ⟨rfl, rfl⟩ := this_
      rw [distance] at found
      cases found
      cases there : s.distances v with
      | none => rw [there] at notShorter; exact absurd rfl notShorter
      | some d' =>
        rw [there] at notShorter
        exact ⟨d', rfl, not_lt.mp fun less => notShorter (decide_eq_true less)⟩
    · exact sound.edges u inside d found e edge fun w => open_ ⟨w, this_⟩

theorem Sound.follow {edges : List (ν × W)} (all : ∀ e ∈ edges, e ∈ G.next node) :
    Sound L G first goal closed level (fun u e => waived u e ∧ ¬ (u = node ∧ e ∈ edges)) (edges.foldl (Dijkstra.relax L node level) s) := by
  induction edges generalizing waived s with
  | nil => exact sound.waive fun u _ e _ w => ⟨w, by simp⟩
  | cons edge edges ih =>
    obtain ⟨next, still⟩ := sound.relax isClosed distance (all edge (List.mem_cons_self ..))
    rw [List.foldl_cons]
    refine (ih next still fun e member => all e (List.mem_cons_of_mem _ member)).waive fun u _ e _ w => ⟨w.1.1, ?_⟩
    rintro ⟨rfl, member⟩
    rcases List.mem_cons.mp member with same | later
    · exact w.1.2 ⟨rfl, same⟩
    · exact w.2 ⟨rfl, later⟩

end

theorem Sound.drop (sound : Sound L G first goal closed level waived s) (outdated : s.distances node ≠ some d) :
    Sound L G first goal closed level waived { s with queue := s.queue.erase (toLex (d, node)) } := by
  refine ⟨sound.way, sound.source, fun u inside => ?_, sound.edges, fun n d' found outside => ?_,
    fun d' n member => sound.entries d' n (List.mem_of_mem_erase member),
    fun d' n member => sound.far d' n (List.mem_of_mem_erase member), sound.nodup.erase _, sound.ahead⟩
  · obtain ⟨d', found, near, gone⟩ := sound.done u inside
    exact ⟨d', found, near, fun member => gone (List.mem_of_mem_erase member)⟩
  · refine (List.mem_erase_of_ne fun same => ?_).mpr (sound.pending n d' found outside)
    obtain ⟨rfl, rfl⟩ := Prod.mk.inj (toLex.injective same)
    exact outdated found

/-- The entry at the head of the queue. -/
def Least (s : State ν W) (d : W) (node : ν) : Prop :=
  toLex (d, node) ∈ s.queue ∧ ∀ d' n, toLex (d', n) ∈ s.queue → toLex (d, node) ≤ toLex (d', n)

theorem Least.le (least : Least s d node) {d' : W} {n : ν} (member : toLex (d', n) ∈ s.queue) : d ≤ d' := by
  rcases Prod.Lex.toLex_le_toLex.mp (least.2 d' n member) with less | ⟨same, -⟩
  · exact less.le
  · exact same.le

section

variable (sound : Sound L G first goal closed level (fun _ _ => False) s)
include sound

theorem Sound.expand (least : Least s d node)
    (current : s.distances node = some d) (other : node ≠ goal) :
    Sound L G first goal (node :: closed) d (fun _ _ => False)
      ((G.next node).foldl (Dijkstra.relax L node d) { s with queue := s.queue.erase (toLex (d, node)) }) := by
  have erased : ∀ {d' n}, toLex (d', n) ∈ s.queue.erase (toLex (d, node)) → toLex (d', n) ∈ s.queue := List.mem_of_mem_erase
  have gone : toLex (d, node) ∉ s.queue.erase (toLex (d, node)) := fun member => (List.Nodup.mem_erase_iff sound.nodup).mp member |>.1 rfl
  have next : Sound L G first goal (node :: closed) d (fun u _ => u = node) { s with queue := s.queue.erase (toLex (d, node)) } := by
    refine ⟨fun n d' found => ?_, sound.source, fun u inside => ?_, fun u inside d' found e edge open_ => ?_,
      fun n d' found outside => ?_, fun d' n member => sound.entries d' n (erased member),
      fun d' n member => least.le (erased member), sound.nodup.erase _, fun inside => ?_⟩
    · obtain ⟨before, back, along, nodup, inClosed⟩ := sound.way n d' found
      exact ⟨before, back, along, nodup, fun m member => List.mem_cons_of_mem _ (inClosed m member)⟩
    · rcases List.mem_cons.mp inside with rfl | old
      · exact ⟨d, current, le_refl _, gone⟩
      · obtain ⟨d', found, near, out⟩ := sound.done u old
        exact ⟨d', found, near.trans (sound.far d node least.1), fun member => out (erased member)⟩
    · rcases List.mem_cons.mp inside with rfl | old
      · exact absurd rfl open_
      · exact sound.edges u old d' found e edge id
    · rw [List.mem_cons, not_or] at outside
      refine (List.mem_erase_of_ne fun same => ?_).mpr (sound.pending n d' found outside.2)
      exact outside.1 (Prod.mk.inj (toLex.injective same)).2
    · rcases List.mem_cons.mp inside with same | old
      · exact other same.symm
      · exact sound.ahead old
  refine (next.follow (List.mem_cons_self ..) current fun e member => member).waive fun u _ e edge w => ?_
  exact w.2 ⟨w.1, w.1 ▸ edge⟩

/-- Every way from the source is closed up to an entry of the queue that is not longer. -/
theorem Sound.frontier {way : List ν} {c : W}
    (along : Along L G first way c) : ∀ last ∈ way.head?, (∃ d n, toLex (d, n) ∈ s.queue ∧ d ≤ c) ∨
      last ∈ closed ∧ ∃ d, s.distances last = some d ∧ d ≤ c := by
  have reached : ∀ {n d c}, s.distances n = some d → d ≤ c →
      (∃ d n, toLex (d, n) ∈ s.queue ∧ d ≤ c) ∨ n ∈ closed ∧ ∃ d, s.distances n = some d ∧ d ≤ c := by
    intro n d c found near
    by_cases inside : n ∈ closed
    · exact Or.inr ⟨inside, d, found, near⟩
    · exact Or.inl ⟨d, n, sound.pending n d found inside, near⟩
  induction along with
  | start => exact fun last isHead => Option.some.inj isHead ▸ reached sound.source.1 (le_refl _)
  | @snoc u v way d c _ edge ih =>
    intro last isHead
    obtain rfl := Option.some.inj isHead
    rcases ih u rfl with ⟨d', n, member, near⟩ | ⟨inside, d', found, near⟩
    · exact Or.inl ⟨d', n, member, near.trans (L.le_add d c)⟩
    · obtain ⟨d'', read, short⟩ := sound.edges u inside d' found _ edge id
      exact reached read (short.trans (L.add_le_add c near))

theorem Sound.found (least : Least s d goal) :
    ∃ way, Back s.previous goal way ∧ Shortest L G first goal way ∧ way.Nodup := by
  obtain ⟨d', current, near⟩ := sound.entries d goal least.1
  have same : d' = d := le_antisymm near (least.le (sound.pending goal d' current sound.ahead))
  subst same
  obtain ⟨before, back, along, nodup, -⟩ := sound.way goal d' current
  refine ⟨_, back, ⟨d', along, rfl, fun other c longer => ?_⟩, nodup⟩
  rcases sound.frontier longer goal rfl with ⟨d, n, member, short⟩ | ⟨inside, -⟩
  · exact (least.le member).trans short
  · exact absurd inside sound.ahead

theorem Sound.missed (empty : s.queue = []) :
    ¬ Connected G first goal := by
  intro connected
  obtain ⟨way, d, along⟩ := connected.along L
  rcases sound.frontier along goal rfl with ⟨d, n, member, -⟩ | ⟨inside, -⟩
  · rw [empty] at member
    cases member
  · exact sound.ahead inside

end

variable (L node d) in
theorem length_relax (edges : List (ν × W)) (s : State ν W) :
    (edges.foldl (Dijkstra.relax L node d) s).queue.length ≤ s.queue.length + edges.length := by
  induction edges generalizing s with
  | nil => exact Nat.le_refl _
  | cons edge edges ih =>
    have one : (Dijkstra.relax L node d s edge).queue.length ≤ s.queue.length + 1 := by
      unfold Dijkstra.relax
      dsimp only
      split
      · exact Nat.le_refl _
      · exact Nat.le_succ _
    have rest := ih (Dijkstra.relax L node d s edge)
    rw [List.foldl_cons, List.length_cons]
    omega

/-- The entries of the queue and the edges that are still to be followed. -/
def potential (G : Graph ν W) (closed : List ν) (s : State ν W) : Nat :=
  s.queue.length + ((G.nodes.filter (· ∉ closed)).map fun u => (G.next u).length).sum

omit [LinearOrder W] in
theorem sum_close (outside : node ∉ closed) :
    ((G.nodes.filter (· ∉ node :: closed)).map fun u => (G.next u).length).sum + (G.next node).length ≤
      ((G.nodes.filter (· ∉ closed)).map fun u => (G.next u).length).sum := by
  have counted : ∀ nodes : List ν, ((nodes.filter (· ∉ node :: closed)).map fun u => (G.next u).length).sum +
      (if node ∈ nodes then (G.next node).length else 0) ≤ ((nodes.filter (· ∉ closed)).map fun u => (G.next u).length).sum := by
    intro nodes
    induction nodes with
    | nil => simp
    | cons u nodes ih =>
      by_cases same : u = node
      · subst same
        rw [List.filter_cons_of_neg (by simp), List.filter_cons_of_pos (by simpa using outside), List.map_cons, List.sum_cons,
          if_pos (List.mem_cons_self ..)]
        split_ifs at ih <;> omega
      · have inTail : node ∈ u :: nodes ↔ node ∈ nodes := by simp [Ne.symm same]
        by_cases inside : u ∈ closed
        · rw [List.filter_cons_of_neg (by simp [inside]), List.filter_cons_of_neg (by simp [inside])]
          simpa only [inTail] using ih
        · rw [List.filter_cons_of_pos (by simp [inside, same]), List.filter_cons_of_pos (by simp [inside]), List.map_cons,
            List.sum_cons, List.map_cons, List.sum_cons]
          simp only [inTail]
          omega
  by_cases isNode : node ∈ G.nodes
  · simpa only [if_pos isNode] using counted G.nodes
  · have alone := counted G.nodes
    rw [if_neg isNode] at alone
    rw [G.isolated node isNode, List.length_nil]
    exact alone

omit [LinearOrder ν] in
theorem Along.subset (along : Along L G first way d) : way ⊆ first :: G.nodes := by
  induction along with
  | start => exact List.cons_subset_cons _ (List.nil_subset _)
  | @snoc u v way d c _ edge ih => exact List.cons_subset.mpr ⟨List.mem_cons_of_mem _ (G.targets u _ edge), ih⟩

omit [LinearOrder ν] in
theorem Shortest.length_le (shortest : Shortest L G first goal way) (nodup : way.Nodup) : way.length ≤ G.nodes.length + 1 := by
  obtain ⟨c, along, -⟩ := shortest
  exact (List.subperm_of_subset nodup along.subset).length_le

theorem least_of_min? {entry : W ×ₗ ν} (min : s.queue.min? = some entry) : Least s (ofLex entry).1 (ofLex entry).2 := by
  obtain ⟨member, below⟩ := List.min?_eq_some_iff.mp min
  exact ⟨member, fun d' n => below (toLex (d', n))⟩

/-- What the search may answer. -/
def Right (L : Lengths W) (G : Graph ν W) (first goal : ν) : Option (List ν) → Prop
  | none => ¬ Connected G first goal
  | some path => Shortest L G first goal path.reverse

/-- The state after a round that does not find the goal. -/
def advance (L : Lengths W) (G : Graph ν W) (s : State ν W) (d : W) (node : ν) : State ν W :=
  if s.distances node ≠ some d then { s with queue := s.queue.erase (toLex (d, node)) }
  else (G.next node).foldl (Dijkstra.relax L node d) { s with queue := s.queue.erase (toLex (d, node)) }

theorem search_least {fuel : Nat} (min : s.queue.min? = some (toLex (d, node))) : Dijkstra.search L G goal (fuel + 1) s =
    if node = goal then some (some (chain s.previous (G.nodes.length + 1) node).reverse)
    else Dijkstra.search L G goal fuel (advance L G s d node) := by
  rw [Dijkstra.search, min, advance, apply_ite (Dijkstra.search L G goal fuel)]
  rfl

section

variable (sound : Sound L G first goal closed level (fun _ _ => False) s)
include sound

theorem Sound.advance (least : Least s d node)
    (other : node ≠ goal) : ∃ closed' level', Sound L G first goal closed' level' (fun _ _ => False) (advance L G s d node) ∧
      potential G closed' (advance L G s d node) < potential G closed s := by
  have popped := List.length_erase_of_mem least.1
  have some_ := List.length_pos_of_mem least.1
  by_cases current : s.distances node = some d
  · rw [Dijkstra.advance, if_neg (not_not.mpr current)]
    have outside : node ∉ closed := fun inside => by
      obtain ⟨d', found, -, gone⟩ := sound.done node inside
      rw [current] at found
      exact gone (Option.some.inj found ▸ least.1)
    refine ⟨_, _, sound.expand least current other, ?_⟩
    have pushed := length_relax L node d (G.next node)
      { s with queue := s.queue.erase (toLex (d, node)) }
    have counted := sum_close (G := G) outside
    rw [potential, potential]
    dsimp only at pushed
    omega
  · rw [Dijkstra.advance, if_pos current]
    refine ⟨_, _, sound.drop current, ?_⟩
    rw [potential, potential]
    dsimp only
    omega

theorem Sound.search {fuel : Nat}
    (enough : potential G closed s < fuel) :
    ∃ answer, Dijkstra.search L G goal fuel s = some answer ∧ Right L G first goal answer := by
  induction fuel generalizing closed level s with
  | zero => exact absurd enough (Nat.not_lt_zero _)
  | succ fuel ih =>
    cases min : s.queue.min? with
    | none =>
      refine ⟨none, ?_, sound.missed (List.min?_eq_none_iff.mp min)⟩
      rw [Dijkstra.search, min]
    | some entry =>
      obtain ⟨⟨d, node⟩, rfl⟩ : ∃ pair, toLex pair = entry := ⟨ofLex entry, rfl⟩
      have least : Least s d node := least_of_min? min
      rw [search_least min]
      by_cases atGoal : node = goal
      · subst atGoal
        obtain ⟨way, back, shortest, nodup⟩ := sound.found least
        refine ⟨_, if_pos rfl, ?_⟩
        rw [Right, List.reverse_reverse, back _ (Nat.le_succ_of_le (shortest.length_le nodup))]
        exact shortest
      rw [if_neg atGoal]
      obtain ⟨closed', level', next, less⟩ := sound.advance least atGoal
      exact ih next (by omega)

end

end Search

section Answer

variable {L G} {first goal : ν}

omit [LinearOrder ν] [LinearOrder W] in
theorem Connected.symm (back : ∀ u v c, (v, c) ∈ G.next u → ∃ c, (u, c) ∈ G.next v) (connected : Connected G first goal) :
    Connected G goal first := by
  induction connected with
  | refl => exact .refl
  | tail _ edge ih =>
    obtain ⟨c, edge⟩ := edge
    exact .head (back _ _ c edge) ih

end Answer

end Dijkstra
