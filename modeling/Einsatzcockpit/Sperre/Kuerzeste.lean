import Einsatzcockpit.Lib.Dijkstra
import Mathlib.Algebra.Field.Rat
import Mathlib.Algebra.Order.Ring.NNRat

/-! The search `_dijkstra` of `road_closure_section_resolver.py` over any graph. -/

namespace Einsatzcockpit.Sperre

open Dijkstra

abbrev Netz := List (Int × List (Int × ℚ≥0))

/-- `graph.get(node, [])` -/
def Netz.nachbarn (graph : Netz) (node : Int) : List (Int × ℚ≥0) := (graph.lookup node).getD []

def kosten : Lengths ℚ≥0 where
  zero := 0
  add := (· + ·)
  zero_le := fun _ => zero_le
  le_add _ _ := le_self_add
  add_le_add _ le := add_le_add_left le _

/-- The walk over `previous` back from a node. -/
def rueckweg (previous : Int → Option Int) : Nat → Int → Option (List Int)
  | 0, _ => none
  | fuel + 1, node =>
    match previous node with
    | none => some [node]
    | some before => (rueckweg previous fuel before).map (node :: ·)

def suche (graph : Netz) (goal : Int) : Nat → State Int ℚ≥0 → Option (Option (List Int))
  | 0, _ => none
  | fuel + 1, state =>
    match state.queue.min? with
    | none => some none
    | some entry =>
      let (distance, node) := ofLex entry
      let rest := { state with queue := state.queue.erase entry }
      if node = goal then (rueckweg state.previous (fuel + 1) node).map fun path => some path.reverse
      else if state.distances node ≠ some distance then suche graph goal fuel rest
      else suche graph goal fuel ((graph.nachbarn node).foldl (relax kosten node distance) rest)

/-- `_dijkstra` with so many rounds of each loop at most. -/
def Netz.dijkstra (graph : Netz) (first goal : Int) (fuel : Nat) : Option (Option (List Int)) :=
  suche graph goal fuel (Dijkstra.start kosten first)

inductive Weg (graph : Netz) : Int → List Int → Int → ℚ≥0 → Prop
  | ende (node : Int) : Weg graph node [node] node 0
  | kante {u v goal : Int} {c d : ℚ≥0} {path : List Int} : (v, c) ∈ graph.nachbarn u → Weg graph v path goal d →
      Weg graph u (u :: path) goal (c + d)

def Netz.Richtig (graph : Netz) (first goal : Int) : Option (List Int) → Prop
  | none => ∀ path cost, ¬ Weg graph first path goal cost
  | some path => ∃ cost, Weg graph first path goal cost ∧ ∀ path' cost', Weg graph first path' goal cost' → cost ≤ cost'

def Netz.graph (graph : Netz) : Dijkstra.Graph Int ℚ≥0 where
  nodes := graph.flatMap fun entry => entry.1 :: entry.2.map (·.1)
  next := graph.nachbarn
  targets u e member := by
    cases found : graph.lookup u with
    | none => simp [Netz.nachbarn, found] at member
    | some edges =>
      rw [Netz.nachbarn, found, Option.getD_some] at member
      obtain ⟨before, after, rfl, -⟩ := List.lookup_eq_some_iff.mp found
      simp only [List.flatMap_append, List.flatMap_cons, List.mem_append, List.mem_cons, List.mem_map]
      exact Or.inr (Or.inl (Or.inr ⟨e, member, rfl⟩))
  isolated u outside := by
    have missing : graph.lookup u = none := by
      refine List.lookup_eq_none_iff.mpr fun entry member => bne_iff_ne.mpr fun same => outside ?_
      exact List.mem_flatMap.mpr ⟨entry, member, same ▸ List.mem_cons_self ..⟩
    rw [Netz.nachbarn, missing, Option.getD_none]

section Wege

variable {graph : Netz} {first u v goal : Int} {path way : List Int} {c d : ℚ≥0}

theorem Weg.weiter (weg : Weg graph first path u d) (edge : (v, c) ∈ graph.nachbarn u) : Weg graph first (path ++ [v]) v (d + c) := by
  induction weg with
  | ende node =>
    have last := Weg.kante edge (Weg.ende v)
    rwa [add_comm] at last
  | @kante x y u c' d' path edge' _ ih =>
    rw [List.cons_append, add_assoc]
    exact .kante edge' (ih edge)

theorem weg_of_along (along : Along kosten graph.graph first way d) : ∀ last ∈ way.head?, Weg graph first way.reverse last d := by
  induction along with
  | start => exact fun last isHead => Option.some.inj isHead ▸ .ende first
  | @snoc u v way d c _ edge ih =>
    intro last isHead
    rw [← Option.some.inj isHead, List.reverse_cons]
    exact (ih u rfl).weiter edge

theorem Weg.along (weg : Weg graph u path goal d) {before : ℚ≥0} (along : Along kosten graph.graph first (u :: way) before) :
    ∃ way', Along kosten graph.graph first (goal :: way') (before + d) := by
  induction weg generalizing way before with
  | ende node => exact ⟨way, (add_zero before).symm ▸ along⟩
  | @kante u v goal c d path edge _ ih =>
    obtain ⟨way', further⟩ := ih (along.snoc edge)
    exact ⟨way', add_assoc before c d ▸ further⟩

theorem richtig_of_right {answer : Option (List Int)} (right : Right kosten graph.graph first goal answer) :
    graph.Richtig first goal answer := by
  have along : ∀ {path cost}, Weg graph first path goal cost → ∃ way, Along kosten graph.graph first (goal :: way) cost := by
    intro path cost weg
    obtain ⟨way, along⟩ := weg.along .start
    exact ⟨way, (zero_add cost) ▸ along⟩
  cases answer with
  | none =>
    intro path cost weg
    obtain ⟨way, along⟩ := along weg
    exact right (along.connected goal rfl)
  | some path =>
    obtain ⟨cost, isWay, atGoal, least⟩ := right
    have weg := weg_of_along isWay goal atGoal
    rw [List.reverse_reverse] at weg
    refine ⟨cost, weg, fun path' cost' other => ?_⟩
    obtain ⟨way, along⟩ := along other
    exact least way cost' along

theorem rueckweg_of_chain {previous : Int → Option Int} {fuel : Nat} {node : Int}
    (ended : chain previous (fuel + 1) node = chain previous fuel node) :
    rueckweg previous (fuel + 1) node = some (chain previous fuel node) := by
  induction fuel generalizing node with
  | zero =>
    cases last : previous node with
    | none => simp [rueckweg, chain, last]
    | some before => simp [chain, last] at ended
  | succ fuel ih =>
    cases last : previous node with
    | none => simp [rueckweg, chain, last]
    | some before =>
      simp only [chain, last, List.cons.injEq, true_and] at ended
      rw [rueckweg, last]
      dsimp only
      rw [ih ended, chain, last]
      rfl

theorem suche_least {s : State Int ℚ≥0} {node : Int} {fuel : Nat} (min : s.queue.min? = some (toLex (d, node))) :
    suche graph goal (fuel + 1) s =
      if node = goal then (rueckweg s.previous (fuel + 1) node).map fun path => some path.reverse
      else suche graph goal fuel (advance kosten graph.graph s d node) := by
  rw [suche, min, advance, apply_ite (suche graph goal fuel)]
  rfl

theorem suche_richtig {closed : List Int} {level : ℚ≥0} {s : State Int ℚ≥0}
    (sound : Sound kosten graph.graph first goal closed level (fun _ _ => False) s) :
    ∃ answer, (∀ fuel, potential graph.graph closed s + graph.graph.nodes.length + 2 ≤ fuel →
      suche graph goal fuel s = some answer) ∧ Right kosten graph.graph first goal answer := by
  induction rounds : potential graph.graph closed s using Nat.strong_induction_on generalizing closed level s with
  | _ n ih =>
    cases min : s.queue.min? with
    | none =>
      refine ⟨none, fun fuel enough => ?_, sound.missed (List.min?_eq_none_iff.mp min)⟩
      obtain ⟨fuel, rfl⟩ := Nat.exists_eq_add_one_of_ne_zero (by omega : fuel ≠ 0)
      rw [suche, min]
    | some entry =>
      obtain ⟨⟨d, node⟩, rfl⟩ : ∃ pair, toLex pair = entry := ⟨ofLex entry, rfl⟩
      have least : Least s d node := least_of_min? min
      by_cases atGoal : node = goal
      · subst atGoal
        obtain ⟨way, back, shortest, nodup⟩ := sound.found least
        have short := shortest.length_le nodup
        refine ⟨some way.reverse, fun fuel enough => ?_, ?_⟩
        · obtain ⟨fuel, rfl⟩ := Nat.exists_eq_add_one_of_ne_zero (by omega : fuel ≠ 0)
          have here := back fuel (by omega)
          have walked := rueckweg_of_chain ((back (fuel + 1) (by omega)).trans here.symm)
          rw [suche_least min, if_pos rfl, walked, here]
          rfl
        · rw [Right, List.reverse_reverse]
          exact shortest
      · obtain ⟨closed', level', next, less⟩ := sound.advance least atGoal
        obtain ⟨answer, ends, right⟩ := ih _ (rounds ▸ less) next rfl
        refine ⟨answer, fun fuel enough => ?_, right⟩
        obtain ⟨fuel, rfl⟩ := Nat.exists_eq_add_one_of_ne_zero (by omega : fuel ≠ 0)
        rw [suche_least min, if_neg atGoal]
        exact ends fuel (by omega)

end Wege

theorem dijkstra_richtig (graph : Netz) (first goal : Int) :
    ∃ bound answer, (∀ fuel, bound ≤ fuel → graph.dijkstra first goal fuel = some answer) ∧ graph.Richtig first goal answer := by
  obtain ⟨answer, ends, right⟩ := suche_richtig (start_sound kosten graph.graph first goal)
  exact ⟨_, answer, ends, richtig_of_right right⟩

end Einsatzcockpit.Sperre
