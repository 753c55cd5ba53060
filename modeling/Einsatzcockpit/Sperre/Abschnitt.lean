import Einsatzcockpit.Lib.Dijkstra
import Mathlib.Data.Rat.Defs

/-! The way of a closed section of a street between two crossings,
`road_closure_section_resolver.py`. -/

namespace Einsatzcockpit.Sperre

open Dijkstra

abbrev Punkt := ℚ × ℚ

structure OsmWay where
  coords : List Punkt
  nodeIds : List Int

/-- `_nodes`; where a node comes twice, the last coordinates count. -/
def koordinate (ways : List OsmWay) (node : Int) : Option Punkt :=
  ((ways.flatMap fun way => way.nodeIds.zip way.coords).reverse.find? fun entry => entry.1 = node).map (·.2)

variable {W : Type*} [LinearOrder W] (L : Lengths W) (distance : Punkt → Punkt → W)

def kante (ways : List OsmWay) (node : Int) (piece : Int × Int) : List (Int × W) :=
  match koordinate ways piece.1, koordinate ways piece.2 with
  | some left, some right =>
    (if piece.1 = node then [(piece.2, distance left right)] else []) ++
      if piece.2 = node then [(piece.1, distance left right)] else []
  | _, _ => []

def nachbarn (ways : List OsmWay) (node : Int) : List (Int × W) :=
  ways.flatMap fun way => (way.nodeIds.zip way.nodeIds.tail).flatMap (kante distance ways node)

section Graph

variable {distance} {ways : List OsmWay} {u v : Int} {c : W}

end Graph

variable (G : Dijkstra.Graph Int W)

inductive Abschnitt where
  | ganzeStrasse
  | keinZusammenhang
  | weg (path : List Int)
  deriving DecidableEq

section Wahl

variable {L G} {candidates other : List Int} {a b : Int}

end Wahl

section Verbunden

variable {L distance} {ways : List OsmWay} {fromCross toCross : List Int} {a b : Int}

end Verbunden

end Einsatzcockpit.Sperre
