import Einsatzcockpit.Sperre.Records
import Mathlib.Algebra.Order.Field.Rat

/-! The routes of the incidents that a change of a closure makes stale. -/

namespace Einsatzcockpit.Sperre

open Relational

/-- `bbox` -/
structure Box where
  minLat : ℚ
  minLng : ℚ
  maxLat : ℚ
  maxLng : ℚ

/-- A row of `incident_route`; `aktiv` says that its incident is. -/
structure IncidentRoute (ι : Type) where
  id : Nat
  orgId : Nat
  aktiv : Bool := true
  routeGeojson : Option ι := none
  destLat : Option ℚ := none
  destLng : Option ℚ := none
  stale : Bool := false
  deriving DecidableEq

variable {κ ι : Type} (geo : Geo κ ι Box) (distanceM : ℚ → ℚ → Geometrie κ → Except String ℚ)

def expand : ℚ := 500 / 111320

/-- The bounds of a route meet those of a closure, or miss them by 500 metres at most. -/
def ueberlappt (rbox cbox : Box) : Bool :=
  !(rbox.maxLat < cbox.minLat - expand || rbox.minLat > cbox.maxLat + expand ||
    rbox.maxLng < cbox.minLng - expand || rbox.minLng > cbox.maxLng + expand)

/-- `mark` of `mark_routes_stale_for_closure` -/
def mark (geometry : Option (Geometrie κ)) (route : IncidentRoute ι) : Bool :=
  match geometry, route.routeGeojson.filter (!geo.leer ·), route.destLat, route.destLng with
  | some geometry, some raw, some lat, some lng =>
    match geo.validate raw with
    | .error _ => true
    | .ok line =>
      ueberlappt (geo.bbox line) (geo.bbox geometry) ||
        match distanceM lat lng geometry with
        | .error _ => true
        | .ok distance => distance ≤ 500
  | _, _, _, _ => true

/-- The route is one of an active incident and of an organisation that sees the
closure: its owner, or one of `orgIds`. -/
def Betroffen (closure : RoadClosure κ Box) (orgIds : List Nat) (route : IncidentRoute ι) : Prop :=
  route.aktiv = true ∧ (some route.orgId = closure.orgId ∨ route.orgId ∈ orgIds)

instance (closure : RoadClosure κ Box) (orgIds : List Nat) (route : IncidentRoute ι) :
    Decidable (Betroffen closure orgIds route) := by
  unfold Betroffen
  infer_instance

/-- `mark_routes_stale_for_closure` -/
def markRoutesStaleForClosure (closure : RoadClosure κ Box) (shares extraOrgIds : List Nat) (routen : List (IncidentRoute ι)) :
    List (IncidentRoute ι) :=
  routen.map fun route =>
    if Betroffen closure (shares ++ extraOrgIds) route ∧ mark geo distanceM closure.geometryGeojson route = true then
      { route with stale := true }
    else route

structure Routenwelt (κ ι : Type) where
  welt : Welt κ Box
  routen : List (IncidentRoute ι) := []

def Aktion.sperre (welt : Welt κ Box) : Aktion ι → Nat
  | .create .. => welt.sperren.last + 1
  | .update id .. | .setSections id .. | .confirm id .. | .deactivate id .. | .reactivate id | .setShares id .. => id
  | .supersede old .. => old

def version (welt : Welt κ Box) (id : Nat) : Option Nat := (welt.sperren.get? id).map (·.version)

def geometrie (welt : Welt κ Box) (id : Nat) : Option (Geometrie κ) := (welt.sperren.get? id).bind (·.geometryGeojson)

variable [DecidableEq κ]

/-- An operation; one that changes the closure marks the routes by what the closure
is then. Shares that go away are marked with those that stay. -/
def Routenwelt.step (w : Routenwelt κ ι) (aktion : Aktion ι) : Routenwelt κ ι :=
  let id := aktion.sperre w.welt
  let welt := Sperre.step geo w.welt aktion
  let removed := (w.welt.shares id).filter fun org => !(welt.shares id).contains org
  match welt.sperren.get? id with
  | some closure =>
    if version w.welt id ≠ version welt id then
      { welt, routen := markRoutesStaleForClosure geo distanceM closure (welt.shares id) removed w.routen }
    else { w with welt }
  | none => { w with welt }

section Lemmas

variable {geo distanceM} {route : IncidentRoute ι} {geometry : Geometrie κ}

omit [DecidableEq κ] in
theorem Betroffen.mono {closure : RoadClosure κ Box} {shares removed : List Nat} (betroffen : Betroffen closure shares route) :
    Betroffen closure (shares ++ removed) route :=
  ⟨betroffen.1, betroffen.2.imp_right fun member => List.mem_append_left _ member⟩

end Lemmas

section Schritt

variable {geo distanceM} {w : Routenwelt κ ι} {aktion : Aktion ι} {closure : RoadClosure κ Box}

end Schritt

section Beispiel

abbrev Linie := Geometrie (ℚ × ℚ)

def rand (waehle : ℚ → ℚ → ℚ) : List ℚ → ℚ
  | [] => 0
  | wert :: rest => rest.foldl waehle wert

/-- The distance to the nearest point, with a degree of 111320 metres both ways. -/
def abstand (lat lng : ℚ) (geom : Linie) : Except String ℚ :=
  .ok (rand min (geom.inhalt.map fun punkt => 111320 * max |punkt.1 - lat| |punkt.2 - lng|))

def linie (punkte : List (ℚ × ℚ)) : Linie := { typ := "LineString", inhalt := punkte }

end Beispiel

end Einsatzcockpit.Sperre
