import Einsatzcockpit.Lis.Einheiten

namespace Einsatzcockpit.Lis

open Relational Transition

section Entlassen

variable {κ ο : Type}

/-- `unit_ids` -/
def unitIds (units : List (Unit κ)) : List String := units.filterMap (·.id)

/-- The vehicles that `_sync_released_vehicles` looks at. -/
def gefuehrt (vehicle : IncidentVehicle) : Bool :=
  vehicle.removed = false ∧ vehicle.lisOperationUnitId.isSome ∧ vehicle.unitStatus ≠ "Einsatzbereit"

def geliefert (ids : List String) (vehicle : IncidentVehicle) : Bool := vehicle.lisOperationUnitId.any ids.contains

def entlaesst (ids : List String) (misses : Nat → Nat) (vehicle : IncidentVehicle) : Bool :=
  gefuehrt vehicle ∧ geliefert ids vehicle = false ∧ 2 ≤ misses vehicle.id + 1

def entlasse (ids : List String) (misses : Nat → Nat) (vehicle : IncidentVehicle) : IncidentVehicle :=
  if entlaesst ids misses vehicle then { vehicle with unitStatus := "Einsatzbereit" } else vehicle

theorem entlasse_id (ids : List String) (misses : Nat → Nat) (vehicle : IncidentVehicle) :
    (entlasse ids misses vehicle).id = vehicle.id := by
  unfold entlasse
  split <;> rfl

/-- `_released_vehicle_misses` after the loop; a vehicle that is not counted has 0. -/
def zaehle (ids : List String) (misses : Nat → Nat) (vehicle : IncidentVehicle) : Nat :=
  if gefuehrt vehicle = false then misses vehicle.id
  else if geliefert ids vehicle ∨ 2 ≤ misses vehicle.id + 1 then 0
  else misses vehicle.id + 1

def entlassungsLog (masters : Keyed VehicleMaster.id) (vehicle : IncidentVehicle) : IncidentLog where
  text := "LIS: " ++ ((masters.get? vehicle.vehicleMasterId).map (·.code)).getD s!"Fahrzeug {vehicle.id}" ++
    " aus Einsatz entlassen – Status Einsatzbereit"
  entityType := "lis_unit"

/-- `_sync_released_vehicles`, with the counts of the process. -/
def syncReleasedVehicles (stand : Stand ο) (misses : Nat → Nat) (ids : List String) : Stand ο × (Nat → Nat) :=
  ({ stand with
      vehicles := stand.vehicles.map (entlasse ids misses) (entlasse_id ids misses)
      logs := stand.logs ++ (stand.vehicles.rows.filter (entlaesst ids misses)).map (entlassungsLog stand.masters) },
    fun id => ((stand.vehicles.get? id).map (zaehle ids misses)).getD (misses id))

end Entlassen

/-- The rows of an incident, the counts of each process, and, for the record, the units
of the polls that were evaluated, the last one first. -/
structure Entlassungen (ο : Type) where
  stand : Stand ο
  misses : Nat → Nat → Nat := fun _ _ => 0
  polls : List (List String) := []

/-- A poll of the operation by a process, whose transaction may fail; a change of the
vehicle by others, a vehicle that is added by hand, and a new start of a process. -/
inductive Pollaktion (κ : Type) where
  | poll (prozess : Nat) (jetzt : Zeit) (units : List (Unit κ)) (scheitert : Bool)
  | lokal (vehicleId : Nat) (unitStatus : String) (removed : Bool) (lisPushedStatus : Option String) (lisPushedAt : Option Zeit)
  | hinzu (columnId vehicleMasterId : Nat) (unitStatus : String)
  | neustart (prozess : Nat)

namespace Entlassungen

variable {κ ο ρ : Type} [DecidableEq ρ] (quelle : Quelle κ ο ρ)

def step (w : Entlassungen ο) : Pollaktion κ → Entlassungen ο
  | .poll prozess jetzt units scheitert =>
    let importiert := syncVehicleStatus quelle jetzt w.stand units
    if units = [] then w
    else
      let released := syncReleasedVehicles importiert (w.misses prozess) (unitIds units)
      { stand := if scheitert then w.stand else released.1
        misses := Function.update w.misses prozess released.2
        polls := unitIds units :: w.polls }
  | .lokal vehicleId unitStatus removed lisPushedStatus lisPushedAt =>
    { w with stand := { w.stand with
        vehicles := w.stand.vehicles.modify vehicleId (fun v => { v with unitStatus, removed, lisPushedStatus, lisPushedAt }) fun _ => rfl } }
  | .hinzu columnId vehicleMasterId unitStatus =>
    { w with stand := { w.stand with
        vehicles := w.stand.vehicles.insert (fun id => { id, columnId, vehicleMasterId, unitStatus }) fun _ => rfl } }
  | .neustart prozess => { w with misses := Function.update w.misses prozess fun _ => 0 }

/-- A poll with the unit of a vehicle that was missing before is one of the process
that has counted it, and finds the vehicle. -/
def Sichtbar (w : Entlassungen ο) : Pollaktion κ → Prop
  | .poll prozess jetzt units _ => units ≠ [] → ∀ other id, w.misses other id ≠ 0 →
      ∀ v, (syncVehicleStatus quelle jetzt w.stand units).vehicles.get? id = some v → geliefert (unitIds units) v = true →
        other = prozess ∧ gefuehrt v = true
  | _ => True

/-- A vehicle is released by a poll only if its unit is missing in this poll and in the
one before, and a poll with the unit counts anew. -/
structure Zweimal (w : Entlassungen ο) (prozess : Nat) (jetzt : Zeit) (units : List (Unit κ)) : Prop where
  entlassen : ∀ id v v', (syncVehicleStatus quelle jetzt w.stand units).vehicles.get? id = some v → v.unitStatus ≠ "Einsatzbereit" →
    (w.step quelle (.poll prozess jetzt units false)).stand.vehicles.get? id = some v' → v'.unitStatus = "Einsatzbereit" →
      ∃ unit last, v.lisOperationUnitId = some unit ∧ unit ∉ unitIds units ∧ w.polls.head? = some last ∧ unit ∉ last
  gezaehlt : units ≠ [] → ∀ id v', (w.step quelle (.poll prozess jetzt units false)).stand.vehicles.get? id = some v' →
    geliefert (unitIds units) v' = true → ∀ other, (w.step quelle (.poll prozess jetzt units false)).misses other id = 0

end Entlassungen

section Einheit

variable {κ ο ρ : Type} {quelle : Quelle κ ο ρ} {ids : List String} {v : IncidentVehicle}

def GleicheEinheit (ids : List String) (v v' : IncidentVehicle) : Prop :=
  v'.lisOperationUnitId = v.lisOperationUnitId ∨ geliefert ids v' = true

theorem geliefert_iff : geliefert ids v = true ↔ ∃ unit, v.lisOperationUnitId = some unit ∧ unit ∈ ids := by
  simp [geliefert, Option.any_eq_true]

theorem geliefert_congr {v' : IncidentVehicle} (same : v'.lisOperationUnitId = v.lisOperationUnitId) :
    geliefert ids v' = geliefert ids v := by
  rw [geliefert, geliefert, same]

theorem GleicheEinheit.refl (v : IncidentVehicle) : GleicheEinheit ids v v := Or.inl rfl

theorem GleicheEinheit.trans {v v' v'' : IncidentVehicle} (first : GleicheEinheit ids v v') (second : GleicheEinheit ids v' v'') :
    GleicheEinheit ids v v'' := by
  rcases second with same | delivered
  · rcases first with before | delivered
    · exact Or.inl (same.trans before)
    · exact Or.inr ((geliefert_congr same).trans delivered)
  · exact Or.inr delivered

theorem mitEinheit_einheit {unit : Unit κ} (member : ∀ id, unit.id = some id → id ∈ ids) (v : IncidentVehicle) :
    GleicheEinheit ids v (mitEinheit unit v) := by
  unfold mitEinheit
  split
  · next id isId =>
    split
    · have given : unit.id = some id := (Option.filter_eq_some_iff.mp isId).1
      exact Or.inr (geliefert_iff.mpr ⟨id, rfl, member id given⟩)
    · exact Or.inl rfl
  · exact Or.inl rfl

theorem aktualisiert_einheit {unit : Unit κ} (member : ∀ id, unit.id = some id → id ∈ ids) (jetzt : Zeit) (v : IncidentVehicle) :
    GleicheEinheit ids v (aktualisiert quelle jetzt unit v) := by
  obtain ⟨-, -, status⟩ := mitStatus_columns quelle jetzt unit (mitEinheit unit v)
  exact (mitEinheit_einheit member v).trans (Or.inl status)

variable [DecidableEq ρ]

theorem syncUnit_einheiten {unit : Unit κ} (member : ∀ id, unit.id = some id → id ∈ ids) (jetzt : Zeit) (stand : Stand ο) :
    Keyed.Follows (GleicheEinheit ids) stand.vehicles (syncUnit quelle jetzt stand unit).vehicles := by
  have unchanged : Keyed.Follows (GleicheEinheit ids) stand.vehicles stand.vehicles := Keyed.Follows.refl .refl _
  unfold syncUnit
  split
  · exact unchanged
  split
  · exact unchanged
  next vehicles written =>
  unfold schreibeFahrzeug at written
  split at written
  · cases written
    exact Keyed.Follows.modify .refl (aktualisiert_id quelle jetzt unit) fun v _ => aktualisiert_einheit member jetzt v
  · split at written
    · cases written
      exact Keyed.Follows.insert .refl _ fun _ => rfl
    · cases written

def Herkunft (ids : List String) (vehicles neu : Keyed IncidentVehicle.id) : Prop :=
  ∀ id v, neu.get? id = some v → (v.lisOperationUnitId.isSome → geliefert ids v = true) ∨ ∃ old, vehicles.get? id = some old ∧
    v.lisOperationUnitId = old.lisOperationUnitId

theorem Herkunft.refl (vehicles : Keyed IncidentVehicle.id) : Herkunft ids vehicles vehicles :=
  fun _ v found => Or.inr ⟨v, found, rfl⟩

theorem Herkunft.trans {a b c : Keyed IncidentVehicle.id} (first : Herkunft ids a b) (second : Herkunft ids b c) : Herkunft ids a c := by
  intro id v found
  rcases second id v found with delivered | ⟨mid, isMid, same⟩
  · exact Or.inl delivered
  rcases first id mid isMid with delivered | ⟨old, isOld, before⟩
  · exact Or.inl fun some_ => (geliefert_congr same).trans (delivered (same ▸ some_))
  · exact Or.inr ⟨old, isOld, same.trans before⟩

theorem syncUnit_herkunft {unit : Unit κ} (member : ∀ id, unit.id = some id → id ∈ ids) (jetzt : Zeit) (stand : Stand ο) :
    Herkunft ids stand.vehicles (syncUnit quelle jetzt stand unit).vehicles := by
  unfold syncUnit
  split
  · exact .refl _
  split
  · exact .refl _
  next vehicles written =>
  unfold schreibeFahrzeug at written
  split at written
  · cases written
    intro id v found
    dsimp only at found
    rcases Keyed.get?_modify_cases found with ⟨-, old⟩ | ⟨rfl, old, before, rfl⟩
    · exact Or.inr ⟨v, old, rfl⟩
    · have becomes : GleicheEinheit _ old (aktualisiert quelle jetzt unit old) := aktualisiert_einheit member jetzt old
      rcases becomes with same | delivered
      · exact Or.inr ⟨old, before, same⟩
      · exact Or.inl fun _ => delivered
  · split at written
    · cases written
      intro id v found
      dsimp only at found
      rcases Keyed.get?_insert_cases found with old | ⟨-, rfl⟩
      · exact Or.inr ⟨v, old, rfl⟩
      · refine Or.inl fun some_ => ?_
        obtain ⟨unitId, isUnit⟩ := Option.isSome_iff_exists.mp some_
        exact geliefert_iff.mpr ⟨unitId, isUnit, member unitId isUnit⟩
    · cases written

theorem unitIds_mem {units : List (Unit κ)} {unit : Unit κ} (member : unit ∈ units) (id : String) (isId : unit.id = some id) :
    id ∈ unitIds units := List.mem_filterMap.mpr ⟨unit, member, isId⟩

theorem syncVehicleStatus_keeps {R : Keyed IncidentVehicle.id → Keyed IncidentVehicle.id → Prop} (refl : ∀ a, R a a)
    (trans : ∀ a b c, R a b → R b c → R a c) {jetzt : Zeit} {units : List (Unit κ)}
    (step : ∀ unit ∈ units, ∀ stand : Stand ο, R stand.vehicles (syncUnit quelle jetzt stand unit).vehicles) (stand : Stand ο) :
    R stand.vehicles (syncVehicleStatus quelle jetzt stand units).vehicles := by
  induction units generalizing stand with
  | nil => exact refl _
  | cons unit rest ih =>
    exact trans _ _ _ (step unit (List.mem_cons_self ..) stand)
      (ih (fun other later => step other (List.mem_cons_of_mem _ later)) (syncUnit quelle jetzt stand unit))

theorem syncVehicleStatus_einheiten (jetzt : Zeit) (stand : Stand ο) (units : List (Unit κ)) :
    Keyed.Follows (GleicheEinheit (unitIds units)) stand.vehicles (syncVehicleStatus quelle jetzt stand units).vehicles :=
  syncVehicleStatus_keeps (R := Keyed.Follows (GleicheEinheit (unitIds units))) (fun _ => Keyed.Follows.refl .refl _)
    (fun _ _ _ => Keyed.Follows.trans fun _ _ _ => .trans) (fun _ member => syncUnit_einheiten (unitIds_mem member) jetzt) stand

theorem syncVehicleStatus_herkunft (jetzt : Zeit) (stand : Stand ο) (units : List (Unit κ)) :
    Herkunft (unitIds units) stand.vehicles (syncVehicleStatus quelle jetzt stand units).vehicles :=
  syncVehicleStatus_keeps (R := Herkunft (unitIds units)) .refl (fun _ _ _ => .trans)
    (fun _ member => syncUnit_herkunft (unitIds_mem member) jetzt) stand

end Einheit

section Freigabe

variable {ο : Type} {stand : Stand ο} {misses : Nat → Nat} {ids : List String} {v : IncidentVehicle} {id : Nat}

theorem get?_released (stand : Stand ο) (misses : Nat → Nat) (ids : List String) (id : Nat) :
    (syncReleasedVehicles stand misses ids).1.vehicles.get? id = (stand.vehicles.get? id).map (entlasse ids misses) :=
  Keyed.get?_map (entlasse ids misses) (entlasse_id ids misses)

theorem misses_released (found : stand.vehicles.get? id = some v) :
    (syncReleasedVehicles stand misses ids).2 id = zaehle ids misses v := by
  simp [syncReleasedVehicles, found]

theorem entlasse_einheit (ids : List String) (misses : Nat → Nat) (v : IncidentVehicle) :
    (entlasse ids misses v).lisOperationUnitId = v.lisOperationUnitId := by
  unfold entlasse
  split <;> rfl

theorem zaehle_ne_zero (counted : zaehle ids misses v ≠ 0) (bound : misses v.id ≤ 1) :
    zaehle ids misses v = 1 ∧ (geliefert ids v = true → gefuehrt v = false ∧ misses v.id ≠ 0) := by
  unfold zaehle at counted ⊢
  split
  · next passed =>
    rw [if_pos passed] at counted
    exact ⟨by omega, fun _ => ⟨passed, counted⟩⟩
  · next seen =>
    rw [if_neg seen] at counted
    split
    · next reset => exact absurd (if_pos reset) counted
    · next missing => exact ⟨by omega, fun delivered => absurd (Or.inl delivered) missing⟩

end Freigabe

namespace Entlassungen

variable {κ ο ρ : Type} [DecidableEq ρ] {quelle : Quelle κ ο ρ} {w : Entlassungen ο}

def Gezaehlt (w : Entlassungen ο) : Prop :=
  ∀ prozess id, w.misses prozess id ≠ 0 → w.misses prozess id = 1 ∧
    ∃ last, w.polls.head? = some last ∧ ∀ v, w.stand.vehicles.get? id = some v → geliefert last v = false

theorem Gezaehlt.nachPoll (gezaehlt : w.Gezaehlt) {prozess : Nat} {jetzt : Zeit} {units : List (Unit κ)} {scheitert : Bool}
    (some_ : units ≠ []) (sichtbar : w.Sichtbar quelle (.poll prozess jetzt units scheitert)) {other id : Nat}
    (counted : (w.step quelle (.poll prozess jetzt units scheitert)).misses other id ≠ 0) :
    (w.step quelle (.poll prozess jetzt units scheitert)).misses other id = 1 ∧
      ∀ v, (syncVehicleStatus quelle jetzt w.stand units).vehicles.get? id = some v → geliefert (unitIds units) v = false := by
  have kept := fun counted => (gezaehlt other id counted).1
  rw [step, if_neg some_] at counted ⊢
  by_cases same : other = prozess
  · subst same
    simp only [Function.update_self] at counted ⊢
    have bound : w.misses other id ≤ 1 := by
      by_cases none_ : w.misses other id = 0
      · omega
      · exact (kept none_).le
    cases found : (syncVehicleStatus quelle jetzt w.stand units).vehicles.get? id with
    | none =>
      simp only [syncReleasedVehicles, found, Option.map_none, Option.getD_none] at counted ⊢
      exact ⟨kept counted, fun v isV => by cases isV⟩
    | some v =>
      have isId := Keyed.key_of_get? found
      rw [misses_released found] at counted ⊢
      obtain ⟨one, delivered⟩ := zaehle_ne_zero counted (isId.symm ▸ bound)
      refine ⟨one, fun v' isV => Bool.eq_false_iff.mpr fun inPoll => ?_⟩
      cases isV
      obtain ⟨passed, before⟩ := delivered inPoll
      have seen := (sichtbar some_ other id (isId ▸ before) v found inPoll).2
      rw [passed] at seen
      cases seen
  · simp only [Function.update_of_ne same] at counted ⊢
    refine ⟨kept counted, fun v found => Bool.eq_false_iff.mpr fun inPoll => ?_⟩
    exact same (sichtbar some_ other id counted v found inPoll).1

theorem Gezaehlt.step (gezaehlt : w.Gezaehlt) (a : Pollaktion κ) (sichtbar : w.Sichtbar quelle a) : (w.step quelle a).Gezaehlt := by
  cases a with
  | poll prozess jetzt units scheitert =>
    by_cases empty : units = []
    · rw [Entlassungen.step, if_pos empty]
      exact gezaehlt
    intro other id counted
    obtain ⟨one, missing⟩ := gezaehlt.nachPoll empty sichtbar counted
    rw [Entlassungen.step, if_neg empty] at one ⊢
    refine ⟨one, unitIds units, rfl, fun v found => ?_⟩
    cases scheitert with
    | true =>
      have follows : Keyed.Follows (GleicheEinheit (unitIds units)) w.stand.vehicles
          (syncVehicleStatus quelle jetzt w.stand units).vehicles := syncVehicleStatus_einheiten jetzt w.stand units
      obtain ⟨v', found', unit⟩ := follows id v found
      rcases unit with same | delivered
      · exact (geliefert_congr same).symm.trans (missing v' found')
      · rw [missing v' found'] at delivered
        cases delivered
    | false =>
      obtain ⟨v', found', rfl⟩ := Option.map_eq_some_iff.mp ((get?_released _ _ _ id).symm.trans found)
      exact (geliefert_congr (entlasse_einheit _ _ _)).trans (missing v' found')
  | lokal vehicleId unitStatus removed lisPushedStatus lisPushedAt =>
    intro other id counted
    obtain ⟨one, last, isLast, missing⟩ := gezaehlt other id counted
    refine ⟨one, last, isLast, fun v found => ?_⟩
    dsimp only [Entlassungen.step] at found
    rcases Keyed.get?_modify_cases found with ⟨-, old⟩ | ⟨rfl, old, before, rfl⟩
    · exact missing v old
    · exact missing old before
  | hinzu columnId vehicleMasterId unitStatus =>
    intro other id counted
    obtain ⟨one, last, isLast, missing⟩ := gezaehlt other id counted
    refine ⟨one, last, isLast, fun v found => ?_⟩
    dsimp only [Entlassungen.step] at found
    rcases Keyed.get?_insert_cases found with old | ⟨-, rfl⟩
    · exact missing v old
    · rfl
  | neustart prozess =>
    intro other id counted
    by_cases same : other = prozess
    · subst same
      exact absurd (congrFun (Function.update_self other _ w.misses) id) counted
    · have kept : (w.step quelle (.neustart prozess)).misses other id = w.misses other id :=
        congrFun (Function.update_of_ne same _ w.misses) id
      rw [kept] at counted ⊢
      exact gezaehlt other id counted

theorem Gezaehlt.zweimal (gezaehlt : w.Gezaehlt) {prozess : Nat} {jetzt : Zeit} {units : List (Unit κ)}
    (sichtbar : w.Sichtbar quelle (.poll prozess jetzt units false)) : w.Zweimal quelle prozess jetzt units := by
  refine ⟨fun id v v' found active found' ready => ?_, fun some_ id v' found' delivered other => ?_⟩
  · by_cases empty : units = []
    · subst empty
      rw [Entlassungen.step, if_pos rfl] at found'
      have same : some v = some v' := found.symm.trans found'
      cases same
      exact absurd ready active
    rw [Entlassungen.step, if_neg empty] at found'
    obtain ⟨v'', again, rfl⟩ := Option.map_eq_some_iff.mp ((get?_released _ _ _ id).symm.trans found')
    cases found.symm.trans again
    have released : entlaesst (unitIds units) (w.misses prozess) v = true := by
      by_contra stays
      rw [entlasse, if_neg stays] at ready
      exact active ready
    have isId := Keyed.key_of_get? found
    simp only [entlaesst, gefuehrt, decide_eq_true_eq, isId] at released
    obtain ⟨⟨-, some_, -⟩, missing, counted⟩ := released
    obtain ⟨unit, isUnit⟩ := Option.isSome_iff_exists.mp some_
    obtain ⟨-, last, isLast, before⟩ := gezaehlt prozess id (by omega)
    have notIn : ∀ ids, geliefert ids v = false → unit ∉ ids := by
      intro ids absent member
      rw [geliefert_iff.mpr ⟨unit, isUnit, member⟩] at absent
      cases absent
    refine ⟨unit, last, isUnit, notIn _ missing, isLast, notIn last ?_⟩
    have origin : Herkunft (unitIds units) w.stand.vehicles (syncVehicleStatus quelle jetzt w.stand units).vehicles :=
      syncVehicleStatus_herkunft jetzt w.stand units
    rcases origin id v found with delivered | ⟨old, isOld, same⟩
    · rw [delivered some_] at missing
      cases missing
    · exact (geliefert_congr same).trans (before old isOld)
  · by_contra counted
    obtain ⟨-, missing⟩ := gezaehlt.nachPoll some_ sichtbar counted
    rw [Entlassungen.step, if_neg some_] at found'
    obtain ⟨v, found, rfl⟩ := Option.map_eq_some_iff.mp ((get?_released _ _ _ id).symm.trans found')
    rw [geliefert_congr (entlasse_einheit _ _ _), missing v found] at delivered
    cases delivered

/-- A vehicle is released only after two polls without its unit, as long as no poll with
the unit is run by another process or while the vehicle is not looked at. -/
theorem entlassung_nach_zwei_polls (stand : Stand ο) (aktionen : List (Pollaktion κ))
    (sichtbar : Meets (Entlassungen.step quelle) (Sichtbar quelle) { stand } aktionen) (prozess : Nat) (jetzt : Zeit) (units : List (Unit κ))
    (poll : (Transition.run (Entlassungen.step quelle) { stand } aktionen).Sichtbar quelle (.poll prozess jetzt units false)) :
    (Transition.run (Entlassungen.step quelle) { stand } aktionen).Zweimal quelle prozess jetzt units := by
  have start : Gezaehlt ({ stand } : Entlassungen ο) := fun _ _ counted => absurd rfl counted
  have held : Gezaehlt (Transition.run (Entlassungen.step quelle) { stand } aktionen) :=
    run_induction Gezaehlt (fun _ a held visible => held.step a visible) start sichtbar
  exact held.zweimal poll

def beispielQuelle : Quelle Nat Nat Nat where
  lower := id
  upper := id
  parseDatetime := fun _ => none
  parsePersonResponse := fun _ _ => none
  coords := some
  rund := id
  rootOrgMap := fun _ => none
  syncExternalUnits := false

def beispielStand : Stand Nat where
  masters := Keyed.empty.insert (fun id => { id, code := "TLF", lisReferenceId := some "r1" }) fun _ => rfl
  vehicles := Keyed.empty.insert (fun id =>
    { id, columnId := 1, vehicleMasterId := 1, unitStatus := "Am Einsatzort", lisOperationUnitId := some "u1" }) fun _ => rfl

def andereEinheit : Lis.Unit Nat := { id := some "u9", referenceId := none, unitType := some "Operational" }

def eigeneEinheit : Lis.Unit Nat := { id := some "u1", referenceId := some "r1", unitType := some "Vehicle", statusLabel := some "S1" }

theorem Sichtbar.of_fehlt {prozess : Nat} {jetzt : Zeit} {units : List (Lis.Unit κ)} {scheitert : Bool}
    (fehlt : ∀ v ∈ (syncVehicleStatus quelle jetzt w.stand units).vehicles.rows, geliefert (unitIds units) v = false) :
    w.Sichtbar quelle (.poll prozess jetzt units scheitert) := by
  intro _ other id _ v found delivered
  rw [fehlt v (Keyed.mem_of_get? found)] at delivered
  cases delivered

def zweimalOhne : List (Pollaktion Nat) := [.poll 0 0 [andereEinheit] false, .poll 0 (sekunden 10) [andereEinheit] false]

theorem entlassung_beispiel :
    (Transition.run (Entlassungen.step beispielQuelle) { stand := beispielStand } zweimalOhne).Zweimal beispielQuelle 0
      (sekunden 20) [andereEinheit] :=
  entlassung_nach_zwei_polls beispielStand zweimalOhne
    ⟨.of_fehlt (by decide +kernel), .of_fehlt (by decide +kernel), trivial⟩ 0 (sekunden 20) [andereEinheit]
    (.of_fehlt (by decide +kernel))

def einmalOhne : List (Pollaktion Nat) :=
  [.poll 0 0 [andereEinheit] false, .lokal 1 "Einsatzbereit" false none none, .poll 0 (sekunden 10) [eigeneEinheit] false,
    .lokal 1 "Am Einsatzort" false none none]

def entlaesstZuFrueh (quelle : Quelle κ ο ρ) (w : Entlassungen ο) (jetzt : Zeit) (units : List (Lis.Unit κ)) (id : Nat) : Bool :=
  (((syncVehicleStatus quelle jetzt w.stand units).vehicles.get? id).any fun v =>
      v.unitStatus ≠ "Einsatzbereit" ∧ w.polls.head?.any (geliefert · v)) &&
    ((w.step quelle (.poll 0 jetzt units false)).stand.vehicles.get? id).any (·.unitStatus = "Einsatzbereit")

theorem Zweimal.not_zuFrueh {jetzt : Zeit} {units : List (Lis.Unit κ)} (zweimal : w.Zweimal quelle 0 jetzt units) (id : Nat) :
    entlaesstZuFrueh quelle w jetzt units id = false := by
  refine Bool.eq_false_iff.mpr fun early => ?_
  simp only [entlaesstZuFrueh, Bool.and_eq_true, Option.any_eq_true, decide_eq_true_eq] at early
  obtain ⟨⟨v, found, active, last, isLast, delivered⟩, v', found', ready⟩ := early
  obtain ⟨unit, last', isUnit, -, isLast', before⟩ := zweimal.entlassen id v v' found active found' ready
  cases isLast.symm.trans isLast'
  obtain ⟨unit', isUnit', member⟩ := geliefert_iff.mp delivered
  cases isUnit.symm.trans isUnit'
  exact before member

theorem entlassung_nach_einem_fehlen :
    ¬ (Transition.run (Entlassungen.step beispielQuelle) { stand := beispielStand } einmalOhne).Zweimal beispielQuelle 0
      (sekunden 20) [andereEinheit] := by
  intro zweimal
  have early : entlaesstZuFrueh beispielQuelle (Transition.run (Entlassungen.step beispielQuelle) { stand := beispielStand } einmalOhne)
      (sekunden 20) [andereEinheit] 1 = true := by decide +kernel
  rw [zweimal.not_zuFrueh 1] at early
  cases early

end Entlassungen

end Einsatzcockpit.Lis
