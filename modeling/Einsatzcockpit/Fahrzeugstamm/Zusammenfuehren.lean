import Einsatzcockpit.Lib.Keyed
import Einsatzcockpit.Lib.Raise
import Einsatzcockpit.Basis
import Mathlib.Data.List.MinMax
import Mathlib.Data.Prod.Lex
import Mathlib.Algebra.Order.Ring.Rat

/-! Two rows of one vehicle become one, `vehicle_merge_service.py`. -/

namespace Einsatzcockpit.Fahrzeugstamm

open Raising Relational

section Daten

structure VehicleMaster where
  id : Nat
  deptId : Nat
  code : String
  displayLabel : String
  kmAktuell : Option Int := none
  betriebsstundenAktuell : Option ℚ := none
  seilwindeBhAktuell : Option ℚ := none
  lisReferenceId : Option String := none
  kennzeichen : Option String := none
  taktischesZeichen : Option String := none
  bosOverride : Option String := none
  schadenMailOverride : Option String := none
  schadenTeamsWebhookOverride : Option String := none
  qrToken : Option String := none
  deleted : Bool := false
  active : Bool := true

structure IncidentVehicle where
  id : Nat
  incidentId : Nat
  columnId : Nat
  vehicleMasterId : Nat
  commanderMemberId : Option Nat := none
  commanderName : Option String := none
  fahrerMemberId : Option Nat := none
  fahrerName : Option String := none
  fahrer2MemberId : Option Nat := none
  fahrer2Name : Option String := none
  kmGefahren : Option Int := none
  displayOrder : Int := 0
  removedAt : Option Zeit := none
  orgColorOverride : Option String := none
  unitStatus : String := "Einsatz übernommen"
  createdAt : Zeit := 0
  lisOperationUnitId : Option String := none
  deriving DecidableEq

/-- What the deletion of a row means to a row that refers to it. -/
inductive Loeschung where
  | mitgeloescht
  | geleert
  | verweigert
  deriving DecidableEq

inductive Art where
  | task
  | message
  | rescuedPerson
  | breathingTroop

def Art.alle : List Art := [.task, .message, .rescuedPerson, .breathingTroop]

/-- The session empties `Task.vehicle_id`, the database `Message.vehicle_id`. -/
def Art.loeschung : Art → Loeschung
  | .task | .message => .geleert
  | .rescuedPerson | .breathingTroop => .verweigert

structure Anhang where
  id : Nat
  incidentId : Nat
  vehicleId : Option Nat

structure Karte where
  kind : Option String
  id : Option (Nat ⊕ String)
  weitere : List (String × String) := []

/-- What `card_order` holds: nothing, no JSON, JSON that is no list of objects, or cards. -/
inductive Kartenfolge where
  | leer
  | unlesbar (text : String)
  | fremd (text : String)
  | liste (karten : List Karte)

structure IncidentColumn where
  id : Nat
  incidentId : Nat
  cardOrder : Kartenfolge := .leer

inductive Tabelle where
  | teilnahme
  | deviceToken
  | alarmDispatchVehicle
  | foerderPumpenTyp
  | fahrt
  | siteResourceAssignment
  | lageEinheit
  | vehiclePosition
  deriving DecidableEq

/-- A row of one of them. `gruppe` is its alarm type, site or situation; `org` is the
organisation that the row has or comes to by its joins, `siteOrg` that of its site. -/
structure Verweis where
  id : Nat
  gruppe : Nat := 0
  org : Option Nat
  siteOrg : Option Nat := none
  vehicleId : Option Nat
  label : Option String := none

inductive Einheitstabelle where
  | lageEinheitPerson
  | lageEinheitAusstattung
  | lageEinheitLeader
  | lageEinheitNummerVerifikation
  | lageEinheitZugang
  | einsatzDokumentEmpfaenger
  | einheitSiteDispatch
  | einheitAktion
  | siteLogEntry
  | siteMedia
  | commLogEntry
  | verband
  | aufgeteilt
  | verleihAusleihe

/-- `EinheitSiteDispatch.einheit_id`, which the session would empty, may not be empty. -/
def Einheitstabelle.loeschung : Einheitstabelle → Loeschung
  | .lageEinheitPerson | .lageEinheitAusstattung | .lageEinheitLeader | .lageEinheitNummerVerifikation
  | .lageEinheitZugang | .einsatzDokumentEmpfaenger => .mitgeloescht
  | .einheitSiteDispatch => .verweigert
  | .einheitAktion | .siteLogEntry | .siteMedia | .commLogEntry | .verband | .aufgeteilt | .verleihAusleihe => .geleert

structure EinheitAnhang where
  id : Nat
  einheitId : Option Nat

structure Incident where
  primaryOrgId : Option Nat
  orgs : List Nat := []

structure Datenbank where
  incidents : Nat → Incident
  vehicles : Keyed IncidentVehicle.id := .empty
  anhaenge : Art → Keyed Anhang.id := fun _ => .empty
  columns : List IncidentColumn := []
  verweise : Tabelle → Keyed Verweis.id := fun _ => .empty
  einheitAnhaenge : Einheitstabelle → Keyed EinheitAnhang.id := fun _ => .empty

inductive VehicleMergeError where
  | sameVehicle
  | differentOrg
  | fahrtenbuchConflict
  | referencesRemaining (remaining : List (String × Nat))

/-- The errors of a merge: its own, that of a constraint, and that of a card which is
no object. -/
inductive Fehler where
  | abgelehnt (grund : VehicleMergeError)
  | integrity
  | attribute

end Daten

section Verweise

def Tabelle.alle : List Tabelle :=
  [.teilnahme, .deviceToken, .alarmDispatchVehicle, .foerderPumpenTyp, .fahrt, .siteResourceAssignment, .lageEinheit,
    .vehiclePosition]

def Tabelle.name : Tabelle → String
  | .teilnahme => "teilnahme"
  | .deviceToken => "device_token"
  | .alarmDispatchVehicle => "alarm_dispatch_vehicle"
  | .foerderPumpenTyp => "foerder_pumpen_typ"
  | .fahrt => "fahrt"
  | .siteResourceAssignment => "site_resource_assignment"
  | .lageEinheit => "lage_einheit"
  | .vehiclePosition => "vehicle_position"

/-- The organisations that the filter of the tenant compares in a query of the table. -/
def Tabelle.mandanten (tabelle : Tabelle) (verweis : Verweis) : List (Option Nat) :=
  match tabelle with
  | .fahrt | .vehiclePosition => []
  | .siteResourceAssignment => [verweis.siteOrg, verweis.org]
  | _ => [verweis.org]

def sichtbar (kontext : Option Nat) (tabelle : Tabelle) (verweis : Verweis) : Bool :=
  match kontext with
  | none => true
  | some org => (tabelle.mandanten verweis).all (· = some org)

def Incident.sichtbar (kontext : Option Nat) (incident : Incident) : Bool :=
  match kontext with
  | none => true
  | some org => incident.primaryOrgId = some org || incident.orgs.contains org

/-- The query of `vehicle_reference_queries` for a table. -/
def verweisQuery (kontext : Option Nat) (vehicleId : Nat) (orgId : Option Nat) (tabelle : Tabelle) (verweis : Verweis) : Bool :=
  verweis.vehicleId = some vehicleId ∧ sichtbar kontext tabelle verweis ∧ (orgId = none ∨ verweis.org = orgId)

def incidentQuery (db : Datenbank) (kontext : Option Nat) (vehicleId : Nat) (orgId : Option Nat) (v : IncidentVehicle) : Bool :=
  v.vehicleMasterId = vehicleId ∧ (db.incidents v.incidentId).sichtbar kontext ∧
    (orgId = none ∨ (db.incidents v.incidentId).primaryOrgId = orgId)

def anzahlen (db : Datenbank) (kontext : Option Nat) (vehicleId : Nat) (orgId : Option Nat) : List (String × Nat) :=
  ("incident_vehicle", (db.vehicles.rows.filter (incidentQuery db kontext vehicleId orgId)).length) ::
    Tabelle.alle.map fun tabelle =>
      (tabelle.name, ((db.verweise tabelle).rows.filter (verweisQuery kontext vehicleId orgId tabelle)).length)

end Verweise

section Einsatzfahrzeuge

def vereint (duplicate survivor : IncidentVehicle) : IncidentVehicle :=
  let bereit : Bool := survivor.unitStatus = "Einsatzbereit" ∧ duplicate.unitStatus ≠ "Einsatzbereit"
  { survivor with
    commanderMemberId := survivor.commanderMemberId.or duplicate.commanderMemberId
    commanderName := survivor.commanderName.or duplicate.commanderName
    fahrerMemberId := survivor.fahrerMemberId.or duplicate.fahrerMemberId
    fahrerName := survivor.fahrerName.or duplicate.fahrerName
    fahrer2MemberId := survivor.fahrer2MemberId.or duplicate.fahrer2MemberId
    fahrer2Name := survivor.fahrer2Name.or duplicate.fahrer2Name
    kmGefahren := survivor.kmGefahren.or duplicate.kmGefahren
    orgColorOverride := survivor.orgColorOverride.or duplicate.orgColorOverride
    lisOperationUnitId := survivor.lisOperationUnitId.or duplicate.lisOperationUnitId
    unitStatus := if bereit then duplicate.unitStatus else survivor.unitStatus
    columnId := if bereit then duplicate.columnId else survivor.columnId
    displayOrder := min survivor.displayOrder duplicate.displayOrder
    createdAt := min survivor.createdAt duplicate.createdAt
    removedAt := match survivor.removedAt, duplicate.removedAt with
      | some a, some b => some (max a b)
      | _, _ => none }

theorem vereint_id (duplicate survivor : IncidentVehicle) : (vereint duplicate survivor).id = survivor.id := rfl

def mitMaster (vehicleMasterId : Nat) (v : IncidentVehicle) : IncidentVehicle := { v with vehicleMasterId }

theorem mitMaster_id (vehicleMasterId : Nat) (v : IncidentVehicle) : (mitMaster vehicleMasterId v).id = v.id := rfl

def Karte.istFahrzeug (id : Nat) (karte : Karte) : Bool := karte.kind = some "vehicle" ∧ karte.id = some (.inl id)

/-- The cards of a column after the merge of two vehicles; `gesehen` is `survivor_seen`. -/
def vereinteKarten (survivor duplicate : Nat) : Bool → List Karte → List Karte
  | _, [] => []
  | gesehen, karte :: rest =>
    let karte := if karte.istFahrzeug duplicate then { karte with id := some (.inl survivor) } else karte
    if karte.istFahrzeug survivor then
      if gesehen then vereinteKarten survivor duplicate gesehen rest
      else karte :: vereinteKarten survivor duplicate true rest
    else karte :: vereinteKarten survivor duplicate gesehen rest

def vereinteSpalte (survivor duplicate : IncidentVehicle) (column : IncidentColumn) : Except Fehler IncidentColumn :=
  if column.incidentId = survivor.incidentId then
    match column.cardOrder with
    | .leer | .unlesbar _ => .ok column
    | .fremd _ => .error .attribute
    | .liste karten => .ok { column with cardOrder := .liste (vereinteKarten survivor.id duplicate.id false karten) }
  else .ok column

def uebergeben (survivor duplicate : IncidentVehicle) (a : Anhang) : Anhang :=
  if a.vehicleId = some duplicate.id ∧ a.incidentId = duplicate.incidentId then { a with vehicleId := some survivor.id } else a

def geleert (duplicate : IncidentVehicle) (a : Anhang) : Anhang :=
  if a.vehicleId = some duplicate.id then { a with vehicleId := none } else a

/-- The session while the rows are handed over: the rows as its objects hold them, and
the ids of those whose new vehicle has not been flushed. -/
structure Lauf where
  vehicles : Keyed IncidentVehicle.id
  anhaenge : Art → Keyed Anhang.id
  columns : List IncidentColumn
  offen : List Nat := []

theorem uebergeben_id (survivor duplicate : IncidentVehicle) (a : Anhang) : (uebergeben survivor duplicate a).id = a.id := by
  unfold uebergeben
  split <;> rfl

theorem geleert_id (duplicate : IncidentVehicle) (a : Anhang) : (geleert duplicate a).id = a.id := by
  unfold geleert
  split <;> rfl

/-- `merge_incident_vehicle`; its flush writes all that is open. -/
def mergeIncidentVehicle (lauf : Lauf) (survivor duplicate : IncidentVehicle) : Except Fehler Lauf := do
  let columns ← lauf.columns.mapM (vereinteSpalte survivor duplicate)
  let anhaenge := fun art => (lauf.anhaenge art).map (uebergeben survivor duplicate) (uebergeben_id survivor duplicate)
  require (∀ art ∈ Art.alle, art.loeschung = .verweigert → ∀ a ∈ (anhaenge art).rows, a.vehicleId ≠ some duplicate.id) .integrity
  pure {
    vehicles := (lauf.vehicles.modify survivor.id (vereint duplicate) (vereint_id duplicate)).delete duplicate.id
    anhaenge := fun art => (anhaenge art).map (geleert duplicate) (geleert_id duplicate)
    columns }

def rang (v : IncidentVehicle) : Bool ×ₗ Nat := toLex (v.removedAt.isSome, v.id)

/-- The survivor of the winner in the incident of a reference: the query sees what has
been flushed. -/
def Lauf.survivor? (lauf : Lauf) (winnerId : Nat) (reference : IncidentVehicle) : Option IncidentVehicle :=
  (lauf.vehicles.rows.filter fun v => v.incidentId = reference.incidentId ∧ v.vehicleMasterId = winnerId ∧ v.id ∉ lauf.offen ∧
    v.id ≠ reference.id).argmin rang

def haengeUm (winnerId : Nat) (lauf : Lauf) (reference : IncidentVehicle) : Except Fehler Lauf :=
  match lauf.survivor? winnerId reference with
  | none => .ok { lauf with
      vehicles := lauf.vehicles.modify reference.id (mitMaster winnerId) (mitMaster_id winnerId)
      offen := reference.id :: lauf.offen }
  | some survivor => mergeIncidentVehicle lauf survivor reference

end Einsatzfahrzeuge

section Umhaengen

def Tabelle.dedupliziert : Tabelle → Bool
  | .alarmDispatchVehicle | .lageEinheit | .siteResourceAssignment => true
  | _ => false

def doppelt (rows : List Verweis) (winnerId : Nat) (dedupe : Bool) (tabelle : Tabelle) (reference : Verweis) : Option Verweis :=
  if dedupe ∧ tabelle.dedupliziert then rows.find? fun v => v.gruppe = reference.gruppe ∧ v.vehicleId = some winnerId else none

/-- A row of a table afterwards. Nothing is flushed in between, so that each query reads
the rows from before. -/
def umgehaengt (kontext : Option Nat) (orgId loserId : Nat) (winner : VehicleMaster) (dedupe : Bool) (tabelle : Tabelle)
    (rows : List Verweis) (verweis : Verweis) : Option Verweis :=
  let beschriftet : Bool := tabelle = .lageEinheit ∨ tabelle = .siteResourceAssignment
  if verweisQuery kontext loserId (some orgId) tabelle verweis then
    match doppelt rows winner.id dedupe tabelle verweis with
    | some _ => none
    | none => some { verweis with
        vehicleId := some winner.id
        label := if beschriftet ∨ tabelle = .vehiclePosition then some winner.displayLabel else verweis.label }
  else if beschriftet ∧ ∃ reference ∈ rows, verweisQuery kontext loserId (some orgId) tabelle reference ∧
      (doppelt rows winner.id dedupe tabelle reference).map (·.id) = some verweis.id then
    some { verweis with label := some winner.displayLabel }
  else some verweis

theorem umgehaengt_id (kontext : Option Nat) (orgId loserId : Nat) (winner : VehicleMaster) (dedupe : Bool) (tabelle : Tabelle)
    (rows : List Verweis) (verweis next : Verweis)
    (becomes : umgehaengt kontext orgId loserId winner dedupe tabelle rows verweis = some next) : next.id = verweis.id := by
  unfold umgehaengt at becomes
  dsimp only at becomes
  split at becomes
  · split at becomes
    · cases becomes
    · cases becomes
      rfl
  · split at becomes <;> cases becomes <;> rfl

def geloescht (kontext : Option Nat) (orgId loserId winnerId : Nat) (dedupe : Bool) (tabelle : Tabelle) (rows : List Verweis) :
    List Nat :=
  (rows.filter fun v => verweisQuery kontext loserId (some orgId) tabelle v ∧
    (doppelt rows winnerId dedupe tabelle v).isSome).map (·.id)

def einheitenGeloescht (ids : List Nat) (tabelle : Einheitstabelle) (a : EinheitAnhang) : Option EinheitAnhang :=
  if ∃ id ∈ ids, a.einheitId = some id then
    if tabelle.loeschung = .mitgeloescht then none else some { a with einheitId := none }
  else some a

theorem einheitenGeloescht_id (ids : List Nat) (tabelle : Einheitstabelle) (a next : EinheitAnhang)
    (becomes : einheitenGeloescht ids tabelle a = some next) : next.id = a.id := by
  unfold einheitenGeloescht at becomes
  split_ifs at becomes <;> cases becomes <;> rfl

/-- `repoint_vehicle_references` with its last flush, and the numbers it returns. -/
def repointVehicleReferences (db : Datenbank) (kontext : Option Nat) (orgId : Nat) (loser winner : VehicleMaster) (dedupe : Bool) :
    Except Fehler (Datenbank × List (String × Nat)) := do
  let lauf ← (db.vehicles.rows.filter (incidentQuery db kontext loser.id (some orgId))).foldlM (haengeUm winner.id)
    { vehicles := db.vehicles, anhaenge := db.anhaenge, columns := db.columns }
  let einheiten := geloescht kontext orgId loser.id winner.id dedupe .lageEinheit (db.verweise .lageEinheit).rows
  require (∀ a ∈ (db.einheitAnhaenge .einheitSiteDispatch).rows, ∀ id ∈ einheiten, a.einheitId ≠ some id) .integrity
  pure ({ db with
    vehicles := lauf.vehicles
    anhaenge := lauf.anhaenge
    columns := lauf.columns
    verweise := fun tabelle => (db.verweise tabelle).filterMap
      (umgehaengt kontext orgId loser.id winner dedupe tabelle (db.verweise tabelle).rows)
      (umgehaengt_id kontext orgId loser.id winner dedupe tabelle (db.verweise tabelle).rows)
    einheitAnhaenge := fun tabelle => (db.einheitAnhaenge tabelle).filterMap (einheitenGeloescht einheiten tabelle)
      (einheitenGeloescht_id einheiten tabelle) }, anzahlen db kontext loser.id (some orgId))

def gefuellt (winner loser : Option String) : Option String := if orNone winner = none then loser else winner

def stammdaten (winner loser : VehicleMaster) : VehicleMaster :=
  { winner with
    kmAktuell := some (max (winner.kmAktuell.getD 0) (loser.kmAktuell.getD 0))
    betriebsstundenAktuell := some (max (winner.betriebsstundenAktuell.getD 0) (loser.betriebsstundenAktuell.getD 0))
    seilwindeBhAktuell := some (max (winner.seilwindeBhAktuell.getD 0) (loser.seilwindeBhAktuell.getD 0))
    lisReferenceId := gefuellt winner.lisReferenceId loser.lisReferenceId
    kennzeichen := gefuellt winner.kennzeichen loser.kennzeichen
    taktischesZeichen := gefuellt winner.taktischesZeichen loser.taktischesZeichen
    bosOverride := gefuellt winner.bosOverride loser.bosOverride
    schadenMailOverride := gefuellt winner.schadenMailOverride loser.schadenMailOverride
    schadenTeamsWebhookOverride := gefuellt winner.schadenTeamsWebhookOverride loser.schadenTeamsWebhookOverride }

def mitToken (winner loser : VehicleMaster) : VehicleMaster × VehicleMaster :=
  if orNone winner.qrToken = none ∧ orNone loser.qrToken ≠ none then
    ({ winner with qrToken := loser.qrToken }, { loser with qrToken := none })
  else (winner, loser)

/-- What a merge leaves: the rows, the two vehicles, and what the audit log says. -/
structure Ergebnis where
  db : Datenbank
  winner : VehicleMaster
  loser : VehicleMaster
  referenceCounts : List (String × Nat)

/-- `merge_vehicles` -/
def mergeVehicles (db : Datenbank) (kontext : Option Nat) (winner loser : VehicleMaster) : Except Fehler Ergebnis := do
  require (winner.id ≠ loser.id) (.abgelehnt .sameVehicle)
  require (winner.deptId = loser.deptId) (.abgelehnt .differentOrg)
  require (¬ ((∃ v ∈ (db.verweise .fahrt).rows, v.vehicleId = some winner.id) ∧
    ∃ v ∈ (db.verweise .fahrt).rows, v.vehicleId = some loser.id)) (.abgelehnt .fahrtenbuchConflict)
  let (gewinner, verlierer) := mitToken (stammdaten winner loser) loser
  let (nachher, counts) ← repointVehicleReferences db kontext winner.deptId verlierer gewinner true
  let remaining := (anzahlen nachher kontext loser.id none).filter (·.2 ≠ 0)
  require (remaining = []) (.abgelehnt (.referencesRemaining remaining))
  pure { db := nachher, winner := gewinner, loser := { verlierer with deleted := true, active := false }, referenceCounts := counts }

end Umhaengen

end Einsatzcockpit.Fahrzeugstamm
