import Einsatzcockpit.Lib.Keyed
import Einsatzcockpit.Lib.Upsert
import Einsatzcockpit.Basis
import Mathlib.Data.List.Infix

/-! What a poll imports for an incident, `lis_sync.py`: units with their
positions, messages, tasks, responses and documents. -/

namespace Einsatzcockpit.Lis

open Relational Upsert

section Daten

structure Message where
  columnId : Option Nat
  title : String
  detail : Option String := none
  authorName : String
  lisTaskId : Option String := none
  /-- The file of the message's medium. -/
  datei : Option String := none

structure Task where
  columnId : Option Nat
  title : String
  detail : Option String
  dueAt : Option Zeit
  source : String
  lisTaskId : Option String

structure IncidentLog where
  text : String
  authorName : String := "LIS"
  level : String := "info"
  entityType : String := "lis_task"

/-- `LisSyncedObject` -/
structure LisSyncedObject where
  objType : String
  lisId : String
  deriving DecidableEq

structure VehicleMaster where
  id : Nat
  code : String
  name : String := ""
  lisReferenceId : Option String := none
  isExternal : Bool := false
  lisAutoCreated : Bool := false
  deleted : Bool := false
  adhocOrgName : Option String := none
  adhocOrgShort : Option String := none
  displayOrder : Nat := 0

structure IncidentVehicle where
  id : Nat
  columnId : Nat
  vehicleMasterId : Nat
  displayOrder : Nat := 0
  unitStatus : String
  lisOperationUnitId : Option String := none
  removed : Bool := false
  lisPushedStatus : Option String := none
  lisPushedAt : Option Zeit := none

structure VehiclePosition (ο : Type) where
  vehicleId : Nat
  lageId : Option Nat
  ort : ο
  source : String
  receivedAt : Zeit

structure LisTask where
  id : Option String
  type : Option String := none
  number : Option String := none
  description : Option String := none
  createdBy : Option String := none
  deadlineTime : Option String := none

structure Unit (κ : Type) where
  id : Option String
  referenceId : Option String
  unitType : Option String
  statusLabel : Option String := none
  name : Option String := none
  aliasName : Option String := none
  organizationId : Option String := none
  location : Option κ := none

/-- A document, whether it can be loaded, and whether it can be stored. -/
structure Document where
  id : Option String
  name : Option String := none
  documentType : Option String := none
  fileExtension : Option String := none
  geladen : Bool := true
  ablegbar : Bool := true

structure Payload (κ : Type) where
  tasks : List LisTask := []
  units : List (Unit κ) := []
  documents : List Document := []

structure PersonResponse where
  person : String
  role : Option String
  status : String
  arrivalTime : Option String

/-- What the importers take from outside: case conversion, the parsers, the
transformation and rounding of coordinates, and the configuration. -/
structure Quelle (κ ο ρ : Type) where
  lower : String → String
  upper : String → String
  parseDatetime : Option String → Option Zeit
  parsePersonResponse : Option String → Option String → Option PersonResponse
  coords : κ → Option ο
  rund : ο → ρ
  rootOrgMap : String → Option String
  syncExternalUnits : Bool

/-- The rows of an incident, and those of its organisation that the importers
read. -/
structure Stand (ο : Type) where
  messages : List Message := []
  tasks : List Task := []
  logs : List IncidentLog := []
  synced : List LisSyncedObject := []
  masters : Keyed VehicleMaster.id
  vehicles : Keyed IncidentVehicle.id
  positions : List (VehiclePosition ο) := []
  belongsToMajorIncident : Bool := false
  lageId : Option Nat := none
  messagesCol : Option Nat := none
  tasksCol : Option Nat := none
  activeCol : Option Nat := none

end Daten

section Meldungen

variable {κ ο ρ : Type} (quelle : Quelle κ ο ρ)

/-- `is_lis_auftrag` -/
def isLisAuftrag (taskType : Option String) : Bool :=
  ["TASK", "DEFAULTTASK", "SIMPLETASK"].contains (quelle.upper (strip (taskType.getD "")))

def LisTask.text (task : LisTask) : String := task.description.getD ""

/-- A row of `_sync_messages` and its task. -/
def messageSchema (messagesCol : Option Nat) : Schema String (String × LisTask) Message where
  key := (·.lisTaskId)
  keyOf := Prod.fst
  update := fun (_, task) row =>
    if task.text ≠ "" ∧ row.detail ≠ some task.text then { row with detail := some task.text } else row
  new := fun (id, task) => {
    columnId := messagesCol
    title := match orNone task.number with
      | some number => "LIS: " ++ number
      | none => "LIS: Meldung"
    detail := orNone (some task.text)
    authorName := (orNone task.createdBy).getD "LIS"
    lisTaskId := some id }

/-- A row of `_sync_tasks` and its task. -/
def taskSchema (tasksCol : Option Nat) : Schema String (String × LisTask) Task where
  key := (·.lisTaskId)
  keyOf := Prod.fst
  update := fun (_, task) row =>
    let row := if task.text ≠ "" ∧ row.detail ≠ some task.text then { row with detail := some task.text } else row
    let dueAt := quelle.parseDatetime task.deadlineTime
    if dueAt ≠ row.dueAt then { row with dueAt } else row
  new := fun (id, task) => {
    columnId := tasksCol
    title := match orNone task.number with
      | some number => "LIS: " ++ number
      | none => "LIS: Auftrag"
    detail := orNone (some task.text)
    dueAt := quelle.parseDatetime task.deadlineTime
    source := "lis"
    lisTaskId := some id }

def mitId (tasks : List LisTask) (p : LisTask → Bool) : List (String × LisTask) :=
  tasks.filterMap fun task => if p task then (orNone task.id).map (·, task) else none

/-- `_sync_messages` -/
def syncMessages (stand : Stand ο) (tasks : List LisTask) : Stand ο :=
  if stand.belongsToMajorIncident then stand
  else
    let entries := mitId tasks fun task => !(task.type == some "UNITSTATUSHISTORY") && !isLisAuftrag quelle task.type
    { stand with messages := upserts (messageSchema stand.messagesCol) entries stand.messages }

/-- `_sync_tasks` -/
def syncTasks (stand : Stand ο) (tasks : List LisTask) : Stand ο :=
  if stand.belongsToMajorIncident then stand
  else
    let entries := mitId tasks fun task => isLisAuftrag quelle task.type
    { stand with tasks := upserts (taskSchema quelle stand.tasksCol) entries stand.tasks }

def responseText (task : LisTask) (parsed : PersonResponse) : String :=
  let person := (orNone task.createdBy).getD parsed.person
  let role := match orNone parsed.role with
    | some role => [s!"({role})"]
    | none => []
  let arrival := match orNone parsed.arrivalTime with
    | some arrival => [s!"– Ankunft {arrival} Uhr"]
    | none => []
  "LIS: " ++ " ".intercalate ([person ++ ": " ++ parsed.status] ++ role ++ arrival)

/-- `_already_synced` -/
def alreadySynced (stand : Stand ο) (objType lisId : String) : Bool := stand.synced.contains { objType, lisId }

/-- One task of `_sync_person_responses`. -/
def syncPersonResponse (stand : Stand ο) (task : LisTask) : Stand ο :=
  match orNone task.id, quelle.parsePersonResponse task.description task.type with
  | some id, some parsed =>
    if alreadySynced stand "task_response" id then stand
    else { stand with
      logs := stand.logs ++ [{ text := responseText task parsed }]
      synced := stand.synced ++ [{ objType := "task_response", lisId := id }] }
  | _, _ => stand

/-- `_sync_person_responses` -/
def syncPersonResponses (stand : Stand ο) (tasks : List LisTask) : Stand ο :=
  tasks.foldl (syncPersonResponse quelle) stand

/-- The message of a document, `_store_lis_document`. -/
def documentMessage (messagesCol : Option Nat) (document : Document) (id : String) : Message :=
  let name := strip (document.name.getD "")
  let docType := strip (document.documentType.getD "")
  let ext := String.ofList ((document.fileExtension.getD "").toList.dropWhile (· = '.'))
  let bezeichnung := if name ≠ "" then some name else if docType ≠ "" then some docType else none
  let basis := bezeichnung.getD ("LIS-Dokument-" ++ clip 8 id)
  { columnId := messagesCol
    title := "Dokument: " ++ bezeichnung.getD "LIS-Dokument" ++ if ext ≠ "" ∧ name = "" then " (" ++ quelle.upper ext ++ ")" else ""
    authorName := "LIS"
    datei := some (if ext ≠ "" then basis ++ "." ++ ext else basis) }

/-- One document of `_sync_documents`: the message stays where its file cannot
be stored. -/
def syncDocument (stand : Stand ο) (document : Document) : Stand ο :=
  match orNone document.id with
  | none => stand
  | some id =>
    if alreadySynced stand "document" id = true ∨ document.geladen = false then stand
    else if document.ablegbar then
      { stand with
        messages := stand.messages ++ [documentMessage quelle stand.messagesCol document id]
        synced := stand.synced ++ [{ objType := "document", lisId := id }] }
    else
      { stand with
        messages := stand.messages ++ [{ documentMessage quelle stand.messagesCol document id with datei := none }] }

/-- `_sync_documents` -/
def syncDocuments (stand : Stand ο) (documents : List Document) : Stand ο := documents.foldl (syncDocument quelle) stand

end Meldungen

section Einheiten

variable {κ ο ρ : Type} (quelle : Quelle κ ο ρ)

/-- `map_unit_status` -/
def mapUnitStatus (label : Option String) : Option String :=
  (orNone label).bind fun label =>
    let text := (quelle.upper (strip label)).toList
    if "S4".toList <+: text ∨ "ZUM EINSATZORT".toList <:+: text then some "Einsatz übernommen"
    else if "S5".toList <+: text ∨ "AM EINSATZORT".toList <:+: text then some "Am Einsatzort"
    else none

/-- `unit_status_to_lis_prefix` -/
def unitStatusToLisPrefix (status : String) : Option String :=
  [("Einsatzbereit", "S1"), ("Einsatz übernommen", "S4"), ("Am Einsatzort", "S5")].lookup status

/-- `_lokal_status_geschuetzt` -/
def lokalStatusGeschuetzt (jetzt : Zeit) (vehicle : IncidentVehicle) : Bool :=
  match orNone vehicle.lisPushedStatus, vehicle.lisPushedAt with
  | some pushed, some at' =>
    vehicle.unitStatus ≠ "" ∧ some pushed = unitStatusToLisPrefix vehicle.unitStatus ∧ jetzt - at' < sekunden 30
  | _, _ => false

def externalCode (unit : Unit κ) (ref : String) : String := clip 30 ((orNone unit.aliasName).getD ref)

def externalOrgName (unit : Unit κ) : String :=
  (orNone ((orNone unit.organizationId).bind quelle.rootOrgMap)).getD "Fremde Organisation (LIS)"

/-- `adhoc_org_short` -/
def externalOrgShort (unit : Unit κ) : Option String :=
  (orNone ((orNone unit.organizationId).bind quelle.rootOrgMap)).bind fun name =>
    orNone (some (clip 3 (quelle.upper (String.ofList (((words name).take 3).filterMap (·.toList.head?))))))

def gleichesFremdes (unit : Unit κ) (ref : String) (master : VehicleMaster) : Bool :=
  master.isExternal ∧ master.lisAutoCreated ∧ master.deleted = false ∧
    quelle.lower master.code = quelle.lower (externalCode unit ref) ∧
    master.adhocOrgName.map quelle.lower = some (quelle.lower (externalOrgName quelle unit))

def externalVehicle (unit : Unit κ) (ref name : String) (displayOrder id : Nat) : VehicleMaster :=
  { id
    code := externalCode unit ref
    name := clip 150 name
    isExternal := true
    lisAutoCreated := true
    lisReferenceId := some (clip 60 ref)
    adhocOrgName := some (clip 150 (externalOrgName quelle unit))
    adhocOrgShort := externalOrgShort quelle unit
    displayOrder }

def mitReferenz (ref : String) (master : VehicleMaster) : VehicleMaster := { master with lisReferenceId := some (clip 60 ref) }

theorem mitReferenz_id (ref : String) (master : VehicleMaster) : (mitReferenz ref master).id = master.id := rfl

theorem externalVehicle_id (unit : Unit κ) (ref name : String) (displayOrder id : Nat) :
    (externalVehicle quelle unit ref name displayOrder id).id = id := rfl

/-- `_get_or_create_external_vehicle` -/
def getOrCreateExternalVehicle (masters : Keyed VehicleMaster.id) (unit : Unit κ) (ref : String) :
    Option (Keyed VehicleMaster.id × Nat) :=
  match orNone unit.name with
  | none => none
  | some name =>
    match masters.rows.find? fun m => m.lisReferenceId == some ref && m.isExternal && !m.deleted with
    | some master => some (masters, master.id)
    | none =>
      match masters.rows.find? (gleichesFremdes quelle unit ref) with
      | some master => some (masters.modify master.id (mitReferenz ref) (mitReferenz_id ref), master.id)
      | none =>
        some (masters.insert (externalVehicle quelle unit ref name masters.rows.length)
          (externalVehicle_id quelle unit ref name masters.rows.length), masters.last + 1)

def Unit.referenz (unit : Unit κ) : Option String :=
  if unit.unitType = some "Vehicle" ∨ unit.unitType = some "Device" then orNone unit.referenceId else none

def findeMaster (masters : Keyed VehicleMaster.id) (unit : Unit κ) : Option (Keyed VehicleMaster.id × Nat) :=
  unit.referenz.bind fun ref =>
    match masters.rows.find? fun m => m.lisReferenceId == some ref with
    | some master => some (masters, master.id)
    | none =>
      if quelle.syncExternalUnits = true ∧ unit.unitType = some "Vehicle" then getOrCreateExternalVehicle quelle masters unit ref
      else none

def mitEinheit (unit : Unit κ) (vehicle : IncidentVehicle) : IncidentVehicle :=
  match orNone unit.id with
  | some id => if vehicle.lisOperationUnitId ≠ some id then { vehicle with lisOperationUnitId := some id } else vehicle
  | none => vehicle

/-- The vehicle with the status of its unit; one that has been set here lately is
kept. -/
def mitStatus (jetzt : Zeit) (unit : Unit κ) (vehicle : IncidentVehicle) : IncidentVehicle :=
  match mapUnitStatus quelle unit.statusLabel with
  | some status =>
    if vehicle.unitStatus ≠ status ∧ lokalStatusGeschuetzt jetzt vehicle = false then
      { vehicle with unitStatus := status, lisPushedStatus := none, lisPushedAt := none }
    else vehicle
  | none => vehicle

def aktualisiert (jetzt : Zeit) (unit : Unit κ) (vehicle : IncidentVehicle) : IncidentVehicle :=
  mitStatus quelle jetzt unit (mitEinheit unit vehicle)

theorem aktualisiert_id (jetzt : Zeit) (unit : Unit κ) (vehicle : IncidentVehicle) :
    (aktualisiert quelle jetzt unit vehicle).id = vehicle.id := by
  have first : (mitEinheit unit vehicle).id = vehicle.id := by
    unfold mitEinheit
    split
    · split <;> rfl
    · rfl
  have second : ∀ v, (mitStatus quelle jetzt unit v).id = v.id := by
    intro v
    unfold mitStatus
    split
    · split <;> rfl
    · rfl
  exact (second _).trans first

def aufBoard (vehicles : Keyed IncidentVehicle.id) (masterId : Nat) : Option IncidentVehicle :=
  vehicles.rows.find? fun v => v.vehicleMasterId == masterId && !v.removed

def neuesFahrzeug (unit : Unit κ) (masterId columnId displayOrder : Nat) (status : String) (id : Nat) : IncidentVehicle :=
  { id, columnId, vehicleMasterId := masterId, displayOrder, unitStatus := status, lisOperationUnitId := unit.id }

/-- `_next_display_order` -/
def nextDisplayOrder (vehicles : Keyed IncidentVehicle.id) (columnId : Nat) : Nat :=
  ((vehicles.rows.filter fun v => v.columnId == columnId && !v.removed).map (·.displayOrder + 1)).foldl max 0

/-- The vehicle of a unit is written; `none` where it stays away. -/
def schreibeFahrzeug (jetzt : Zeit) (activeCol : Option Nat) (vehicles : Keyed IncidentVehicle.id) (masterId : Nat)
    (unit : Unit κ) : Option (Keyed IncidentVehicle.id) :=
  match aufBoard vehicles masterId with
  | some vehicle => some (vehicles.modify vehicle.id (aktualisiert quelle jetzt unit) (aktualisiert_id quelle jetzt unit))
  | none =>
    match mapUnitStatus quelle unit.statusLabel, activeCol with
    | some status, some col =>
      some (vehicles.insert (neuesFahrzeug unit masterId col (nextDisplayOrder vehicles col) status) fun _ => rfl)
    | _, _ => none

variable [DecidableEq ρ]

def spaetere (best : Option (VehiclePosition ο)) (p : VehiclePosition ο) : Option (VehiclePosition ο) :=
  match best with
  | some b => if b.receivedAt ≤ p.receivedAt then some p else some b
  | none => some p

def letztePosition (positions : List (VehiclePosition ο)) (masterId : Nat) (lageId : Option Nat) : Option (VehiclePosition ο) :=
  (positions.filter fun p => p.vehicleId == masterId && p.lageId == lageId).foldl spaetere none

/-- `_sync_vehicle_location` -/
def syncVehicleLocation (jetzt : Zeit) (lageId : Option Nat) (positions : List (VehiclePosition ο)) (masterId : Nat)
    (unit : Unit κ) : List (VehiclePosition ο) :=
  match unit.location.bind quelle.coords with
  | none => positions
  | some ort =>
    let neu := positions ++ [{ vehicleId := masterId, lageId, ort, source := "lis", receivedAt := jetzt }]
    match letztePosition positions masterId lageId with
    | none => neu
    | some letzte =>
      if lageId ≠ none ∧ letzte.source = "manual" then positions
      else if letzte.source = "lis" ∧ quelle.rund letzte.ort = quelle.rund ort then positions
      else neu

/-- One unit of `_sync_vehicle_status`. -/
def syncUnit (jetzt : Zeit) (stand : Stand ο) (unit : Unit κ) : Stand ο :=
  match findeMaster quelle stand.masters unit with
  | none => stand
  | some (masters, masterId) =>
    match schreibeFahrzeug quelle jetzt stand.activeCol stand.vehicles masterId unit with
    | none => { stand with masters }
    | some vehicles =>
      { stand with
        masters
        vehicles
        positions := syncVehicleLocation quelle jetzt stand.lageId stand.positions masterId unit }

/-- `_sync_vehicle_status` -/
def syncVehicleStatus (jetzt : Zeit) (stand : Stand ο) (units : List (Unit κ)) : Stand ο :=
  units.foldl (syncUnit quelle jetzt) stand

/-- The imports of `sync_operation`, in its order. -/
def importiere (jetzt : Zeit) (stand : Stand ο) (payload : Payload κ) : Stand ο :=
  let gemeldet := syncPersonResponses quelle (syncTasks quelle (syncMessages quelle stand payload.tasks) payload.tasks) payload.tasks
  syncDocuments quelle (syncVehicleStatus quelle jetzt gemeldet payload.units) payload.documents

end Einheiten

end Einsatzcockpit.Lis
