import Einsatzcockpit.Lib.Keyed
import Einsatzcockpit.Lib.Raise
import Einsatzcockpit.Lib.Run
import Einsatzcockpit.Basis
import Mathlib.Data.List.Sort

/-! The board of the incidents: its columns and cards, `incident_service.py` and
the endpoints of `ui_incident.py`. -/

namespace Einsatzcockpit.Kanban

open Raising Relational

structure Incident where
  id : Nat
  startedAt : Zeit

/-- A row of `incident_column`; `cardOrder` is the stored text. -/
structure IncidentColumn where
  id : Nat
  incidentId : Nat
  code : String
  title : String
  columnKind : String := "vehicles"
  isFixed : Bool := false
  displayOrder : Int := 0
  cardOrder : Option String := none

structure IncidentVehicle where
  id : Nat
  incidentId : Nat
  columnId : Option Nat
  vehicleMasterId : Nat
  displayOrder : Int := 0
  removedAt : Option Zeit := none
  unitStatus : String := "Einsatz übernommen"

/-- The two kinds of cards that hang on a column or on a vehicle. -/
inductive Art where
  | task | message
  deriving DecidableEq

def Art.kind : Art → String
  | .task => "task"
  | .message => "message"

/-- A row of `task` or of `message`. -/
structure Karte where
  id : Nat
  incidentId : Nat
  columnId : Option Nat := none
  vehicleId : Option Nat := none
  title : String
  detail : Option String := none
  status : String
  dueAfterSec : Option Int := none
  dueAt : Option Zeit := none
  displayOrder : Int := 0

structure RescuedPerson where
  id : Nat
  incidentId : Nat
  columnId : Nat
  vehicleId : Option Nat := none
  name : Option String := none
  createdAt : Zeit

structure Board where
  incidents : Keyed Incident.id
  columns : Keyed IncidentColumn.id
  vehicles : Keyed IncidentVehicle.id
  tasks : Keyed Karte.id
  messages : Keyed Karte.id
  persons : Keyed RescuedPerson.id

/-- `if value:` on a number that may be missing. -/
def wahr (value : Option Nat) : Option Nat := value.filter (· ≠ 0)

section Zugriff

variable (board : Board)

def Board.karten : Art → Keyed Karte.id
  | .task => board.tasks
  | .message => board.messages

def Board.setzeKarten (art : Art) (karten : Keyed Karte.id) : Board :=
  match art with
  | .task => { board with tasks := karten }
  | .message => { board with messages := karten }

/-- `incident.columns` -/
def Board.columnsOf (incidentId : Nat) : List IncidentColumn :=
  (board.columns.rows.filter (·.incidentId == incidentId)).insertionSort fun a b => a.displayOrder ≤ b.displayOrder

/-- `_get_column` -/
def getColumn (incidentId : Nat) (code : String) : Option IncidentColumn :=
  (board.columnsOf incidentId).find? (·.code == code)

/-- `resolve_person_vehicle` -/
def resolvePersonVehicle (incidentId : Nat) (vehicleId : Option Nat) : Option IncidentVehicle :=
  (vehicleId.bind board.vehicles.get?).filter fun v => v.incidentId == incidentId && v.removedAt.isNone

end Zugriff

section CardOrder

/-- What the loops over a stored order meet: no JSON, something else than a list
of cards, or the cards. -/
inductive Geladen where
  | fehler
  | anderes
  | karten (karten : List (String × Nat))
  deriving DecidableEq

/-- The module `json`. -/
structure Json where
  loads : String → Geladen
  dumps : List (String × Nat) → String

variable (json : Json) (board : Board)

/-- `_card_order_or_default` -/
def cardOrderOrDefault (col : IncidentColumn) : Except String (List (String × Nat)) :=
  match col.cardOrder.filter (· ≠ "") with
  | some text =>
    match json.loads text with
    | .fehler => .ok []
    | .anderes => .error "AttributeError"
    | .karten karten => .ok karten
  | none =>
    let vehicles := (board.vehicles.rows.filter fun v => v.columnId == some col.id && v.removedAt.isNone).insertionSort
      fun a b => a.displayOrder ≤ b.displayOrder
    let tasks := (board.tasks.rows.filter fun t => t.columnId == some col.id && t.vehicleId.isNone).insertionSort
      fun a b => a.displayOrder ≤ b.displayOrder
    let msgs := (board.messages.rows.filter fun m => m.columnId == some col.id).insertionSort
      fun a b => a.displayOrder ≤ b.displayOrder
    let persons := if col.columnKind = "rescued" then
      (board.persons.rows.filter fun p => p.columnId == col.id && p.vehicleId.isNone).insertionSort
        fun a b => a.createdAt ≤ b.createdAt
      else []
    .ok (vehicles.map (fun v => ("vehicle", v.id)) ++ tasks.map (fun t => ("task", t.id)) ++
      msgs.map (fun m => ("message", m.id)) ++ persons.map fun p => ("person", p.id))

def setCardOrder (columnId : Nat) (text : String) : Board :=
  { board with columns := board.columns.modify columnId (fun col => { col with cardOrder := some text }) fun _ => rfl }

/-- `prepend_card` and `append_card`, with the place of the new entry. -/
def einreihen (platz : List (String × Nat) → String × Nat → List (String × Nat)) (columnId : Option Nat) (kind : String)
    (uid : Nat) : Except String Board :=
  match (wahr columnId).bind board.columns.get? with
  | none => .ok board
  | some col => do
    let current ← cardOrderOrDefault json board col
    return setCardOrder board col.id (json.dumps (platz (current.filter (· ≠ (kind, uid))) (kind, uid)))

def prependCard : Option Nat → String → Nat → Except String Board := einreihen json board fun current item => item :: current

def appendCard : Option Nat → String → Nat → Except String Board := einreihen json board fun current item => current ++ [item]

/-- `update_column_card_order`, as the endpoint calls it. -/
def updateColumnCardOrder (zoneOrder : Option String) (columnId : Option Nat) : Board :=
  match zoneOrder.filter (· ≠ ""), wahr columnId with
  | some text, some id => if json.loads text = .fehler then board else setCardOrder board id text
  | _, _ => board

end CardOrder

section Anlegen

variable (json : Json) (board : Board)

/-- `create_task` with `add_task` -/
def createTask (incidentId : Nat) (title : String) (detail : Option String) (columnId vehicleId : Option Nat) :
    Except String Board := do
  let incident ← demand (board.incidents.get? incidentId) "Einsatz nicht gefunden"
  let columnId := columnId.or ((getColumn board incident.id "tasks").map (·.id))
  require (∀ c ∈ columnId, (board.columns.get? c).isSome = true) "NoResultFound"
  require (∀ v ∈ wahr vehicleId, (board.vehicles.get? v).isSome = true) "IntegrityError"
  let tasks := board.tasks.insert
    (fun id => { id, incidentId := incident.id, columnId, vehicleId := wahr vehicleId, title, detail, status := "open" })
    fun _ => rfl
  prependCard json { board with tasks } columnId "task" tasks.last

/-- `TRAFFIC_LIGHT_VALUES` with `_TRAFFIC_LIGHT_LEGACY` -/
def normalizedStatus (status : String) : String :=
  let legacy := match status with
    | "open" => "meldung"
    | "in_progress" => "achtung"
    | "done" => "erledigt"
    | "cancelled" => "storniert"
    | _ => status
  if legacy ∈ ["meldung", "achtung", "hinweis", "information", "erledigt", "storniert"] then legacy else "meldung"

/-- `create_message` with `add_message` -/
def createMessage (incidentId : Nat) (title : String) (detail : Option String) (status : String) (dueAfterMin : Int)
    (vehicleId : Option Nat) : Except String Board := do
  let incident ← demand (board.incidents.get? incidentId) "Einsatz nicht gefunden"
  let dueSec := if 0 < dueAfterMin then some (dueAfterMin * 60) else none
  let columnId := (getColumn board incident.id "messages").map (·.id)
  require (∀ v ∈ wahr vehicleId, (board.vehicles.get? v).isSome = true) "IntegrityError"
  let messages := board.messages.insert
    (fun id => {
      id
      incidentId := incident.id
      columnId
      vehicleId := wahr vehicleId
      title
      detail := detail.filter (· ≠ "")
      status := normalizedStatus status
      dueAfterSec := dueSec
      dueAt := dueSec.map fun s => incident.startedAt + sekunden s })
    fun _ => rfl
  prependCard json { board with messages } columnId "message" messages.last

/-- `create_person` -/
def createPerson (incidentId : Nat) (name : Option String) (columnId vehicleId : Option Nat) (jetzt : Zeit) :
    Except String Board := do
  let incident ← demand (board.incidents.get? incidentId) "Einsatz nicht gefunden"
  let gewaehlt := ((wahr columnId).bind board.columns.get?).filter fun c =>
    c.incidentId == incidentId && c.columnKind == "rescued"
  let rescued ← demand (gewaehlt.or ((board.columnsOf incident.id).find? (·.columnKind == "rescued")))
    "Keine Personen-Spalte vorhanden"
  require (vehicleId = none ∨ (resolvePersonVehicle board incidentId vehicleId).isSome = true) "Ungültige Einheit"
  let persons := board.persons.insert
    (fun id => { id, incidentId, columnId := rescued.id, vehicleId, name := name.filter (· ≠ ""), createdAt := jetzt })
    fun _ => rfl
  prependCard json { board with persons } (some rescued.id) "person" persons.last

/-- `attach_vehicle_to_incident`, from the master row on. -/
def attachVehicle (incidentId vehicleMasterId : Nat) (columnId : Option Nat) : Except String Board := do
  let incident ← demand (board.incidents.get? incidentId) "Einsatz nicht gefunden"
  let columns := board.columnsOf incident.id
  if board.vehicles.rows.any (fun v =>
      v.incidentId == incident.id && v.vehicleMasterId == vehicleMasterId && v.removedAt.isNone) then
    return board
  let gewaehlt := (wahr columnId).bind fun c =>
    columns.find? fun col => col.id == c && (col.columnKind == "vehicles" || col.columnKind == "neighbor")
  let target ← demand ((gewaehlt.or (columns.find? (·.code == "active"))).or columns.head?) "Keine Spalte vorhanden"
  let vehicles := board.vehicles.insert
    (fun id => { id, incidentId := incident.id, columnId := some target.id, vehicleMasterId, displayOrder := 999 }) fun _ => rfl
  let board := { board with vehicles }
  if target.code = "active" then appendCard json board (some target.id) "vehicle" vehicles.last
  else prependCard json board (some target.id) "vehicle" vehicles.last

/-- `add_section_column`, at a second of the clock. -/
def createSection (incidentId : Nat) (title columnKind : String) (now : Nat) : Except String Board := do
  let incident ← demand (board.incidents.get? incidentId) "Einsatz nicht gefunden"
  let kind := if columnKind ∈ ["vehicles", "tasks", "messages", "rescued"] then columnKind else "vehicles"
  let maxOrder := (((board.columnsOf incident.id).map (·.displayOrder)).max?).getD 0
  let columns := board.columns.insert
    (fun id => {
      id
      incidentId := incident.id
      code := s!"section_{now}"
      title
      columnKind := kind
      isFixed := false
      displayOrder := maxOrder + 1 })
    fun _ => rfl
  return { board with columns }

end Anlegen

section Zuweisen

variable (board : Board)

def Board.setzeKarte (art : Art) (id : Nat) (werte : Karte → Karte) (keeps : ∀ k, (werte k).id = k.id) : Board :=
  board.setzeKarten art ((board.karten art).modify id werte keeps)

/-- `assign_task` -/
def assignTask (taskId : Nat) (vehicleId : Option Nat) : Board :=
  match board.tasks.get? taskId, wahr vehicleId with
  | none, _ => board
  | some task, some id =>
    match board.vehicles.get? id with
    | some vehicle => board.setzeKarte .task task.id (fun t => { t with vehicleId := some vehicle.id }) fun _ => rfl
    | none => board
  | some task, none => board.setzeKarte .task task.id (fun t => { t with vehicleId := none }) fun _ => rfl

/-- `assign_message` -/
def assignMessage (incidentId messageId : Nat) (vehicleId : Option Nat) : Board :=
  match (board.messages.get? messageId).filter (·.incidentId == incidentId), wahr vehicleId with
  | none, _ => board
  | some msg, some id =>
    match (board.vehicles.get? id).filter (·.incidentId == incidentId) with
    | some vehicle => board.setzeKarte .message msg.id (fun m => { m with vehicleId := some vehicle.id }) fun _ => rfl
    | none => board
  | some msg, none => board.setzeKarte .message msg.id (fun m => { m with vehicleId := none }) fun _ => rfl

/-- `update_person_endpoint`, the name and the vehicle. -/
def updatePerson (incidentId personId : Nat) (name : Option String) (vehicleId : Option Nat) : Board :=
  match (board.persons.get? personId).filter (·.incidentId == incidentId) with
  | none => board
  | some person =>
    let vehicleId := match vehicleId with
      | some id =>
        match resolvePersonVehicle board incidentId (some id) with
        | some vehicle => some vehicle.id
        | none => person.vehicleId
      | none => none
    { board with persons := board.persons.modify person.id (fun p => { p with name, vehicleId }) fun _ => rfl }

/-- `move_vehicle` with `move_vehicle_to_column` -/
def moveVehicle (vehicleId columnId : Nat) : Board :=
  match board.vehicles.get? vehicleId, board.columns.get? columnId with
  | some vehicle, some column =>
    { board with vehicles := board.vehicles.modify vehicle.id (fun v => { v with columnId := some column.id }) fun _ => rfl }
  | _, _ => board

/-- `delete_section_column`; what is not counted loses its column with the row
of the column. -/
def deleteSectionColumn (column : IncidentColumn) : Except String Board := do
  require (column.isFixed = false) "Fixierte Spalten können nicht gelöscht werden."
  let activeVehicles := board.vehicles.rows.countP fun v => v.columnId == some column.id && v.removedAt.isNone
  let tasks := board.tasks.rows.countP fun t => t.columnId == some column.id && t.vehicleId.isNone
  let msgs := board.messages.rows.countP fun m => m.columnId == some column.id
  let persons := board.persons.rows.countP fun p => p.columnId == column.id
  let part := fun (n : Nat) (wort endung : String) => if n = 0 then [] else [s!"{n} {wort}" ++ if n = 1 then "" else endung]
  let parts := part activeVehicles "Einheit" "en" ++ part tasks "Auftrag" "äge" ++ part msgs "Meldung" "en" ++
    part persons "Person" "en"
  require (parts = []) ("Spalte kann nicht gelöscht werden – es sind noch " ++ String.intercalate ", " parts ++ " zugeordnet. " ++
    "Bitte zuerst alle Elemente verschieben oder entfernen.")
  let ohne := fun (columnId : Option Nat) => columnId.filter (· ≠ column.id)
  return { board with
    columns := board.columns.delete column.id
    vehicles := board.vehicles.map (fun v => { v with columnId := ohne v.columnId }) fun _ => rfl
    tasks := board.tasks.map (fun t => { t with columnId := ohne t.columnId }) fun _ => rfl
    messages := board.messages.map (fun m => { m with columnId := ohne m.columnId }) fun _ => rfl }

/-- `delete_column_endpoint` -/
def deleteColumn (incidentId columnId : Nat) : Except String Board :=
  match (board.columns.get? columnId).filter (·.incidentId == incidentId) with
  | some column => deleteSectionColumn board column
  | none => .ok board

end Zuweisen

section Verschieben

variable (board : Board)

def reihe (siblings : List Nat) (position : Int) (id : Nat) (displayOrder : Int) : Int :=
  match siblings.idxOf? id with
  | some i => if (i : Int) < position then i else i + 1
  | none => displayOrder

/-- `move_card` of a vehicle -/
def moveVehicleCard (incidentId uid : Nat) (columnId : Option Nat) (position : Int) : Board × Bool :=
  match (board.vehicles.get? uid).filter (·.incidentId == incidentId) with
  | none => (board, false)
  | some _ =>
    match (columnId.bind board.columns.get?).filter (·.incidentId == incidentId) with
    | none => (board, false)
    | some col =>
      let siblings := ((board.vehicles.rows.filter fun v =>
        v.incidentId == incidentId && v.columnId == columnId && v.id != uid && v.removedAt.isNone).insertionSort
          fun a b => a.displayOrder ≤ b.displayOrder).map (·.id)
      let gereiht := board.vehicles.map (fun v => { v with displayOrder := reihe siblings position v.id v.displayOrder })
        fun _ => rfl
      ({ board with vehicles := gereiht.modify uid (fun v => { v with
          columnId
          displayOrder := position
          unitStatus := if col.code = "active" then "Am Einsatzort" else v.unitStatus }) fun _ => rfl }, true)

/-- `move_card` of a task or a message -/
def moveKarte (art : Art) (incidentId uid : Nat) (columnId : Option Nat) (position : Int) (vehicleId : Option Nat)
    (detachVehicle : Bool) : Except String (Board × Bool) :=
  match ((board.karten art).get? uid).filter (·.incidentId == incidentId) with
  | none => .ok (board, false)
  | some _ =>
    match wahr vehicleId, wahr columnId with
    | some vehicle, _ =>
      match board.vehicles.get? vehicle with
      | none => .ok (board, false)
      | some _ => .ok (board.setzeKarte art uid (fun k => { k with vehicleId := some vehicle, columnId := none }) fun _ => rfl, true)
    | none, none => .ok (board, false)
    | none, some column => do
      require ((board.columns.get? column).isSome = true) "IntegrityError"
      let siblings := (((board.karten art).rows.filter fun k =>
        k.incidentId == incidentId && k.columnId == some column && k.id != uid).insertionSort
          fun a b => a.displayOrder ≤ b.displayOrder).map (·.id)
      let gereiht := (board.karten art).map (fun k => { k with displayOrder := reihe siblings position k.id k.displayOrder })
        fun _ => rfl
      return (board.setzeKarten art (gereiht.modify uid (fun k => { k with
          vehicleId := if detachVehicle then none else k.vehicleId
          columnId := some column
          displayOrder := position }) fun _ => rfl), true)

/-- `move_card` of a person -/
def movePerson (incidentId uid : Nat) (columnId vehicleId : Option Nat) (detachVehicle : Bool) : Board × Bool :=
  match (board.persons.get? uid).filter (·.incidentId == incidentId) with
  | none => (board, false)
  | some _ =>
    match wahr vehicleId with
    | some id =>
      match resolvePersonVehicle board incidentId (some id) with
      | none => (board, false)
      | some v =>
        ({ board with persons := board.persons.modify uid (fun p => { p with vehicleId := some v.id }) fun _ => rfl }, true)
    | none =>
      match ((wahr columnId).bind board.columns.get?).filter fun c =>
          c.incidentId == incidentId && c.columnKind == "rescued" with
      | none => (board, false)
      | some col =>
        ({ board with persons := board.persons.modify uid (fun p => { p with
            vehicleId := if detachVehicle then none else p.vehicleId
            columnId := col.id }) fun _ => rfl }, true)

/-- `move_card` -/
def moveCard (incidentId : Nat) (kind : String) (uid : Nat) (columnId : Option Nat) (position : Int) (vehicleId : Option Nat)
    (detachVehicle : Bool) : Except String (Board × Bool) :=
  if kind = "vehicle" then .ok (moveVehicleCard board incidentId uid columnId position)
  else if kind = "task" then moveKarte board .task incidentId uid columnId position vehicleId detachVehicle
  else if kind = "message" then moveKarte board .message incidentId uid columnId position vehicleId detachVehicle
  else if kind = "person" then .ok (movePerson board incidentId uid columnId vehicleId detachVehicle)
  else .ok (board, false)

end Verschieben

structure Verschiebung where
  incidentId : Nat
  kind : String
  uid : Nat
  columnId : Option Nat := none
  position : Int := 0
  vehicleId : Option Nat := none
  zoneOrder : Option String := none
  detachVehicle : Bool := false

/-- The answer of `move_card` to a drop. -/
def Verschiebung.moveCard (board : Board) (v : Verschiebung) : Except String (Board × Bool) :=
  Kanban.moveCard board v.incidentId v.kind v.uid v.columnId v.position v.vehicleId v.detachVehicle

/-- `move_card_endpoint`; a rejected person is not committed, and the stored
order of the cards follows whatever `move_card` has said. -/
def moveCardEndpoint (json : Json) (board : Board) (v : Verschiebung) : Except String Board := do
  let (moved, angenommen) ← v.moveCard board
  if v.kind = "person" ∧ angenommen = false then return board
  return updateColumnCardOrder json moved v.zoneOrder v.columnId

inductive Aktion where
  | createTask (incidentId : Nat) (title : String) (detail : Option String) (columnId vehicleId : Option Nat)
  | createMessage (incidentId : Nat) (title : String) (detail : Option String) (status : String) (dueAfterMin : Int)
      (vehicleId : Option Nat)
  | createPerson (incidentId : Nat) (name : Option String) (columnId vehicleId : Option Nat) (jetzt : Zeit)
  | attachVehicle (incidentId vehicleMasterId : Nat) (columnId : Option Nat)
  | createSection (incidentId : Nat) (title columnKind : String) (now : Nat)
  | assignTask (taskId : Nat) (vehicleId : Option Nat)
  | assignMessage (incidentId messageId : Nat) (vehicleId : Option Nat)
  | updatePerson (incidentId personId : Nat) (name : Option String) (vehicleId : Option Nat)
  | moveVehicle (vehicleId columnId : Nat)
  | moveCard (verschiebung : Verschiebung)
  | deleteColumn (incidentId columnId : Nat)

def antwort (json : Json) (board : Board) : Aktion → Except String Board
  | .createTask incidentId title detail columnId vehicleId => createTask json board incidentId title detail columnId vehicleId
  | .createMessage incidentId title detail status dueAfterMin vehicleId =>
    createMessage json board incidentId title detail status dueAfterMin vehicleId
  | .createPerson incidentId name columnId vehicleId jetzt => createPerson json board incidentId name columnId vehicleId jetzt
  | .attachVehicle incidentId vehicleMasterId columnId => attachVehicle json board incidentId vehicleMasterId columnId
  | .createSection incidentId title columnKind now => createSection board incidentId title columnKind now
  | .assignTask taskId vehicleId => .ok (assignTask board taskId vehicleId)
  | .assignMessage incidentId messageId vehicleId => .ok (assignMessage board incidentId messageId vehicleId)
  | .updatePerson incidentId personId name vehicleId => .ok (updatePerson board incidentId personId name vehicleId)
  | .moveVehicle vehicleId columnId => .ok (moveVehicle board vehicleId columnId)
  | .moveCard verschiebung => moveCardEndpoint json board verschiebung
  | .deleteColumn incidentId columnId => deleteColumn board incidentId columnId

def step (json : Json) (board : Board) (aktion : Aktion) : Board :=
  match antwort json board aktion with
  | .ok board => board
  | .error _ => board

end Einsatzcockpit.Kanban
