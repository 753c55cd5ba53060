import Mathlib
import Einsatzcockpit.Kanban.Records

namespace Einsatzcockpit.Kanban

open Raising Relational Transition

section Ordnung

variable (board : Board)

def Board.SpalteVon (incidentId columnId : Nat) : Prop :=
  ∃ col, board.columns.get? columnId = some col ∧ col.incidentId = incidentId

def Board.FahrzeugVon (incidentId vehicleId : Nat) : Prop :=
  ∃ v, board.vehicles.get? vehicleId = some v ∧ v.incidentId = incidentId

def Board.Steht (vehicleId : Nat) : Prop := ∃ v, board.vehicles.get? vehicleId = some v ∧ v.removedAt = none

/-- A task or message stays in its incident and has a place on its board. -/
structure Karte.Gut (karte : Karte) : Prop where
  spalte : ∀ c, karte.columnId = some c → board.SpalteVon karte.incidentId c
  fahrzeug : ∀ v, karte.vehicleId = some v → board.FahrzeugVon karte.incidentId v
  platz : karte.columnId ≠ none ∨ ∃ v, karte.vehicleId = some v ∧ board.Steht v

structure RescuedPerson.Gut (person : RescuedPerson) : Prop where
  spalte : board.SpalteVon person.incidentId person.columnId
  fahrzeug : ∀ v, person.vehicleId = some v → board.FahrzeugVon person.incidentId v

/-- Every card stays in its incident, no task or message is lost, and every
incident has its fixed columns. -/
structure Board.Geordnet : Prop where
  vehicles : ∀ v ∈ board.vehicles.rows, ∀ c, v.columnId = some c → board.SpalteVon v.incidentId c
  karten : ∀ art, ∀ k ∈ (board.karten art).rows, k.Gut board
  persons : ∀ p ∈ board.persons.rows, p.Gut board
  feste : ∀ inc ∈ board.incidents.rows, ∀ code ∈ ["tasks", "messages"],
    ∃ col ∈ board.columns.rows, col.incidentId = inc.id ∧ col.code = code ∧ col.isFixed = true

end Ordnung

section Zulaessig

variable (json : Json) (board : Board)

def Verschiebung.karte? (v : Verschiebung) : Option Karte :=
  if v.kind = "task" then board.tasks.get? v.uid else if v.kind = "message" then board.messages.get? v.uid else none

/-- `move_card` finds what the drop is about. -/
def Verschiebung.Trifft (v : Verschiebung) : Prop :=
  (v.kind = "vehicle" ∧ (∃ f ∈ board.vehicles.get? v.uid, f.incidentId = v.incidentId) ∧
      ∃ col ∈ v.columnId.bind board.columns.get?, col.incidentId = v.incidentId) ∨
    (∃ k ∈ v.karte? board, k.incidentId = v.incidentId) ∧ ∀ id ∈ wahr v.vehicleId, (board.vehicles.get? id).isSome = true

/-- A drop on a vehicle or a column of the own incident, with an order of cards
only where `move_card` accepts it. -/
def Verschiebung.Passt (v : Verschiebung) : Prop :=
  (∀ k ∈ v.karte? board, k.incidentId = v.incidentId →
      (∀ id ∈ wahr v.vehicleId, ∀ f ∈ board.vehicles.get? id, f.incidentId = v.incidentId ∧ f.removedAt = none) ∧
        (wahr v.vehicleId = none → ∀ c ∈ wahr v.columnId, ∀ col ∈ board.columns.get? c, col.incidentId = v.incidentId)) ∧
    ∀ text ∈ v.zoneOrder, text ≠ "" → json.loads text ≠ .fehler → ∀ c ∈ wahr v.columnId,
      (board.columns.get? c).isSome = true → v.kind = "person" ∨ v.Trifft board

/-- Only columns and vehicles of the own incident are named, no card is let go
of that has no other place, and no column is deleted under a task whose vehicle
has been removed. -/
def Zulaessig : Aktion → Prop
  | .createTask incidentId _ _ columnId vehicleId =>
    (∀ c ∈ columnId, ∀ col ∈ board.columns.get? c, col.incidentId = incidentId) ∧
      ∀ id ∈ wahr vehicleId, ∀ f ∈ board.vehicles.get? id, f.incidentId = incidentId
  | .createMessage incidentId _ _ _ _ vehicleId =>
    ∀ id ∈ wahr vehicleId, ∀ f ∈ board.vehicles.get? id, f.incidentId = incidentId
  | .assignTask taskId vehicleId =>
    ∀ task ∈ board.tasks.get? taskId,
      (wahr vehicleId = none → task.columnId ≠ none) ∧
        ∀ id ∈ wahr vehicleId, ∀ f ∈ board.vehicles.get? id,
          f.incidentId = task.incidentId ∧ (f.removedAt = none ∨ task.columnId ≠ none)
  | .assignMessage incidentId messageId vehicleId =>
    ∀ msg ∈ board.messages.get? messageId, msg.incidentId = incidentId →
      (wahr vehicleId = none → msg.columnId ≠ none) ∧
        ∀ id ∈ wahr vehicleId, ∀ f ∈ board.vehicles.get? id,
          f.incidentId = incidentId → f.removedAt = none ∨ msg.columnId ≠ none
  | .moveVehicle vehicleId columnId =>
    ∀ v ∈ board.vehicles.get? vehicleId, ∀ col ∈ board.columns.get? columnId, col.incidentId = v.incidentId
  | .moveCard v => v.Passt json board
  | .deleteColumn incidentId columnId =>
    ∀ col ∈ board.columns.get? columnId, col.incidentId = incidentId → col.isFixed = false →
      ∀ t ∈ board.tasks.rows, t.columnId = some columnId → ∀ id ∈ t.vehicleId, ∀ f ∈ board.vehicles.get? id,
        f.removedAt = none
  | _ => True

instance (aktion : Aktion) : Decidable (Zulaessig json board aktion) := by
  unfold Zulaessig Verschiebung.Passt Verschiebung.Trifft
  split <;> infer_instance

end Zulaessig

section Tabellen

variable {board : Board}

structure Weiter (board board' : Board) : Prop where
  spalte : ∀ c col, board.columns.get? c = some col → ∃ col', board'.columns.get? c = some col' ∧ col'.incidentId = col.incidentId
  fahrzeug : ∀ id v, board.vehicles.get? id = some v →
    ∃ v', board'.vehicles.get? id = some v' ∧ v'.incidentId = v.incidentId ∧ v'.removedAt = v.removedAt

namespace Weiter

variable {board' : Board}

section

variable (weiter : Weiter board board')
include weiter

theorem spalteVon {incidentId c : Nat} (von : board.SpalteVon incidentId c) :
    board'.SpalteVon incidentId c := by
  obtain ⟨col, found, rfl⟩ := von
  exact weiter.spalte c col found

theorem fahrzeugVon {incidentId id : Nat} (von : board.FahrzeugVon incidentId id) :
    board'.FahrzeugVon incidentId id := by
  obtain ⟨v, found, rfl⟩ := von
  obtain ⟨v', found', same, -⟩ := weiter.fahrzeug id v found
  exact ⟨v', found', same⟩

theorem steht {id : Nat} (steht : board.Steht id) : board'.Steht id := by
  obtain ⟨v, found, bleibt⟩ := steht
  obtain ⟨v', found', -, same⟩ := weiter.fahrzeug id v found
  exact ⟨v', found', same.trans bleibt⟩

theorem karte {k : Karte} (gut : k.Gut board) : k.Gut board' :=
  ⟨fun c isColumn => weiter.spalteVon (gut.spalte c isColumn), fun v isVehicle => weiter.fahrzeugVon (gut.fahrzeug v isVehicle),
    gut.platz.imp_right fun ⟨v, isVehicle, steht⟩ => ⟨v, isVehicle, weiter.steht steht⟩⟩

theorem person {p : RescuedPerson} (gut : p.Gut board) : p.Gut board' :=
  ⟨weiter.spalteVon gut.spalte, fun v isVehicle => weiter.fahrzeugVon (gut.fahrzeug v isVehicle)⟩

end

end Weiter

theorem Karte.Gut.gleich {k k' : Karte} (gut : k.Gut board) (incident : k'.incidentId = k.incidentId)
    (column : k'.columnId = k.columnId) (vehicle : k'.vehicleId = k.vehicleId) : k'.Gut board := by
  refine ⟨?_, ?_, ?_⟩
  · rw [incident, column]
    exact gut.spalte
  · rw [incident, vehicle]
    exact gut.fahrzeug
  · rw [column, vehicle]
    exact gut.platz

theorem karten_setzeKarten (art art' : Art) (karten : Keyed Karte.id) :
    (board.setzeKarten art karten).karten art' = if art' = art then karten else board.karten art' := by
  cases art <;> cases art' <;> rfl

section

variable (geordnet : board.Geordnet)
include geordnet

theorem Board.Geordnet.mitKarten (art : Art) {karten : Keyed Karte.id}
    (gut : ∀ k ∈ karten.rows, k.Gut board) : (board.setzeKarten art karten).Geordnet := by
  have weiter : Weiter board (board.setzeKarten art karten) := by
    cases art <;> exact ⟨fun c col found => ⟨col, found, rfl⟩, fun id v found => ⟨v, found, rfl, rfl⟩⟩
  refine ⟨?_, fun art' k member => ?_, ?_, ?_⟩
  · cases art <;> exact geordnet.vehicles
  · rw [karten_setzeKarten] at member
    split at member
    · exact weiter.karte (gut k member)
    · exact weiter.karte (geordnet.karten art' k member)
  · intro p member
    have old : p ∈ board.persons.rows := by cases art <;> exact member
    exact weiter.person (geordnet.persons p old)
  · cases art <;> exact geordnet.feste

theorem Board.Geordnet.mitPersonen {persons : Keyed RescuedPerson.id}
    (gut : ∀ p ∈ persons.rows, p.Gut board) : Board.Geordnet { board with persons } := by
  have weiter : Weiter board { board with persons } :=
    ⟨fun c col found => ⟨col, found, rfl⟩, fun id v found => ⟨v, found, rfl, rfl⟩⟩
  refine ⟨geordnet.vehicles, fun art k member => ?_, fun p member => weiter.person (gut p member), geordnet.feste⟩
  have old : k ∈ (board.karten art).rows := by cases art <;> exact member
  exact weiter.karte (geordnet.karten art k old)

theorem Board.Geordnet.mitFahrzeugen {vehicles : Keyed IncidentVehicle.id}
    (weiter : ∀ id v, board.vehicles.get? id = some v →
      ∃ v', vehicles.get? id = some v' ∧ v'.incidentId = v.incidentId ∧ v'.removedAt = v.removedAt)
    (gut : ∀ v ∈ vehicles.rows, ∀ c, v.columnId = some c → board.SpalteVon v.incidentId c) :
    Board.Geordnet { board with vehicles } := by
  have weiter : Weiter board { board with vehicles } := ⟨fun c col found => ⟨col, found, rfl⟩, weiter⟩
  refine ⟨gut, fun art k member => ?_, fun p member => weiter.person (geordnet.persons p member), geordnet.feste⟩
  have old : k ∈ (board.karten art).rows := by cases art <;> exact member
  exact weiter.karte (geordnet.karten art k old)

theorem Board.Geordnet.mitSpalten {columns : Keyed IncidentColumn.id}
    (weiter : ∀ c col, board.columns.get? c = some col → ∃ col', columns.get? c = some col' ∧
      col'.incidentId = col.incidentId ∧ col'.code = col.code ∧ col'.isFixed = col.isFixed) :
    Board.Geordnet { board with columns } := by
  have weiter' : Weiter board { board with columns } := by
    refine ⟨fun c col found => ?_, fun id v found => ⟨v, found, rfl, rfl⟩⟩
    obtain ⟨col', found', incident, -⟩ := weiter c col found
    exact ⟨col', found', incident⟩
  refine ⟨fun v member c isColumn => weiter'.spalteVon (geordnet.vehicles v member c isColumn), fun art k member => ?_,
    fun p member => weiter'.person (geordnet.persons p member), fun inc member code isCode => ?_⟩
  · have old : k ∈ (board.karten art).rows := by cases art <;> exact member
    exact weiter'.karte (geordnet.karten art k old)
  · obtain ⟨col, isCol, incident, sameCode, fixed⟩ := geordnet.feste inc member code isCode
    obtain ⟨col', found', incident', code', fixed'⟩ := weiter col.id col (Keyed.get?_of_mem isCol)
    exact ⟨col', Keyed.mem_of_get? found', incident'.trans incident, code'.trans sameCode, fixed'.trans fixed⟩

end

end Tabellen

section Anlegen

variable {json : Json} {board board' : Board}

theorem setCardOrder_geordnet (geordnet : board.Geordnet) (columnId : Nat) (text : String) :
    (setCardOrder board columnId text).Geordnet := by
  refine geordnet.mitSpalten fun c col found => ?_
  rw [Keyed.get?_modify, found]
  split
  · exact ⟨_, rfl, rfl, rfl, rfl⟩
  · exact ⟨col, rfl, rfl, rfl, rfl⟩

variable {columnId vehicleId : Option Nat} {incidentId : Nat} {title : String}

theorem einreihen_geordnet (geordnet : board.Geordnet) {platz : List (String × Nat) → String × Nat → List (String × Nat)} {kind : String} {uid : Nat} (ok : einreihen json board platz columnId kind uid = .ok board') :
    board'.Geordnet := by
  unfold einreihen at ok
  split at ok
  · cases ok
    exact geordnet
  · next col _ =>
    rw [bind_eq_ok] at ok
    obtain ⟨current, -, ok⟩ := ok
    cases ok
    exact setCardOrder_geordnet geordnet _ _

theorem mem_columnsOf {col : IncidentColumn} :
    col ∈ board.columnsOf incidentId ↔ col ∈ board.columns.rows ∧ col.incidentId = incidentId := by
  rw [Board.columnsOf, List.mem_insertionSort, List.mem_filter, beq_iff_eq]

theorem spalteVon_of_mem {col : IncidentColumn} (member : col ∈ board.columnsOf incidentId) :
    board.SpalteVon incidentId col.id := by
  obtain ⟨isCol, von⟩ := mem_columnsOf.mp member
  exact ⟨col, Keyed.get?_of_mem isCol, von⟩

theorem getColumn_fest (geordnet : board.Geordnet) {incident : Incident}
    (found : board.incidents.get? incidentId = some incident) {code : String} (isCode : code ∈ ["tasks", "messages"]) :
    ∃ col, getColumn board incident.id code = some col ∧ board.SpalteVon incident.id col.id := by
  obtain ⟨col, member, von, sameCode, -⟩ := geordnet.feste incident (Keyed.mem_of_get? found) code isCode
  have inside : col ∈ board.columnsOf incident.id := mem_columnsOf.mpr ⟨member, von⟩
  have some? : (getColumn board incident.id code).isSome = true :=
    List.find?_isSome.mpr ⟨col, inside, beq_iff_eq.mpr sameCode⟩
  obtain ⟨first, isFirst⟩ := Option.isSome_iff_exists.mp some?
  exact ⟨first, isFirst, spalteVon_of_mem (List.mem_of_find?_eq_some isFirst)⟩

theorem fahrzeugVon_of_isSome
    (exist : ∀ v ∈ vehicleId, (board.vehicles.get? v).isSome = true)
    (eigen : ∀ v ∈ vehicleId, ∀ f ∈ board.vehicles.get? v, f.incidentId = incidentId) (v : Nat)
    (is : vehicleId = some v) : board.FahrzeugVon incidentId v := by
  obtain ⟨f, found⟩ := Option.isSome_iff_exists.mp (exist v is)
  exact ⟨f, found, eigen v is f found⟩

theorem createTask_geordnet (geordnet : board.Geordnet) {detail : Option String} (zulaessig : Zulaessig json board (.createTask incidentId title detail columnId vehicleId))
    (ok : createTask json board incidentId title detail columnId vehicleId = .ok board') : board'.Geordnet := by
  simp only [createTask, bind_eq_ok, demand_eq_ok, require_eq_ok] at ok
  obtain ⟨incident, isIncident, -, column, -, vehicle, ok⟩ := ok
  have isId := Keyed.key_of_get? isIncident
  obtain ⟨tasks, isTasks, tasksVon⟩ := getColumn_fest geordnet isIncident (List.mem_cons_self ..)
  have spalte : ∃ c, columnId.or ((getColumn board incident.id "tasks").map (·.id)) = some c ∧ board.SpalteVon incident.id c := by
    cases columnId with
    | none => exact ⟨tasks.id, by rw [isTasks]; rfl, tasksVon⟩
    | some c =>
      obtain ⟨col, found⟩ := Option.isSome_iff_exists.mp (column c rfl)
      exact ⟨c, rfl, col, found, (zulaessig.1 c rfl col found).trans isId.symm⟩
  obtain ⟨c, isColumn, von⟩ := spalte
  rw [isColumn] at ok
  refine einreihen_geordnet (geordnet.mitKarten .task fun k member => ?_) ok
  rcases Keyed.mem_insert_cases member with old | rfl
  · exact geordnet.karten .task k old
  · refine ⟨?_, fun v isVehicle => ?_, Or.inl ?_⟩
    · rintro _ ⟨⟩
      exact von
    · rw [isId]
      exact fahrzeugVon_of_isSome vehicle zulaessig.2 v isVehicle
    · exact Option.some_ne_none c

theorem createMessage_geordnet (geordnet : board.Geordnet) {detail : Option String}
    {status : String} {dueAfterMin : Int}
    (zulaessig : Zulaessig json board (.createMessage incidentId title detail status dueAfterMin vehicleId))
    (ok : createMessage json board incidentId title detail status dueAfterMin vehicleId = .ok board') : board'.Geordnet := by
  simp only [createMessage, bind_eq_ok, demand_eq_ok, require_eq_ok] at ok
  obtain ⟨incident, isIncident, -, vehicle, ok⟩ := ok
  have isId := Keyed.key_of_get? isIncident
  obtain ⟨msgs, isMsgs, von⟩ := getColumn_fest geordnet isIncident (List.mem_cons_of_mem "tasks" (List.mem_singleton_self _))
  rw [isMsgs, Option.map_some] at ok
  refine einreihen_geordnet (geordnet.mitKarten .message fun k member => ?_) ok
  rcases Keyed.mem_insert_cases member with old | rfl
  · exact geordnet.karten .message k old
  · refine ⟨?_, fun v isVehicle => ?_, Or.inl ?_⟩
    · rintro _ ⟨⟩
      exact von
    · rw [isId]
      exact fahrzeugVon_of_isSome vehicle zulaessig v isVehicle
    · exact Option.some_ne_none msgs.id

theorem resolvePersonVehicle_von {id : Nat} {v : IncidentVehicle}
    (found : resolvePersonVehicle board incidentId (some id) = some v) : v.id = id ∧ board.FahrzeugVon incidentId id := by
  obtain ⟨isVehicle, holds⟩ := Option.filter_eq_some_iff.mp found
  rw [Bool.and_eq_true, beq_iff_eq] at holds
  exact ⟨Keyed.key_of_get? isVehicle, v, isVehicle, holds.1⟩

theorem createPerson_geordnet (geordnet : board.Geordnet) {name : Option String} {jetzt : Zeit}
    (ok : createPerson json board incidentId name columnId vehicleId jetzt = .ok board') : board'.Geordnet := by
  simp only [createPerson, bind_eq_ok, demand_eq_ok, require_eq_ok] at ok
  obtain ⟨incident, isIncident, rescued, isRescued, -, vehicle, ok⟩ := ok
  have isId := Keyed.key_of_get? isIncident
  have von : board.SpalteVon incidentId rescued.id := by
    rcases Option.or_eq_some_iff.mp isRescued with gewaehlt | ⟨-, first⟩
    · obtain ⟨isColumn, holds⟩ := Option.filter_eq_some_iff.mp gewaehlt
      rw [Bool.and_eq_true, beq_iff_eq] at holds
      obtain ⟨c, -, found⟩ := Option.bind_eq_some_iff.mp isColumn
      exact ⟨rescued, Keyed.get?_self found, holds.1⟩
    · rw [← isId]
      exact spalteVon_of_mem (List.mem_of_find?_eq_some first)
  refine einreihen_geordnet (geordnet.mitPersonen fun p member => ?_) ok
  rcases Keyed.mem_insert_cases member with old | rfl
  · exact geordnet.persons p old
  · refine ⟨von, fun v isVehicle => ?_⟩
    have isVehicle' : vehicleId = some v := isVehicle
    subst isVehicle'
    rcases vehicle with missing | resolved
    · cases missing
    · obtain ⟨f, found⟩ := Option.isSome_iff_exists.mp resolved
      exact (resolvePersonVehicle_von found).2

theorem attachVehicle_geordnet (geordnet : board.Geordnet) {vehicleMasterId : Nat}
    (ok : attachVehicle json board incidentId vehicleMasterId columnId = .ok board') : board'.Geordnet := by
  simp only [attachVehicle, bind_eq_ok, demand_eq_ok] at ok
  obtain ⟨incident, -, ok⟩ := ok
  split at ok
  · cases ok
    exact geordnet
  simp only [bind_eq_ok, demand_eq_ok] at ok
  obtain ⟨target, isTarget, ok⟩ := ok
  have inside : target ∈ board.columnsOf incident.id := by
    rcases Option.or_eq_some_iff.mp isTarget with early | ⟨-, first⟩
    · rcases Option.or_eq_some_iff.mp early with gewaehlt | ⟨-, active⟩
      · obtain ⟨c, -, found⟩ := Option.bind_eq_some_iff.mp gewaehlt
        exact List.mem_of_find?_eq_some found
      · exact List.mem_of_find?_eq_some active
    · exact List.mem_of_head? first
  have angelegt : Board.Geordnet { board with
      vehicles := board.vehicles.insert
        (fun id => { id, incidentId := incident.id, columnId := some target.id, vehicleMasterId, displayOrder := 999 })
        fun _ => rfl } := by
    refine geordnet.mitFahrzeugen (fun id v found => ⟨v, Keyed.get?_insert_of_some found, rfl, rfl⟩) fun v member => ?_
    rcases Keyed.mem_insert_cases member with old | rfl
    · exact geordnet.vehicles v old
    · rintro _ ⟨⟩
      exact spalteVon_of_mem inside
  split at ok <;> exact einreihen_geordnet angelegt ok

theorem createSection_geordnet (geordnet : board.Geordnet) {columnKind : String} {now : Nat}
    (ok : createSection board incidentId title columnKind now = .ok board') : board'.Geordnet := by
  simp only [createSection, bind_eq_ok, demand_eq_ok] at ok
  obtain ⟨incident, -, ok⟩ := ok
  cases ok
  exact geordnet.mitSpalten fun c col found => ⟨col, Keyed.get?_insert_of_some found, rfl, rfl, rfl⟩

end Anlegen

section Zuweisen

variable {json : Json} {board board' : Board}

theorem setzeKarte_geordnet (geordnet : board.Geordnet) (art : Art) {id : Nat} {werte : Karte → Karte}
    {keeps : ∀ k, (werte k).id = k.id} (gut : ∀ k, (board.karten art).get? id = some k → k.Gut board → (werte k).Gut board) :
    (board.setzeKarte art id werte keeps).Geordnet := by
  refine geordnet.mitKarten art fun k member => ?_
  rcases Keyed.mem_modify_cases member with old | ⟨alt, found, rfl⟩
  · exact geordnet.karten art k old
  · exact gut alt found (geordnet.karten art alt (Keyed.mem_of_get? found))

theorem Karte.Gut.zugewiesen {k : Karte} (gut : k.Gut board) {v : IncidentVehicle} (found : board.vehicles.get? v.id = some v)
    (von : v.incidentId = k.incidentId) (platz : v.removedAt = none ∨ k.columnId ≠ none) :
    Karte.Gut board { k with vehicleId := some v.id } := by
  refine ⟨gut.spalte, ?_, ?_⟩
  · rintro _ ⟨⟩
    exact ⟨v, found, von⟩
  · exact platz.symm.imp_right fun steht => ⟨v.id, rfl, v, found, steht⟩

theorem Karte.Gut.geloest {k : Karte} (gut : k.Gut board) (platz : k.columnId ≠ none) :
    Karte.Gut board { k with vehicleId := none } :=
  ⟨gut.spalte, (fun v is => by cases is), Or.inl platz⟩

section

variable (geordnet : board.Geordnet)
include geordnet

theorem assignTask_geordnet {taskId : Nat} {vehicleId : Option Nat}
    (zulaessig : Zulaessig json board (.assignTask taskId vehicleId)) : (assignTask board taskId vehicleId).Geordnet := by
  unfold assignTask
  split
  · exact geordnet
  · next task id isTask isId =>
    obtain ⟨-, vehicle⟩ := zulaessig task isTask
    split
    · next v found =>
      obtain ⟨von, platz⟩ := vehicle id isId v found
      refine setzeKarte_geordnet geordnet .task fun k isKarte gut => ?_
      have same : task = k := Option.some.inj ((Keyed.get?_self isTask).symm.trans isKarte)
      rw [same] at von platz
      exact gut.zugewiesen (Keyed.get?_self found) von platz
    · exact geordnet
  · next task isTask isNone =>
    obtain ⟨column, -⟩ := zulaessig task isTask
    refine setzeKarte_geordnet geordnet .task fun k isKarte gut => ?_
    have same : task = k := Option.some.inj ((Keyed.get?_self isTask).symm.trans isKarte)
    rw [same] at column
    exact gut.geloest (column isNone)

theorem assignMessage_geordnet {incidentId messageId : Nat} {vehicleId : Option Nat}
    (zulaessig : Zulaessig json board (.assignMessage incidentId messageId vehicleId)) :
    (assignMessage board incidentId messageId vehicleId).Geordnet := by
  unfold assignMessage
  split
  · exact geordnet
  · next msg id isMsg isId =>
    obtain ⟨found, von⟩ := Option.filter_eq_some_iff.mp isMsg
    rw [beq_iff_eq] at von
    obtain ⟨-, vehicle⟩ := zulaessig msg found von
    split
    · next v isVehicle =>
      obtain ⟨foundVehicle, vonVehicle⟩ := Option.filter_eq_some_iff.mp isVehicle
      rw [beq_iff_eq] at vonVehicle
      refine setzeKarte_geordnet geordnet .message fun k isKarte gut => ?_
      have same : msg = k := Option.some.inj ((Keyed.get?_self found).symm.trans isKarte)
      subst same
      exact gut.zugewiesen (Keyed.get?_self foundVehicle) (vonVehicle.trans von.symm)
        (vehicle id isId v foundVehicle vonVehicle)
    · exact geordnet
  · next msg isMsg isNone =>
    obtain ⟨found, von⟩ := Option.filter_eq_some_iff.mp isMsg
    rw [beq_iff_eq] at von
    obtain ⟨column, -⟩ := zulaessig msg found von
    refine setzeKarte_geordnet geordnet .message fun k isKarte gut => ?_
    have same : msg = k := Option.some.inj ((Keyed.get?_self found).symm.trans isKarte)
    subst same
    exact gut.geloest (column isNone)

theorem setzePerson_geordnet {id : Nat} {werte : RescuedPerson → RescuedPerson}
    {keeps : ∀ p, (werte p).id = p.id}
    (gut : ∀ p, board.persons.get? id = some p → p.Gut board → (werte p).Gut board) :
    Board.Geordnet { board with persons := board.persons.modify id werte keeps } := by
  refine geordnet.mitPersonen fun p member => ?_
  rcases Keyed.mem_modify_cases member with old | ⟨alt, found, rfl⟩
  · exact geordnet.persons p old
  · exact gut alt found (geordnet.persons alt (Keyed.mem_of_get? found))

theorem updatePerson_geordnet (incidentId personId : Nat) (name : Option String)
    (vehicleId : Option Nat) : (updatePerson board incidentId personId name vehicleId).Geordnet := by
  unfold updatePerson
  split
  · exact geordnet
  next person isPerson =>
  obtain ⟨found, von⟩ := Option.filter_eq_some_iff.mp isPerson
  rw [beq_iff_eq] at von
  refine setzePerson_geordnet geordnet fun p isP gut => ⟨gut.spalte, fun v is => ?_⟩
  have same : person = p := Option.some.inj ((Keyed.get?_self found).symm.trans isP)
  subst same
  rw [von]
  dsimp only at is
  split at is
  · next id =>
    split at is
    · next vehicle resolved =>
      obtain ⟨isId, vonVehicle⟩ := resolvePersonVehicle_von resolved
      cases is
      rw [isId]
      exact vonVehicle
    · rw [← von]
      exact gut.fahrzeug v is
  · cases is

theorem moveVehicle_geordnet {vehicleId columnId : Nat}
    (zulaessig : Zulaessig json board (.moveVehicle vehicleId columnId)) : (moveVehicle board vehicleId columnId).Geordnet := by
  unfold moveVehicle
  split
  · next vehicle column isVehicle isColumn =>
    have von := zulaessig vehicle isVehicle column isColumn
    refine geordnet.mitFahrzeugen (fun id v found => ?_) fun v member => ?_
    · rw [Keyed.get?_modify, found]
      split
      · exact ⟨_, rfl, rfl, rfl⟩
      · exact ⟨v, rfl, rfl, rfl⟩
    · rcases Keyed.mem_modify_cases member with old | ⟨alt, found, rfl⟩
      · exact geordnet.vehicles v old
      · have same : vehicle = alt := Option.some.inj ((Keyed.get?_self isVehicle).symm.trans found)
        subst same
        rintro _ ⟨⟩
        exact ⟨column, Keyed.get?_self isColumn, von⟩
  · exact geordnet

end

end Zuweisen

section Loeschen

variable {json : Json} {board board' : Board}

theorem ohne_eq_some {columnId c : Nat} {value : Option Nat} :
    value.filter (· ≠ columnId) = some c ↔ value = some c ∧ c ≠ columnId := by
  rw [Option.filter_eq_some_iff, decide_eq_true_eq]

/-- What `delete_section_column` has found before it deletes. -/
theorem deleteSectionColumn_eq_ok {column : IncidentColumn} (ok : deleteSectionColumn board column = .ok board') :
    column.isFixed = false ∧ (∀ t ∈ board.tasks.rows, t.columnId = some column.id → t.vehicleId ≠ none) ∧
      (∀ m ∈ board.messages.rows, m.columnId ≠ some column.id) ∧ (∀ p ∈ board.persons.rows, p.columnId ≠ column.id) ∧
      board'.incidents = board.incidents ∧ board'.columns = board.columns.delete column.id ∧
      board'.vehicles = board.vehicles.map (fun v => { v with columnId := v.columnId.filter (· ≠ column.id) }) (fun _ => rfl) ∧
      (∀ art, board'.karten art =
        (board.karten art).map (fun k => { k with columnId := k.columnId.filter (· ≠ column.id) }) fun _ => rfl) ∧
      board'.persons = board.persons := by
  simp only [deleteSectionColumn, bind_eq_ok, require_eq_ok, List.append_eq_nil_iff] at ok
  obtain ⟨-, fixed, -, ⟨⟨⟨-, tasks⟩, msgs⟩, persons⟩, ok⟩ := ok
  cases ok
  refine ⟨fixed, fun t member isColumn isNone => ?_, fun m member isColumn => ?_, fun p member isColumn => ?_, rfl, rfl, rfl,
    fun art => by cases art <;> rfl, rfl⟩
  · split at tasks
    · next zero =>
      exact List.countP_eq_zero.mp zero t member (by rw [isColumn, isNone, beq_self_eq_true]; rfl)
    · cases tasks
  · split at msgs
    · next zero => exact List.countP_eq_zero.mp zero m member (by rw [isColumn, beq_self_eq_true])
    · cases msgs
  · split at persons
    · next zero => exact List.countP_eq_zero.mp zero p member (by rw [isColumn, beq_self_eq_true])
    · cases persons

theorem deleteColumn_geordnet (geordnet : board.Geordnet) {incidentId columnId : Nat}
    (zulaessig : Zulaessig json board (.deleteColumn incidentId columnId))
    (ok : deleteColumn board incidentId columnId = .ok board') : board'.Geordnet := by
  unfold deleteColumn at ok
  split at ok
  swap
  · cases ok
    exact geordnet
  next column isColumn =>
  obtain ⟨found, von⟩ := Option.filter_eq_some_iff.mp isColumn
  rw [beq_iff_eq] at von
  have isId := Keyed.key_of_get? found
  obtain ⟨unfixed, tasks, msgs, persons, incidents, columns', vehicles', karten', persons'⟩ := deleteSectionColumn_eq_ok ok
  have spalte : ∀ i c, board.SpalteVon i c → c ≠ column.id → board'.SpalteVon i c := by
    rintro i c ⟨col, isCol, isVon⟩ other
    exact ⟨col, by rw [columns', Keyed.get?_delete, if_neg other, isCol], isVon⟩
  have fahrzeug : ∀ id v, board.vehicles.get? id = some v →
      ∃ v', board'.vehicles.get? id = some v' ∧ v'.incidentId = v.incidentId ∧ v'.removedAt = v.removedAt := by
    intro id v isVehicle
    refine ⟨{ v with columnId := v.columnId.filter (· ≠ column.id) }, ?_, rfl, rfl⟩
    rw [vehicles', Keyed.get?_map, isVehicle, Option.map_some]
  have fahrzeugVon : ∀ i id, board.FahrzeugVon i id → board'.FahrzeugVon i id := by
    rintro i id ⟨v, isVehicle, rfl⟩
    obtain ⟨v', isVehicle', same, -⟩ := fahrzeug id v isVehicle
    exact ⟨v', isVehicle', same⟩
  have steht : ∀ id, board.Steht id → board'.Steht id := by
    rintro id ⟨v, isVehicle, bleibt⟩
    obtain ⟨v', isVehicle', -, same⟩ := fahrzeug id v isVehicle
    exact ⟨v', isVehicle', same.trans bleibt⟩
  refine ⟨fun v member c isC => ?_, fun art k member => ?_, fun p member => ?_, fun inc member code isCode => ?_⟩
  · rw [vehicles'] at member
    obtain ⟨alt, isAlt, rfl⟩ := Keyed.mem_map.mp member
    obtain ⟨before, other⟩ := ohne_eq_some.mp isC
    exact spalte _ c (geordnet.vehicles alt isAlt c before) other
  · rw [karten'] at member
    obtain ⟨alt, isAlt, rfl⟩ := Keyed.mem_map.mp member
    have gut := geordnet.karten art alt isAlt
    refine ⟨fun c isC => ?_, fun v isVehicle => fahrzeugVon _ v (gut.fahrzeug v isVehicle), ?_⟩
    · obtain ⟨before, other⟩ := ohne_eq_some.mp isC
      exact spalte _ c (gut.spalte c before) other
    · rcases gut.platz with column' | ⟨v, isVehicle, stehtNoch⟩
      · obtain ⟨c, isC⟩ := Option.ne_none_iff_exists'.mp column'
        by_cases same : c = column.id
        · -- its column is deleted: it is a task on a vehicle
          subst same
          cases art with
          | message => exact absurd isC (msgs alt isAlt)
          | task =>
            obtain ⟨v, isVehicle⟩ := Option.ne_none_iff_exists'.mp (tasks alt isAlt isC)
            obtain ⟨f, isF, -⟩ := gut.fahrzeug v isVehicle
            rw [isId] at isC
            have bleibt := zulaessig column found von unfixed alt isAlt isC v isVehicle f isF
            exact Or.inr ⟨v, isVehicle, steht v ⟨f, isF, bleibt⟩⟩
        · have kept : alt.columnId.filter (· ≠ column.id) = some c := ohne_eq_some.mpr ⟨isC, same⟩
          exact Or.inl (by rw [kept]; exact Option.some_ne_none c)
      · exact Or.inr ⟨v, isVehicle, steht v stehtNoch⟩
  · rw [persons'] at member
    have gut := geordnet.persons p member
    exact ⟨spalte _ _ gut.spalte (persons p member), fun v isVehicle => fahrzeugVon _ v (gut.fahrzeug v isVehicle)⟩
  · rw [incidents] at member
    obtain ⟨col, isCol, isVon, sameCode, fixed⟩ := geordnet.feste inc member code isCode
    have other : col.id ≠ column.id := by
      intro same
      have isSame := Keyed.get?_of_mem isCol
      rw [same, isId, found] at isSame
      cases isSame
      rw [unfixed] at fixed
      cases fixed
    exact ⟨col, by rw [columns']; exact Keyed.mem_delete.mpr ⟨isCol, other⟩, isVon, sameCode, fixed⟩

end Loeschen

section Verschieben

variable {json : Json} {board board' : Board}

theorem moveVehicleCard_geordnet (geordnet : board.Geordnet) (incidentId uid : Nat) (columnId : Option Nat) (position : Int) :
    (moveVehicleCard board incidentId uid columnId position).1.Geordnet := by
  unfold moveVehicleCard
  split
  · exact geordnet
  next vehicle isVehicle =>
  obtain ⟨foundVehicle, vonVehicle⟩ := Option.filter_eq_some_iff.mp isVehicle
  rw [beq_iff_eq] at vonVehicle
  split
  · exact geordnet
  next col isCol =>
  obtain ⟨foundCol, vonCol⟩ := Option.filter_eq_some_iff.mp isCol
  rw [beq_iff_eq] at vonCol
  obtain ⟨c, rfl, isC⟩ := Option.bind_eq_some_iff.mp foundCol
  refine geordnet.mitFahrzeugen (fun id v found => ?_) fun v member => ?_
  · rw [Keyed.get?_modify, Keyed.get?_map, found]
    split
    · exact ⟨_, rfl, rfl, rfl⟩
    · exact ⟨_, rfl, rfl, rfl⟩
  · rcases Keyed.mem_modify_cases member with old | ⟨alt, found, rfl⟩
    · obtain ⟨alt, isAlt, rfl⟩ := Keyed.mem_map.mp old
      exact geordnet.vehicles alt isAlt
    · rw [Keyed.get?_map, foundVehicle] at found
      cases found
      rintro _ ⟨⟩
      exact ⟨col, isC, vonCol.trans vonVehicle.symm⟩

theorem moveKarte_geordnet (geordnet : board.Geordnet) (art : Art) {incidentId uid : Nat} {columnId : Option Nat}
    {position : Int} {vehicleId : Option Nat} {detachVehicle moved : Bool}
    (zulaessig : ∀ k ∈ (board.karten art).get? uid, k.incidentId = incidentId →
      (∀ id ∈ wahr vehicleId, ∀ f ∈ board.vehicles.get? id, f.incidentId = incidentId ∧ f.removedAt = none) ∧
        (wahr vehicleId = none → ∀ c ∈ wahr columnId, ∀ col ∈ board.columns.get? c, col.incidentId = incidentId))
    (ok : moveKarte board art incidentId uid columnId position vehicleId detachVehicle = .ok (board', moved)) :
    board'.Geordnet := by
  unfold moveKarte at ok
  split at ok
  · cases ok
    exact geordnet
  next karte isKarte =>
  obtain ⟨found, von⟩ := Option.filter_eq_some_iff.mp isKarte
  rw [beq_iff_eq] at von
  obtain ⟨vehicle, column⟩ := zulaessig karte found von
  split at ok
  · next id isId =>
    split at ok
    · cases ok
      exact geordnet
    · next v isVehicle =>
      cases ok
      obtain ⟨vonVehicle, steht⟩ := vehicle id isId v isVehicle
      refine setzeKarte_geordnet geordnet art fun k isK gut => ?_
      have same : karte = k := Option.some.inj (found.symm.trans isK)
      subst same
      refine ⟨(fun c is => by cases is), ?_, Or.inr ⟨id, rfl, v, isVehicle, steht⟩⟩
      rintro _ ⟨⟩
      exact ⟨v, isVehicle, vonVehicle.trans von.symm⟩
  · cases ok
    exact geordnet
  · next c noVehicle isC =>
    simp only [bind_eq_ok, require_eq_ok] at ok
    obtain ⟨-, exists?, ok⟩ := ok
    cases ok
    obtain ⟨col, isCol⟩ := Option.isSome_iff_exists.mp exists?
    have vonCol := column noVehicle c isC col isCol
    refine geordnet.mitKarten art fun k member => ?_
    rcases Keyed.mem_modify_cases member with old | ⟨alt, isAlt, rfl⟩
    · obtain ⟨alt, isAlt, rfl⟩ := Keyed.mem_map.mp old
      exact (geordnet.karten art alt isAlt).gleich rfl rfl rfl
    · rw [Keyed.get?_map, found] at isAlt
      cases isAlt
      have gut := geordnet.karten art karte (Keyed.mem_of_get? found)
      refine ⟨?_, fun v isVehicle => ?_, Or.inl (Option.some_ne_none c)⟩
      · rintro _ ⟨⟩
        exact ⟨col, isCol, vonCol.trans von.symm⟩
      · cases detachVehicle with
        | true => cases isVehicle
        | false => exact gut.fahrzeug v isVehicle

theorem movePerson_geordnet (geordnet : board.Geordnet) (incidentId uid : Nat) (columnId vehicleId : Option Nat)
    (detachVehicle : Bool) : (movePerson board incidentId uid columnId vehicleId detachVehicle).1.Geordnet := by
  unfold movePerson
  split
  · exact geordnet
  next person isPerson =>
  obtain ⟨found, von⟩ := Option.filter_eq_some_iff.mp isPerson
  rw [beq_iff_eq] at von
  split
  · next id _ =>
    split
    · exact geordnet
    · next v resolved =>
      obtain ⟨isId, vonVehicle⟩ := resolvePersonVehicle_von resolved
      refine setzePerson_geordnet geordnet fun p isP gut => ⟨gut.spalte, ?_⟩
      have same : person = p := Option.some.inj (found.symm.trans isP)
      subst same
      rintro _ ⟨⟩
      rw [isId, von]
      exact vonVehicle
  · split
    · exact geordnet
    · next col isCol =>
      obtain ⟨foundCol, holds⟩ := Option.filter_eq_some_iff.mp isCol
      rw [Bool.and_eq_true, beq_iff_eq] at holds
      obtain ⟨c, -, isC⟩ := Option.bind_eq_some_iff.mp foundCol
      refine setzePerson_geordnet geordnet fun p isP gut => ⟨?_, fun v isVehicle => ?_⟩
      · have same : person = p := Option.some.inj (found.symm.trans isP)
        subst same
        exact ⟨col, Keyed.get?_self isC, holds.1.trans von.symm⟩
      · cases detachVehicle with
        | true => cases isVehicle
        | false => exact gut.fahrzeug v isVehicle

variable {v : Verschiebung}

/-- `move_card` on a board in order. -/
theorem moveCard_geordnet (geordnet : board.Geordnet) (passt : v.Passt json board) {moved : Bool}
    (ok : v.moveCard board = .ok (board', moved)) : board'.Geordnet := by
  obtain ⟨karte, -⟩ := passt
  unfold Verschiebung.moveCard moveCard at ok
  split at ok
  · have same : board' = (moveVehicleCard board v.incidentId v.uid v.columnId v.position).1 :=
      (congrArg Prod.fst (Except.ok.inj ok)).symm
    rw [same]
    exact moveVehicleCard_geordnet geordnet _ _ _ _
  split at ok
  · next isTask =>
    rw [Verschiebung.karte?, if_pos isTask] at karte
    exact moveKarte_geordnet geordnet .task karte ok
  next noTask =>
  split at ok
  · next isMessage =>
    rw [Verschiebung.karte?, if_neg noTask, if_pos isMessage] at karte
    exact moveKarte_geordnet geordnet .message karte ok
  split at ok
  · have same : board' = (movePerson board v.incidentId v.uid v.columnId v.vehicleId v.detachVehicle).1 :=
      (congrArg Prod.fst (Except.ok.inj ok)).symm
    rw [same]
    exact movePerson_geordnet geordnet _ _ _ _ _
  · cases ok
    exact geordnet

theorem moveCard_abgelehnt (ok : v.moveCard board = .ok (board', false)) : board' = board := by
  have karte : ∀ art, moveKarte board art v.incidentId v.uid v.columnId v.position v.vehicleId v.detachVehicle =
      .ok (board', false) → board' = board := by
    intro art ok
    unfold moveKarte at ok
    split at ok
    · cases ok
      rfl
    · split at ok
      · split at ok
        · cases ok
          rfl
        · cases ok
      · cases ok
        rfl
      · simp only [bind_eq_ok] at ok
        obtain ⟨-, -, ok⟩ := ok
        cases ok
  unfold Verschiebung.moveCard moveCard at ok
  split at ok
  · unfold moveVehicleCard at ok
    split at ok
    · cases ok
      rfl
    · split at ok
      · cases ok
        rfl
      · cases ok
  split at ok
  · exact karte .task ok
  split at ok
  · exact karte .message ok
  split at ok
  · unfold movePerson at ok
    split at ok
    · cases ok
      rfl
    · split at ok
      · split at ok
        · cases ok
          rfl
        · cases ok
      · split at ok
        · cases ok
          rfl
        · cases ok
  · cases ok
    rfl

/-- Where `move_card` finds what the drop is about, it does not reject it. -/
theorem Verschiebung.Trifft.angenommen (trifft : v.Trifft board) {c : Nat} (isColumn : c ∈ wahr v.columnId) :
    v.moveCard board ≠ .ok (board', false) := by
  intro abgelehnt
  have karte : ∀ art, (∃ k ∈ (board.karten art).get? v.uid, k.incidentId = v.incidentId) →
      (∀ id ∈ wahr v.vehicleId, (board.vehicles.get? id).isSome = true) →
      moveKarte board art v.incidentId v.uid v.columnId v.position v.vehicleId v.detachVehicle ≠ .ok (board', false) := by
    rintro art ⟨k, found, von⟩ vehicle ok
    have isKarte : ((board.karten art).get? v.uid).filter (·.incidentId == v.incidentId) = some k :=
      Option.filter_eq_some_iff.mpr ⟨found, beq_iff_eq.mpr von⟩
    unfold moveKarte at ok
    rw [isKarte] at ok
    dsimp only at ok
    split at ok
    · next id isId =>
      obtain ⟨f, isF⟩ := Option.isSome_iff_exists.mp (vehicle id isId)
      rw [isF] at ok
      cases ok
    · next isNone =>
      rw [isColumn] at isNone
      cases isNone
    · simp only [bind_eq_ok] at ok
      obtain ⟨-, -, ok⟩ := ok
      cases ok
  rcases trifft with ⟨isVehicle, ⟨f, found, von⟩, col, isCol, vonCol⟩ | ⟨⟨k, isKarte, von⟩, vehicle⟩
  · have foundVehicle : (board.vehicles.get? v.uid).filter (·.incidentId == v.incidentId) = some f :=
      Option.filter_eq_some_iff.mpr ⟨found, beq_iff_eq.mpr von⟩
    have foundCol : (v.columnId.bind board.columns.get?).filter (·.incidentId == v.incidentId) = some col :=
      Option.filter_eq_some_iff.mpr ⟨isCol, beq_iff_eq.mpr vonCol⟩
    rw [Verschiebung.moveCard, Kanban.moveCard, if_pos isVehicle, moveVehicleCard, foundVehicle] at abgelehnt
    simp only [foundCol] at abgelehnt
    cases abgelehnt
  · unfold Verschiebung.karte? at isKarte
    unfold Verschiebung.moveCard Kanban.moveCard at abgelehnt
    split at isKarte
    · next isTask =>
      rw [isTask, if_neg (by decide), if_pos rfl] at abgelehnt
      exact karte .task ⟨k, isKarte, von⟩ vehicle abgelehnt
    · split at isKarte
      · next isMessage =>
        rw [isMessage, if_neg (by decide), if_neg (by decide), if_pos rfl] at abgelehnt
        exact karte .message ⟨k, isKarte, von⟩ vehicle abgelehnt
      · cases isKarte

theorem updateColumnCardOrder_geordnet (geordnet : board.Geordnet) (zoneOrder : Option String) (columnId : Option Nat) :
    (updateColumnCardOrder json board zoneOrder columnId).Geordnet := by
  unfold updateColumnCardOrder
  split
  · split
    · exact geordnet
    · exact setCardOrder_geordnet geordnet _ _
  · exact geordnet

theorem moveCardEndpoint_geordnet (geordnet : board.Geordnet) (passt : v.Passt json board)
    (ok : moveCardEndpoint json board v = .ok board') : board'.Geordnet := by
  simp only [moveCardEndpoint, bind_eq_ok] at ok
  obtain ⟨⟨moved, angenommen⟩, isMoved, ok⟩ := ok
  split at ok
  · cases ok
    exact geordnet
  · cases ok
    exact updateColumnCardOrder_geordnet (moveCard_geordnet geordnet passt isMoved) _ _

end Verschieben

section Laeufe

variable {json : Json} {board : Board}

theorem step_geordnet (geordnet : board.Geordnet) (aktion : Aktion) (zulaessig : Zulaessig json board aktion) :
    (step json board aktion).Geordnet := by
  unfold step
  split
  swap
  · exact geordnet
  next board' ok =>
  cases aktion with
  | createTask incidentId title detail columnId vehicleId => exact createTask_geordnet geordnet zulaessig ok
  | createMessage incidentId title detail status dueAfterMin vehicleId => exact createMessage_geordnet geordnet zulaessig ok
  | createPerson incidentId name columnId vehicleId jetzt => exact createPerson_geordnet geordnet ok
  | attachVehicle incidentId vehicleMasterId columnId => exact attachVehicle_geordnet geordnet ok
  | createSection incidentId title columnKind now => exact createSection_geordnet geordnet ok
  | assignTask taskId vehicleId =>
    cases ok
    exact assignTask_geordnet geordnet zulaessig
  | assignMessage incidentId messageId vehicleId =>
    cases ok
    exact assignMessage_geordnet geordnet zulaessig
  | updatePerson incidentId personId name vehicleId =>
    cases ok
    exact updatePerson_geordnet geordnet incidentId personId name vehicleId
  | moveVehicle vehicleId columnId =>
    cases ok
    exact moveVehicle_geordnet geordnet zulaessig
  | moveCard v => exact moveCardEndpoint_geordnet geordnet zulaessig ok
  | deleteColumn incidentId columnId => exact deleteColumn_geordnet geordnet zulaessig ok

/-- A drop that `move_card` does not accept leaves the board as it is. -/
theorem step_abgelehnt {v : Verschiebung} (passt : v.Passt json board) (abgelehnt : ∀ board', v.moveCard board ≠ .ok (board', true)) :
    step json board (.moveCard v) = board := by
  unfold step
  split
  swap
  · rfl
  next board' ok =>
  simp only [antwort, moveCardEndpoint, bind_eq_ok] at ok
  obtain ⟨⟨moved, angenommen⟩, isMoved, ok⟩ := ok
  have isFalse : angenommen = false := by
    cases angenommen with
    | true => exact absurd isMoved (abgelehnt moved)
    | false => rfl
  subst isFalse
  have same := moveCard_abgelehnt isMoved
  subst same
  split at ok
  · cases ok
    rfl
  next noPerson =>
  cases ok
  unfold updateColumnCardOrder
  split
  · next text c isText isColumn =>
    obtain ⟨isZone, nonempty⟩ := Option.filter_eq_some_iff.mp isText
    split
    · rfl
    · next geladen =>
      cases exists? : moved.columns.get? c with
      | some col =>
        have there : (moved.columns.get? c).isSome = true := by
          rw [exists?]
          rfl
        rcases passt.2 text isZone (of_decide_eq_true nonempty) geladen c isColumn there with person | trifft
        · exact absurd ⟨person, rfl⟩ noPerson
        · exact absurd isMoved (trifft.angenommen isColumn)
      | none =>
        rw [setCardOrder, Keyed.modify_of_none exists?]
  · rfl

theorem run_geordnet (geordnet : board.Geordnet) {aktionen : List Aktion}
    (zulaessig : Meets (step json) (Zulaessig json) board aktionen) : (run (step json) board aktionen).Geordnet :=
  run_induction Board.Geordnet (fun _ aktion held ok => step_geordnet held aktion ok) geordnet zulaessig

end Laeufe

/-- After every run the cards stay in their incidents and none is lost, and a
move that is not accepted has left the board as it was. -/
theorem karten_bleiben (json : Json) (start : Board) (geordnet : start.Geordnet) (aktionen : List Aktion)
    (zulaessig : Meets (step json) (Zulaessig json) start aktionen) :
    (run (step json) start aktionen).Geordnet ∧
      ∀ erste v zweite, aktionen = erste ++ .moveCard v :: zweite →
        (∀ board', v.moveCard (run (step json) start erste) ≠ .ok (board', true)) →
          run (step json) start (erste ++ [.moveCard v]) = run (step json) start erste := by
  refine ⟨run_geordnet geordnet zulaessig, fun erste v zweite parts abgelehnt => ?_⟩
  rw [parts, meets_append] at zulaessig
  have passt : v.Passt json (run (step json) start erste) := zulaessig.2.1
  rw [run_append]
  exact step_abgelehnt passt abgelehnt

section Beispiel

def spalten (incidentId ab : Nat) : List IncidentColumn :=
  [{ id := ab, incidentId, code := "active", title := "Einheiten", isFixed := true },
    { id := ab + 1, incidentId, code := "tasks", title := "Aufträge", columnKind := "tasks", isFixed := true, displayOrder := 1 },
    { id := ab + 2, incidentId, code := "messages", title := "Meldungen", columnKind := "messages", isFixed := true,
      displayOrder := 2 },
    { id := ab + 3, incidentId, code := "rescued", title := "Gerettete Personen", columnKind := "rescued", isFixed := true,
      displayOrder := 3 }]

def zweiEinsaetze : Board where
  incidents := { rows := [⟨1, 0⟩, ⟨2, 0⟩], last := 2, nodup := by decide, fresh := by decide }
  columns := { rows := spalten 1 1 ++ spalten 2 5, last := 8, nodup := by decide, fresh := by decide }
  vehicles := .empty
  tasks := .empty
  messages := .empty
  persons := .empty

theorem zweiEinsaetze_geordnet : zweiEinsaetze.Geordnet :=
  ⟨fun _ member => (by cases member), fun art _ member => (by cases art <;> cases member), fun _ member => (by cases member),
    by decide⟩

/-- `json` on the texts of the runs below. -/
def jsonBeispiel : Json where
  loads text := if text = "[]" then .karten [] else .fehler
  dumps karten := "[" ++ String.intercalate ", " (karten.map fun (kind, id) =>
    "\x7b\"kind\": \"" ++ kind ++ "\", \"id\": " ++ toString id ++ "\x7d") ++ "]"

def einheiten : List Aktion := [.attachVehicle 1 11 none, .attachVehicle 2 12 none]

/-- A task goes to a new section and from there to a vehicle; the section is
deleted. -/
def ablauf : List Aktion :=
  einheiten ++ [.createSection 1 "Abschnitt Nord" "tasks" 0, .createTask 1 "Lage erkunden" none (some 9) none,
    .moveCard { incidentId := 1, kind := "task", uid := 1, columnId := some 2 }, .assignTask 1 (some 1), .deleteColumn 1 9]

theorem karten_bleiben_ablauf :
    ((run (step jsonBeispiel) zweiEinsaetze ablauf).tasks.get? 1).map (fun t => (t.columnId, t.vehicleId)) =
        some (some 2, some 1) ∧
      (run (step jsonBeispiel) zweiEinsaetze ablauf).columns.get? 9 = none ∧
      (run (step jsonBeispiel) zweiEinsaetze ablauf).Geordnet :=
  ⟨by decide +kernel, by decide +kernel,
    (karten_bleiben jsonBeispiel zweiEinsaetze zweiEinsaetze_geordnet ablauf (by decide +kernel)).1⟩

def fremd : List Aktion := einheiten ++ [.createTask 1 "Lage erkunden" none none none, .assignTask 1 (some 2)]

def verloren : List Aktion :=
  einheiten ++ [.createTask 1 "Lage erkunden" none none none,
    .moveCard { incidentId := 1, kind := "task", uid := 1, vehicleId := some 1 }, .assignTask 1 none]

def fehlwurf : Verschiebung := { incidentId := 1, kind := "task", uid := 7, columnId := some 5, zoneOrder := some "[]" }

/-- A task gets the vehicle of another incident, a task loses every place, and a
rejected move writes the order of a column of another incident. -/
theorem karten_verloren :
    zweiEinsaetze.Geordnet ∧
      ((run (step jsonBeispiel) zweiEinsaetze fremd).tasks.get? 1).map (fun t => (t.incidentId, t.vehicleId)) =
        some (1, some 2) ∧
      ((run (step jsonBeispiel) zweiEinsaetze fremd).vehicles.get? 2).map (·.incidentId) = some 2 ∧
      ((run (step jsonBeispiel) zweiEinsaetze verloren).tasks.get? 1).map (fun t => (t.columnId, t.vehicleId)) =
        some (none, none) ∧
      fehlwurf.moveCard zweiEinsaetze = .ok (zweiEinsaetze, false) ∧
      ((step jsonBeispiel zweiEinsaetze (.moveCard fehlwurf)).columns.get? 5).map (·.cardOrder) = some (some "[]") ∧
      (zweiEinsaetze.columns.get? 5).map (·.cardOrder) = some none :=
  ⟨zweiEinsaetze_geordnet, by decide +kernel, by decide +kernel, by decide +kernel, rfl, by decide +kernel, by decide +kernel⟩

end Beispiel

end Einsatzcockpit.Kanban
