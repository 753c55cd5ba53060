import Einsatzcockpit.Lis.Einheiten

namespace Einsatzcockpit.Lis

open Relational Transition Upsert

variable {κ ο ρ : Type} {quelle : Quelle κ ο ρ}

section Meldungen

def letzterText : List (String × LisTask) → Option String
  | [] => none
  | (_, task) :: rest => (letzterText rest).or (orNone (some task.text))

theorem orNone_leer : orNone (some "") = none := rfl

theorem orNone_some {text : String} (nonempty : text ≠ "") : orNone (some text) = some text := by simp [orNone, nonempty]

theorem mit_text (task : LisTask) (detail : Option String) :
    (if task.text ≠ "" ∧ detail ≠ some task.text then some task.text else detail) = (orNone (some task.text)).or detail := by
  by_cases leer : task.text = ""
  · simp [leer, orNone_leer]
  · rw [orNone_some leer]
    by_cases same : detail = some task.text
    · simp [leer, same]
    · simp [leer, same]

theorem messageSchema_update (messagesCol : Option Nat) (entry : String × LisTask) (row : Message) :
    (messageSchema messagesCol).update entry row = { row with detail := (orNone (some entry.2.text)).or row.detail } := by
  rw [← mit_text]
  simp only [messageSchema]
  split <;> rfl

theorem messageSchema_updates (messagesCol : Option Nat) (entries : List (String × LisTask)) (row : Message) :
    updates (messageSchema messagesCol) entries row = { row with detail := (letzterText entries).or row.detail } := by
  induction entries generalizing row with
  | nil => rfl
  | cons entry rest ih =>
    simp only [updates, List.foldl_cons] at ih ⊢
    rw [ih, messageSchema_update]
    simp only [letzterText, Option.or_assoc]

theorem or_or_self {α : Type} (a b : Option α) : a.or (a.or b) = a.or b := by cases a <;> rfl

theorem messageSchema_lawful (messagesCol : Option Nat) : Lawful (messageSchema messagesCol) where
  key_update := fun entry row => by rw [messageSchema_update]; rfl
  new_eq := fun entry => by
    refine ⟨{ (messageSchema messagesCol).new entry with detail := none }, rfl, ?_⟩
    rw [messageSchema_update, Option.or_none]
    rfl
  twice := fun entries row => by
    rw [messageSchema_updates, messageSchema_updates]
    dsimp only
    rw [or_or_self]

variable (quelle)

def letzteFrist : List (String × LisTask) → Option (Option Zeit)
  | [] => none
  | (_, task) :: rest => (letzteFrist rest).or (some (quelle.parseDatetime task.deadlineTime))

theorem taskSchema_update (tasksCol : Option Nat) (entry : String × LisTask) (row : Task) :
    (taskSchema quelle tasksCol).update entry row =
      { row with detail := (orNone (some entry.2.text)).or row.detail, dueAt := quelle.parseDatetime entry.2.deadlineTime } := by
  rw [← mit_text]
  simp only [taskSchema]
  split <;> split <;> simp_all

theorem taskSchema_updates (tasksCol : Option Nat) (entries : List (String × LisTask)) (row : Task) :
    updates (taskSchema quelle tasksCol) entries row =
      { row with detail := (letzterText entries).or row.detail, dueAt := (letzteFrist quelle entries).getD row.dueAt } := by
  induction entries generalizing row with
  | nil => rfl
  | cons entry rest ih =>
    simp only [updates, List.foldl_cons] at ih ⊢
    rw [ih, taskSchema_update]
    have frist : (letzteFrist quelle (entry :: rest)).getD row.dueAt =
        (letzteFrist quelle rest).getD (quelle.parseDatetime entry.2.deadlineTime) := by
      rw [letzteFrist]
      cases letzteFrist quelle rest <;> rfl
    rw [frist]
    simp only [letzterText, Option.or_assoc]

theorem taskSchema_lawful (tasksCol : Option Nat) : Lawful (taskSchema quelle tasksCol) where
  key_update := fun entry row => by rw [taskSchema_update]; rfl
  new_eq := fun entry => by
    refine ⟨{ (taskSchema quelle tasksCol).new entry with detail := none }, rfl, ?_⟩
    rw [taskSchema_update, Option.or_none]
    rfl
  twice := fun entries row => by
    rw [taskSchema_updates, taskSchema_updates]
    dsimp only
    rw [or_or_self]
    cases letzteFrist quelle entries <;> rfl

end Meldungen

section Protokoll

variable {stand : Stand ο}

def AntwortErledigt (quelle : Quelle κ ο ρ) (synced : List LisSyncedObject) (task : LisTask) : Prop :=
  ∀ id, orNone task.id = some id → quelle.parsePersonResponse task.description task.type ≠ none →
    { objType := "task_response", lisId := id } ∈ synced

def Document.Ablegbar (document : Document) : Prop := document.geladen = true → document.ablegbar = true

instance (document : Document) : Decidable document.Ablegbar := by
  unfold Document.Ablegbar
  infer_instance

def DokumentErledigt (synced : List LisSyncedObject) (document : Document) : Prop :=
  document.Ablegbar → ∀ id, orNone document.id = some id → document.geladen = true →
    { objType := "document", lisId := id } ∈ synced

theorem syncPersonResponse_rahmen (quelle : Quelle κ ο ρ) (stand : Stand ο) (task : LisTask) :
    ∃ logs more, syncPersonResponse quelle stand task = { stand with logs, synced := stand.synced ++ more } := by
  unfold syncPersonResponse
  split
  · split
    · exact ⟨stand.logs, [], by rw [List.append_nil]⟩
    · exact ⟨_, _, rfl⟩
  · exact ⟨stand.logs, [], by rw [List.append_nil]⟩

theorem syncPersonResponses_rahmen (quelle : Quelle κ ο ρ) (stand : Stand ο) (tasks : List LisTask) :
    ∃ logs more, syncPersonResponses quelle stand tasks = { stand with logs, synced := stand.synced ++ more } := by
  unfold syncPersonResponses
  induction tasks generalizing stand with
  | nil => exact ⟨stand.logs, [], by rw [List.append_nil]; rfl⟩
  | cons task rest ih =>
    obtain ⟨logs, more, first⟩ := syncPersonResponse_rahmen quelle stand task
    obtain ⟨logs', more', later⟩ := ih (syncPersonResponse quelle stand task)
    refine ⟨logs', more ++ more', ?_⟩
    rw [List.foldl_cons, later, first, ← List.append_assoc]

theorem syncPersonResponse_erledigt (stand : Stand ο) (task : LisTask) :
    AntwortErledigt quelle (syncPersonResponse quelle stand task).synced task := by
  intro id isId parsed
  obtain ⟨response, isResponse⟩ := Option.ne_none_iff_exists'.mp parsed
  unfold syncPersonResponse
  rw [isId, isResponse]
  dsimp only
  split
  · next already => exact List.contains_iff_mem.mp already
  · exact List.mem_append_right _ (List.mem_singleton_self _)

theorem syncPersonResponse_idle {task : LisTask} (erledigt : AntwortErledigt quelle stand.synced task) : syncPersonResponse quelle stand task = stand := by
  unfold syncPersonResponse
  split
  · next id parsed isId isParsed =>
    have known : alreadySynced stand "task_response" id = true :=
      List.contains_iff_mem.mpr (erledigt id isId (Option.ne_none_iff_exists'.mpr ⟨parsed, isParsed⟩))
    rw [if_pos known]
  · rfl

theorem syncPersonResponses_erledigt (stand : Stand ο) (tasks : List LisTask) :
    ∀ task ∈ tasks, AntwortErledigt quelle (syncPersonResponses quelle stand tasks).synced task := by
  have keeps : ∀ (stand : Stand ο) (task other : LisTask), AntwortErledigt quelle stand.synced other →
      AntwortErledigt quelle (syncPersonResponse quelle stand task).synced other := by
    intro stand task other held id isId parsed
    obtain ⟨logs, more, grown⟩ := syncPersonResponse_rahmen quelle stand task
    rw [grown]
    exact List.mem_append_left _ (held id isId parsed)
  exact @run_settles _ _ (syncPersonResponse quelle) (fun stand task => AntwortErledigt quelle stand.synced task)
    syncPersonResponse_erledigt keeps stand tasks

theorem syncPersonResponses_idle {tasks : List LisTask} (erledigt : ∀ task ∈ tasks, AntwortErledigt quelle stand.synced task) :
    syncPersonResponses quelle stand tasks = stand :=
  @run_idle _ _ (syncPersonResponse quelle) (fun stand task => AntwortErledigt quelle stand.synced task)
    (fun _ _ settled => syncPersonResponse_idle settled) stand tasks erledigt

theorem syncDocument_rahmen (quelle : Quelle κ ο ρ) (stand : Stand ο) (document : Document) :
    ∃ messages more, syncDocument quelle stand document =
      { stand with messages := stand.messages ++ messages, synced := stand.synced ++ more } := by
  unfold syncDocument
  split
  · exact ⟨[], [], by rw [List.append_nil, List.append_nil]⟩
  · split
    · exact ⟨[], [], by rw [List.append_nil, List.append_nil]⟩
    · next id _ _ =>
      split
      · exact ⟨_, _, rfl⟩
      · exact ⟨[{ documentMessage quelle stand.messagesCol document id with datei := none }], [], by rw [List.append_nil]⟩

theorem syncDocuments_rahmen (quelle : Quelle κ ο ρ) (stand : Stand ο) (documents : List Document) :
    ∃ messages more, syncDocuments quelle stand documents =
      { stand with messages := stand.messages ++ messages, synced := stand.synced ++ more } := by
  unfold syncDocuments
  induction documents generalizing stand with
  | nil => exact ⟨[], [], by rw [List.append_nil, List.append_nil]; rfl⟩
  | cons document rest ih =>
    obtain ⟨messages, more, first⟩ := syncDocument_rahmen quelle stand document
    obtain ⟨messages', more', later⟩ := ih (syncDocument quelle stand document)
    refine ⟨messages ++ messages', more ++ more', ?_⟩
    rw [List.foldl_cons, later, first, ← List.append_assoc, ← List.append_assoc]

theorem syncDocument_erledigt (quelle : Quelle κ ο ρ) (stand : Stand ο) (document : Document) :
    DokumentErledigt (syncDocument quelle stand document).synced document := by
  intro ablegbar id isId geladen
  unfold syncDocument
  rw [isId]
  dsimp only
  split
  · next known =>
    rcases known with already | fehlt
    · exact List.contains_iff_mem.mp already
    · rw [geladen] at fehlt
      cases fehlt
  · rw [if_pos (ablegbar geladen)]
    exact List.mem_append_right _ (List.mem_singleton_self _)

theorem syncDocuments_erledigt (quelle : Quelle κ ο ρ) (stand : Stand ο) (documents : List Document) :
    ∀ document ∈ documents, DokumentErledigt (syncDocuments quelle stand documents).synced document := by
  have keeps : ∀ (stand : Stand ο) (document other : Document), DokumentErledigt stand.synced other →
      DokumentErledigt (syncDocument quelle stand document).synced other := by
    intro stand document other held ablegbar id isId geladen
    obtain ⟨messages, more, grown⟩ := syncDocument_rahmen quelle stand document
    rw [grown]
    exact List.mem_append_left _ (held ablegbar id isId geladen)
  exact @run_settles _ _ (syncDocument quelle) (fun stand document => DokumentErledigt stand.synced document)
    (syncDocument_erledigt quelle) keeps stand documents

theorem syncDocuments_idle {documents : List Document} (erledigt : ∀ document ∈ documents, DokumentErledigt stand.synced document)
    (ablegbar : ∀ document ∈ documents, document.Ablegbar) : syncDocuments quelle stand documents = stand := by
  have idle : ∀ (stand : Stand ο) (document : Document),
      DokumentErledigt stand.synced document ∧ document.Ablegbar → syncDocument quelle stand document = stand := by
    rintro stand document ⟨settled, ablegbar⟩
    unfold syncDocument
    split
    · rfl
    · next id isId =>
      refine if_pos ?_
      by_cases geladen : document.geladen = true
      · exact Or.inl (List.contains_iff_mem.mpr (settled ablegbar id isId geladen))
      · exact Or.inr (Bool.eq_false_of_not_eq_true geladen)
  exact @run_idle _ _ (syncDocument quelle) (fun stand document => DokumentErledigt stand.synced document ∧ document.Ablegbar) idle
    stand documents fun document member => ⟨erledigt document member, ablegbar document member⟩

end Protokoll

section Wiederholung

variable [DecidableEq ρ] {stand : Stand ο} {payload : Payload κ} {jetzt spaeter : Zeit}

def Stand.ohneStatus (stand : Stand ο) : Stand ο :=
  { stand with vehicles := stand.vehicles.map IncidentVehicle.ohneStatus ohneStatus_id }

omit [DecidableEq ρ] in
theorem syncMessages_idle {tasks : List LisTask} {imported : Stand ο} {behind : List Message}
    (messages : imported.messages = (syncMessages quelle stand tasks).messages ++ behind)
    (major : imported.belongsToMajorIncident = stand.belongsToMajorIncident) (col : imported.messagesCol = stand.messagesCol) :
    syncMessages quelle imported tasks = imported := by
  unfold syncMessages at messages ⊢
  rw [major, col]
  split at messages
  · next belongs => rw [if_pos belongs]
  · next own =>
    rw [if_neg own]
    dsimp only at messages ⊢
    rw [messages, upserts_again (messageSchema_lawful stand.messagesCol), ← messages, ← major, ← col]

omit [DecidableEq ρ] in
theorem syncTasks_idle {tasks : List LisTask} {imported : Stand ο} (rows : imported.tasks = (syncTasks quelle stand tasks).tasks)
    (major : imported.belongsToMajorIncident = stand.belongsToMajorIncident) (col : imported.tasksCol = stand.tasksCol) :
    syncTasks quelle imported tasks = imported := by
  unfold syncTasks at rows ⊢
  rw [major, col]
  split at rows
  · next belongs => rw [if_pos belongs]
  · next own =>
    rw [if_neg own]
    dsimp only at rows ⊢
    rw [rows, upserts_upserts (taskSchema_lawful quelle stand.tasksCol), ← rows, ← major, ← col]

omit [DecidableEq ρ] in
theorem syncMessages_rahmen (quelle : Quelle κ ο ρ) (stand : Stand ο) (tasks : List LisTask) :
    ∃ messages, syncMessages quelle stand tasks = { stand with messages } := by
  unfold syncMessages
  split
  · exact ⟨_, rfl⟩
  · exact ⟨_, rfl⟩

omit [DecidableEq ρ] in
theorem syncTasks_rahmen (quelle : Quelle κ ο ρ) (stand : Stand ο) (tasks : List LisTask) :
    ∃ rows, syncTasks quelle stand tasks = { stand with tasks := rows } := by
  unfold syncTasks
  split
  · exact ⟨_, rfl⟩
  · exact ⟨_, rfl⟩

structure Importiert (quelle : Quelle κ ο ρ) (jetzt : Zeit) (payload : Payload κ) (imported : Stand ο) : Prop where
  messages : syncMessages quelle imported payload.tasks = imported
  tasks : syncTasks quelle imported payload.tasks = imported
  responses : syncPersonResponses quelle imported payload.tasks = imported
  units : ∀ unit ∈ payload.units, ∃ masterId, UnitErledigt quelle (StatusErledigt quelle jetzt unit) imported unit masterId
  documents : ∀ document ∈ payload.documents, DokumentErledigt imported.synced document

theorem importiere_importiert (unterschieden : Unterschieden quelle stand.masters payload.units)
    (passen : ∀ unit ∈ payload.units, unit.Passt quelle) (vergangen : ∀ p ∈ stand.positions, p.receivedAt ≤ jetzt) :
    Importiert quelle jetzt payload (importiere quelle jetzt stand payload) := by
  obtain ⟨messages, isM⟩ := syncMessages_rahmen quelle stand payload.tasks
  obtain ⟨rows, isT⟩ := syncTasks_rahmen quelle (syncMessages quelle stand payload.tasks) payload.tasks
  obtain ⟨logs, more, isR⟩ := syncPersonResponses_rahmen quelle
    (syncTasks quelle (syncMessages quelle stand payload.tasks) payload.tasks) payload.tasks
  have answered := @syncPersonResponses_erledigt _ _ _ quelle
    (syncTasks quelle (syncMessages quelle stand payload.tasks) payload.tasks) payload.tasks
  unfold importiere
  dsimp only
  generalize isReported : syncPersonResponses quelle
    (syncTasks quelle (syncMessages quelle stand payload.tasks) payload.tasks) payload.tasks = gemeldet at isR answered ⊢
  have masters : gemeldet.masters = stand.masters := by rw [isR, isT, isM]
  have positions : gemeldet.positions = stand.positions := by rw [isR, isT, isM]
  have settled := @syncVehicleStatus_erledigt _ _ _ quelle _ gemeldet jetzt payload.units (masters ▸ unterschieden) passen
    (positions ▸ vergangen)
  obtain ⟨masters', vehicles, positions', isV⟩ := syncVehicleStatus_rahmen quelle jetzt gemeldet payload.units
  have stored := syncDocuments_erledigt quelle (syncVehicleStatus quelle jetzt gemeldet payload.units) payload.documents
  obtain ⟨behind, more', isD⟩ := syncDocuments_rahmen quelle (syncVehicleStatus quelle jetzt gemeldet payload.units) payload.documents
  refine ⟨?_, ?_, ?_, ?_, stored⟩
  · refine @syncMessages_idle _ _ _ quelle stand _ _ behind ?_ ?_ ?_
    · rw [isD, isV, isR, isT]
    · rw [isD, isV, isR, isT, isM]
    · rw [isD, isV, isR, isT, isM]
  · refine @syncTasks_idle _ _ _ quelle (syncMessages quelle stand payload.tasks) _ _ ?_ ?_ ?_
    · rw [isD, isV, isR]
    · rw [isD, isV, isR, isT]
    · rw [isD, isV, isR, isT]
  · refine syncPersonResponses_idle fun task member id isId parsed => ?_
    rw [isD, isV]
    exact List.mem_append_left _ (answered task member id isId parsed)
  · intro unit member
    obtain ⟨masterId, erledigt⟩ := settled unit member
    refine ⟨masterId, ?_⟩
    rw [isD]
    cases masterId <;> exact erledigt

/-- To process a payload again creates nothing and changes nothing, but for the
status of a vehicle that was kept for a while. -/
theorem import_idempotent (stand : Stand ο) (payload : Payload κ) (jetzt spaeter : Zeit)
    (unterschieden : Unterschieden quelle stand.masters payload.units) (passen : ∀ unit ∈ payload.units, unit.Passt quelle)
    (ablegbar : ∀ document ∈ payload.documents, document.Ablegbar) (vergangen : ∀ p ∈ stand.positions, p.receivedAt ≤ jetzt) :
    let imported := importiere quelle jetzt stand payload
    (importiere quelle spaeter imported payload).ohneStatus = imported.ohneStatus ∧
      ((∀ v ∈ imported.vehicles.rows, lokalStatusGeschuetzt jetzt v = true → lokalStatusGeschuetzt spaeter v = true) →
        importiere quelle spaeter imported payload = imported) := by
  intro imported
  have settled : Importiert quelle jetzt payload imported := importiere_importiert unterschieden passen vergangen
  have again : importiere quelle spaeter imported payload =
      syncDocuments quelle (syncVehicleStatus quelle spaeter imported payload.units) payload.documents := by
    unfold importiere
    rw [settled.messages, settled.tasks, settled.responses]
  have documents : ∀ vehicles, syncDocuments quelle { imported with vehicles } payload.documents = { imported with vehicles } :=
    fun vehicles => syncDocuments_idle settled.documents ablegbar
  refine ⟨?_, fun bleibt => ?_⟩
  · have anyStatus : ∀ unit ∈ payload.units, ∃ masterId, UnitErledigt quelle (fun _ => True) imported unit masterId := by
      intro unit member
      obtain ⟨masterId, erledigt⟩ := settled.units unit member
      exact ⟨masterId, erledigt.mono fun _ _ _ => trivial⟩
    obtain ⟨vehicles, written, gleich⟩ := syncVehicleStatus_ruht spaeter anyStatus
    rw [again, written, documents]
    exact congrArg (fun vehicles => { imported with vehicles }) gleich
  · have stillStatus : ∀ unit ∈ payload.units, ∃ masterId,
        UnitErledigt quelle (StatusErledigt quelle spaeter unit) imported unit masterId := by
      intro unit member
      obtain ⟨masterId, erledigt⟩ := settled.units unit member
      exact ⟨masterId, erledigt.mono fun v isRow held status isStatus => (held status isStatus).imp_right (bleibt v isRow)⟩
    rw [again, syncVehicleStatus_idle stillStatus]
    exact documents imported.vehicles

end Wiederholung

section Beispiel

/-- What the parsers give for the texts below; coordinates are taken as they are. -/
def lesung : Quelle (Int × Int) (Int × Int) (Int × Int) where
  lower := fun s => String.ofList (s.toList.map Char.toLower)
  upper := fun s => String.ofList (s.toList.map Char.toUpper)
  parseDatetime := fun text => if text = some "2026-03-01T08:30:00" then some (sekunden 1772353800) else none
  parsePersonResponse := fun text type =>
    if type = some "UNITSTATUSHISTORY" ∧ text = some "Huber.Anna: Zugesagt Ankunftszeit 08:15" then
      some { person := "Huber.Anna", role := none, status := "Zugesagt", arrivalTime := some "08:15" }
    else none
  coords := some
  rund := id
  rootOrgMap := fun id => if id = "o7" then some "Feuerwehr Lauterach" else none
  syncExternalUnits := true

def acht : Zeit := sekunden 1772352000

/-- A vehicle stands on the board, and its status has been set here a moment ago. -/
def vorher : Stand (Int × Int) where
  masters := {
    rows := [{ id := 1, code := "TLF", lisReferenceId := some "r1" }, { id := 2, code := "KDOF", lisReferenceId := some "r2" }]
    last := 2
    nodup := by decide
    fresh := by decide }
  vehicles := {
    rows := [{
      id := 1, columnId := 3, vehicleMasterId := 1, unitStatus := "Am Einsatzort", lisPushedStatus := some "S5",
      lisPushedAt := some (acht - sekunden 10) }]
    last := 1
    nodup := by decide
    fresh := by decide }
  messagesCol := some 1
  tasksCol := some 2
  activeCol := some 3

def tankwagen : Unit (Int × Int) where
  id := some "u1"
  referenceId := some "r1"
  unitType := some "Vehicle"
  statusLabel := some "S4 - zum Einsatzort"
  location := some (47465, 9752)

def lauterach : Unit (Int × Int) where
  id := some "u9"
  referenceId := some "r9"
  unitType := some "Vehicle"
  statusLabel := some "S5 - am Einsatzort"
  name := some "Lauterach RLF"
  aliasName := some "RLF"
  organizationId := some "o7"

def meldungen : Payload (Int × Int) where
  tasks := [
    { id := some "t1", type := some "DefaultTask", number := some "1", description := some "Wasser",
      deadlineTime := some "2026-03-01T08:30:00" },
    { id := some "t2", type := some "UNITSTATUSHISTORY", description := some "Huber.Anna: Zugesagt Ankunftszeit 08:15" },
    { id := some "t3", description := some "Lage stabil" }]
  units := [tankwagen, lauterach]
  documents := [{ id := some "d1", name := some "Lageplan", fileExtension := some "pdf" }]

def Stand.anzahl {ο : Type} (stand : Stand ο) : List Nat :=
  [stand.messages.length, stand.tasks.length, stand.logs.length, stand.masters.rows.length, stand.vehicles.rows.length,
    stand.positions.length]

theorem import_idempotent_ablauf :
    (importiere lesung acht vorher meldungen).anzahl = [2, 1, 1, 3, 2, 1] ∧
      importiere lesung (acht + sekunden 5) (importiere lesung acht vorher meldungen) meldungen =
        importiere lesung acht vorher meldungen :=
  ⟨by decide +kernel,
    (import_idempotent vorher meldungen acht (acht + sekunden 5) (by decide +kernel) (by decide +kernel) (by decide +kernel)
      (by decide +kernel)).2 (by decide +kernel)⟩

def zweimal : Payload (Int × Int) where
  units := [tankwagen, { tankwagen with id := some "u2", location := some (47466, 9753) }]

def gescheitert : Payload (Int × Int) where
  documents := [{ id := some "d1", name := some "Lageplan", ablegbar := false }]

/-- A reference and an organisation that are longer than what is stored of them. -/
def lang : Payload (Int × Int) where
  units := [{ lauterach with referenceId := some (String.ofList (List.replicate 61 'r')), organizationId := some "lang" }]

def lesungLang : Quelle (Int × Int) (Int × Int) (Int × Int) :=
  { lesung with rootOrgMap := fun _ => some (String.ofList (List.replicate 151 'f')) }

/-- A second processing changes the status of a vehicle that was kept in the
first; it adds positions where two units mean one vehicle, a message where a
document cannot be stored, and a vehicle where neither what is stored of its
reference nor of its organisation's name is all of it. -/
theorem import_wiederholt :
    ((importiere lesung acht vorher meldungen).vehicles.rows.map (·.unitStatus) = ["Am Einsatzort", "Am Einsatzort"] ∧
      (importiere lesung (acht + sekunden 60) (importiere lesung acht vorher meldungen) meldungen).vehicles.rows.map (·.unitStatus) =
        ["Einsatz übernommen", "Am Einsatzort"]) ∧
      ((importiere lesung acht vorher zweimal).anzahl = [0, 0, 0, 2, 1, 2] ∧
        (importiere lesung (acht + sekunden 5) (importiere lesung acht vorher zweimal) zweimal).anzahl = [0, 0, 0, 2, 1, 4]) ∧
      ((importiere lesung acht vorher gescheitert).anzahl = [1, 0, 0, 2, 1, 0] ∧
        (importiere lesung (acht + sekunden 5) (importiere lesung acht vorher gescheitert) gescheitert).anzahl = [2, 0, 0, 2, 1, 0]) ∧
      (importiere lesungLang acht vorher lang).anzahl = [0, 0, 0, 3, 2, 0] ∧
      (importiere lesungLang (acht + sekunden 5) (importiere lesungLang acht vorher lang) lang).anzahl = [0, 0, 0, 4, 3, 0] := by
  refine ⟨⟨?_, ?_⟩, ⟨?_, ?_⟩, ⟨?_, ?_⟩, ?_, ?_⟩ <;> decide +kernel

end Beispiel

end Einsatzcockpit.Lis
