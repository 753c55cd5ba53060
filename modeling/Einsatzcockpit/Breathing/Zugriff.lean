import Einsatzcockpit.Lib.EventLog
import Einsatzcockpit.Breathing.Service

namespace Einsatzcockpit.Breathing

inductive Ausfall where
  | deploymentFlush | crewFlush | commit
  deriving DecidableEq

/-- What a request can raise: an error of the service, or one of the database. -/
inductive Ausnahme where
  | fehler (fehler : Fehler)
  | datenbank

/-- The troop as the database holds it, and as the session's objects do. -/
structure DbSession where
  committed : BreathingTroop
  objects : BreathingTroop

def DbSession.load (troop : BreathingTroop) : DbSession := ⟨troop, troop⟩

def DbSession.rollback (db : DbSession) : DbSession := { db with objects := db.committed }

abbrev DbM := ExceptT Ausnahme (StateM DbSession)

namespace DbM

def objects : DbM BreathingTroop := return (← get).objects

def write (change : BreathingTroop → BreathingTroop) : DbM Unit :=
  modify fun db => { db with objects := change db.objects }

def flush (fails : Bool) : DbM Unit := do
  if fails then
    modify DbSession.rollback
    throw .datenbank

def commit (fails : Bool) : DbM Unit := do
  flush fails
  modify fun db => { db with committed := db.objects }

def raise (fehler : Fehler) : DbM Unit := throw (.fehler fehler)

def exec {α : Type} (request : DbM α) (db : DbSession) : Except Ausnahme α × DbSession := request.run.run db

variable {α β : Type} (db : DbSession)

theorem exec_bind (request : DbM α) (next : α → DbM β) : (request >>= next).exec db =
    match request.exec db with
    | (.ok a, later) => (next a).exec later
    | (.error ausnahme, later) => (.error ausnahme, later) := by
  show ((request >>= next).run.run db : Except Ausnahme β × DbSession) = _
  rw [ExceptT.run_bind, StateT.run_bind]
  unfold exec
  rcases request.run.run db with ⟨answer, later⟩
  cases answer <;> rfl

@[simp] theorem exec_objects : objects.exec db = (.ok db.objects, db) := rfl

@[simp] theorem exec_write (change : BreathingTroop → BreathingTroop) :
    (write change).exec db = (.ok (), { db with objects := change db.objects }) := rfl

@[simp] theorem exec_flush (fails : Bool) :
    (flush fails).exec db = if fails then (.error .datenbank, db.rollback) else (.ok (), db) := by
  cases fails <;> rfl

end DbM

/-- The arguments of `redeploy_troop`. -/
structure ErneutData where
  membersData : List MemberData
  taskText : Option String := none
  locationText : Option String := none
  plannedDurationMin : Option Nat := none
  bottlePreset : Option String := none

def withDeployment (keys : Schluessel) (troop : BreathingTroop) : BreathingTroop :=
  { troop with deployments := troop.deployments ++ [archived keys.deployment troop] }

/-- What follows the first flush: the records of the cycle move to the new row,
and the troop is reset. -/
def prepared (keys : Schluessel) (filledMembers : List CheckedMember) (data : ErneutData) (troop : BreathingTroop) :
    BreathingTroop :=
  { redeployed keys filledMembers data.taskText data.locationText data.plannedDurationMin data.bottlePreset troop with
    deployments := troop.deployments }

/-- `redeploy_troop`, statement by statement. -/
def redeployTroopDb (ausfall : Option Ausfall) (keys : Schluessel) (data : ErneutData) : DbM Unit := do
  let troop ← DbM.objects
  if troop.status ≠ .erholt then
    DbM.raise (.valueError "Nur ein erholter Atemschutztrupp kann erneut eingesetzt werden.")
  else match validatedMembersData data.membersData with
  | .error fehler => DbM.raise fehler
  | .ok filledMembers => do
    DbM.write (withDeployment keys)
    DbM.flush (ausfall = some .deploymentFlush)
    DbM.write (prepared keys filledMembers data)
    DbM.flush (ausfall = some .crewFlush)

/-- The fields `redeploy_troop_view` sets by itself, each where the form has
it. -/
structure ErneutForm where
  name : Option String := none
  unitName : Option String := none
  ueberwacherName : Option String := none
  angriffsweg : Option String := none
  funkkanal : Option String := none
  vehicleId : Option (Option Nat) := none
  isSicherheitstrupp : Option Bool := none
  nameInForm : Bool := false

def ErneutForm.write (form : ErneutForm) (userId : Nat) (troop : BreathingTroop) : BreathingTroop :=
  { troop with
    name := (form.name.map strip).getD troop.name
    unitName := form.unitName.map strip <|> troop.unitName
    ueberwacherName := form.ueberwacherName.map strip <|> troop.ueberwacherName
    angriffsweg := form.angriffsweg.map strip <|> troop.angriffsweg
    funkkanal := form.funkkanal.map strip <|> troop.funkkanal
    vehicleId := form.vehicleId.getD troop.vehicleId
    isSicherheitstrupp := if form.isSicherheitstrupp.isSome || form.nameInForm then form.isSicherheitstrupp.getD false
      else troop.isSicherheitstrupp
    ueberwacherUserId := if form.ueberwacherName.isSome then some userId else troop.ueberwacherUserId }

def redeployTroopView (ausfall : Option Ausfall) (keys : Schluessel) (data : ErneutData) (form : ErneutForm)
    (userId : Nat) : DbM Unit := do
  redeployTroopDb ausfall keys data
  DbM.write (form.write userId)
  DbM.commit (ausfall = some .commit)

/-- The session is closed after the request, so what is not committed is gone. -/
def served (request : DbM Unit) (troop : BreathingTroop) : BreathingTroop :=
  (request.exec (.load troop)).2.committed

/-- The form of `troop_details_view`, a field that is sent empty as `""`. -/
structure Details where
  angriffsweg : Option String := none
  funkkanal : Option String := none
  ueberwacherName : Option String := none
  uebernehmen : Bool := false

/-- `value.strip()[:n] or None` where the form has the field. -/
def detail (n : Nat) (value old : Option String) : Option String :=
  match value with
  | none => old
  | some text => orNone (some (clip n (strip text)))

def Details.write (details : Details) (userId : Nat) (label : String) (troop : BreathingTroop) : BreathingTroop :=
  { troop with
    ueberwacherUserId := if details.uebernehmen then some userId else troop.ueberwacherUserId
    angriffsweg := detail 300 details.angriffsweg troop.angriffsweg
    funkkanal := detail 50 details.funkkanal troop.funkkanal
    ueberwacherName := detail 150
      (details.ueberwacherName <|> if details.uebernehmen then some label else none) troop.ueberwacherName }

def TroopMember.forget (memberId : Nat) (member : TroopMember) : TroopMember :=
  if member.memberId = some memberId then { member with memberId := none } else member

def PressureLog.forget (memberId : Nat) (log : PressureLog) : PressureLog :=
  if log.memberId = some memberId then { log with memberId := none } else log

def PressureLog.forgetUser (userId : Nat) (log : PressureLog) : PressureLog :=
  if log.recordedByUserId = some userId then { log with recordedByUserId := none } else log

/-- `bulk_delete_members` clears the references to a deleted member. -/
def BreathingTroop.ohneMitglied (memberId : Nat) (troop : BreathingTroop) : BreathingTroop :=
  { troop with
    members := troop.members.map (·.forget memberId)
    pressureLogs := troop.pressureLogs.map (·.forget memberId) }

def BreathingTroop.ohneBenutzer (userId : Nat) (troop : BreathingTroop) : BreathingTroop :=
  { troop with pressureLogs := troop.pressureLogs.map (·.forgetUser userId) }

/-- What writes to the records of a troop: its endpoints, and the deletions of
the administration that clear the references to a person. -/
inductive Zugriff where
  | request (request : Request)
  | erneutEinsetzen (ausfall : Option Ausfall) (skipped : Schluessel) (data : ErneutData) (form : ErneutForm)
      (userId : Nat)
  | details (details : Details) (userId : Nat) (label : String)
  | standort (locationText : String)
  | auftrag (taskText : String)
  | mitgliedGeloescht (memberId : Nat)
  | geraetGeloescht (userId : Nat)

variable (fl : Gleitkomma)

def zugreifen (stand : Stand) : Zugriff → Stand
  | .request request => step fl stand request
  | .erneutEinsetzen ausfall skipped data form userId =>
    let keys := stand.next.skip skipped
    let troop := served (redeployTroopView ausfall keys data form userId) stand.troop
    ⟨troop, keys.after stand.troop troop⟩
  | .details details userId label => { stand with troop := details.write userId label stand.troop }
  | .standort locationText => { stand with troop := { stand.troop with locationText := orNone (some (strip locationText)) } }
  | .auftrag taskText => { stand with troop := { stand.troop with taskText := orNone (some (strip taskText)) } }
  | .mitgliedGeloescht memberId => { stand with troop := stand.troop.ohneMitglied memberId }
  | .geraetGeloescht userId => { stand with troop := stand.troop.ohneBenutzer userId }

end Einsatzcockpit.Breathing
