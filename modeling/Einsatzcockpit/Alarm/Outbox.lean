import Einsatzcockpit.Lib.Table
import Einsatzcockpit.Basis
import Mathlib.Data.List.Sort

namespace Einsatzcockpit.Alarm

inductive Channel where
  | sms | push | teams | mail
  deriving DecidableEq

/-- `CHANNELS` -/
def channels : List Channel := [.sms, .push, .teams, .mail]

inductive JobStatus where
  | pending | sending | retry | sent | suppressed | failed | uncertain
  deriving DecidableEq

/-- `TERMINAL` -/
def JobStatus.terminal : JobStatus → Bool
  | sent | suppressed | failed | uncertain => true
  | _ => false

/-- `_LEASE` -/
def lease : Zeit := minuten 5

/-- The JSON column `context` of a job. -/
structure Context where
  source : Option String := none
  triggeredByUserId : Option Nat := none
  baseUrl : String := ""
  pushUrl : String := ""
  suppressedReason : Option String := none
  nachalarmierung : Bool := false
  codes : List String := []
  manualResend : Bool := false
  deriving DecidableEq

/-- A row of `incident_alarm_job`. -/
structure IncidentAlarmJob where
  id : Nat
  orgId : Option Nat
  incidentId : Nat
  channel : Channel
  variant : String := ""
  status : JobStatus := .pending
  attemptCount : Nat := 0
  nextAttemptAt : Zeit
  eventKey : Option String := none
  sendStartedAt : Option Zeit := none
  mayHaveSent : Bool := false
  leaseUntil : Option Zeit := none
  lastError : Option String := none
  context : Context := {}
  finishedAt : Option Zeit := none
  deriving DecidableEq

structure Incident where
  id : Nat
  primaryOrgId : Option Nat := none
  lisOperationNumber : Option String := none
  deriving DecidableEq

inductive Level where
  | info | warning

/-- A row of `incident_log`; the author is always "System" here. -/
structure IncidentLog where
  incidentId : Nat
  authorName : String := "System"
  level : Level
  text : String

inductive Payload where
  | resend (jobId : Nat) (manualResend : Bool)
  | finished (channels : List (Channel × JobStatus × Option String))

structure AuditLog where
  action : String
  orgId : Option Nat
  userId : Option Nat
  incidentId : Nat
  payload : Payload

structure Db where
  incidents : List Incident := []
  jobs : List IncidentAlarmJob := []
  logs : List IncidentLog := []
  audits : List AuditLog := []

def Db.incident? (db : Db) (id : Nat) : Option Incident :=
  db.incidents.find? fun incident => incident.id == id

/-- `db.get(IncidentAlarmJob, job_id)` -/
def Db.job? (db : Db) (id : Nat) : Option IncidentAlarmJob :=
  db.jobs.find? fun job => job.id == id

/-- `UPDATE incident_alarm_job ... WHERE id, org_id, guard` with its row count. -/
def Db.updateJob (db : Db) (id : Nat) (orgId : Option Nat) (guard : IncidentAlarmJob → Bool)
    (values : IncidentAlarmJob → IncidentAlarmJob) : Db × Nat :=
  let hit := fun job : IncidentAlarmJob => job.id == id && job.orgId == orgId && guard job
  ({ db with jobs := Relational.update hit values db.jobs }, db.jobs.countP hit)

/-- `due` of `_claim_once` -/
def due (now : Zeit) (job : IncidentAlarmJob) : Bool :=
  (job.status == .pending || job.status == .retry) && decide (job.nextAttemptAt ≤ now)

/-- `stale` of `_claim_once` -/
def stale (now : Zeit) (job : IncidentAlarmJob) : Bool :=
  job.status == .sending && job.leaseUntil.any fun lease => decide (lease < now)

def lostContact : String := "Worker-Kontakt nach Versandbeginn verloren; Ergebnis pruefen"

def recovered (now : Zeit) (job : IncidentAlarmJob) : IncidentAlarmJob :=
  { job with status := .uncertain, leaseUntil := none, finishedAt := some now, lastError := some lostContact }

/-- The first transaction of `_claim_once`, for every channel but SMS. -/
def recoverStale (now : Zeit) (jobId : Nat) (orgId : Option Nat) (db : Db) : Db :=
  (db.updateJob jobId orgId (stale now) (recovered now)).1

/-- `eligible` of `_claim_once` -/
def eligible (now : Zeit) (channel : Channel) (job : IncidentAlarmJob) : Bool :=
  due now job || (channel == .sms && stale now job)

def versandbeginn (now : Zeit) (channel : Channel) (job : IncidentAlarmJob) : IncidentAlarmJob :=
  if channel = .teams ∨ channel = .mail then { job with sendStartedAt := some now, mayHaveSent := true } else job

def claimed (now : Zeit) (channel : Channel) (job : IncidentAlarmJob) : IncidentAlarmJob :=
  versandbeginn now channel
    { job with status := .sending, leaseUntil := some (now + lease), attemptCount := job.attemptCount + 1 }

/-- The second transaction of `_claim_once`. -/
def claimDue (now : Zeit) (jobId : Nat) (orgId : Option Nat) (channel : Channel) (db : Db) : Db × Bool :=
  let (db', rowcount) := db.updateJob jobId orgId (eligible now channel) (claimed now channel)
  (db', rowcount == 1)

inductive Outcome where
  | sent | suppressed | failed | uncertain | retry
  deriving DecidableEq

def Outcome.status : Outcome → JobStatus
  | sent => .sent
  | suppressed => .suppressed
  | failed => .failed
  | uncertain => .uncertain
  | retry => .retry

/-- What the sender of a channel comes back with: its outcome and reason, or
the exception it raised. -/
inductive SendResult where
  | outcome (outcome : Outcome) (reason : Option String)
  | raised (type message : String) (statementError : Bool)

def delays : Channel → List Int
  | .teams => [5, 20, 60, 300, 900]
  | .push => [10, 60]
  | .sms => [10, 60]
  | .mail => [10, 60, 300]

/-- `_retry_at` -/
def retryAt (channel : Channel) (attempt : Nat) (now : Zeit) : Option Zeit :=
  let delay := match attempt with
    | 0 => (delays channel).getLast?
    | n + 1 => (delays channel)[n]?
  delay.map fun seconds => now + sekunden seconds

/-- `last_error` after an exception. -/
def errorText (type message : String) (statementError : Bool) : String :=
  let text := if statementError then "Datenbankfehler (Details unterdrueckt)" else message
  type ++ ": " ++ clip 200 (String.intercalate " " (words text))

/-- The job as `_run_claimed_ablauf` leaves it before its compare-and-set. -/
def settled (now : Zeit) (result : SendResult) (job : IncidentAlarmJob) : IncidentAlarmJob :=
  match result with
  | .raised type message statementError =>
    let retry := retryAt job.channel job.attemptCount now
    { job with
      status := if retry.isSome then .retry else .failed
      nextAttemptAt := retry.getD now
      finishedAt := if retry.isNone then some now else none
      lastError := some (errorText type message statementError)
      leaseUntil := none }
  | .outcome outcome reason =>
    { job with
      status := outcome.status
      nextAttemptAt := if outcome = .retry then now + sekunden 10 else job.nextAttemptAt
      finishedAt := if outcome.status.terminal then some now else none
      lastError := reason
      leaseUntil := none }

/-- The compare-and-set of `_run_claimed_ablauf` over status and generation. -/
def current (generation : Nat) (row : IncidentAlarmJob) : Bool :=
  row.status == .sending && row.attemptCount == generation

def written (job row : IncidentAlarmJob) : IncidentAlarmJob :=
  { row with
    status := job.status
    leaseUntil := none
    lastError := job.lastError
    nextAttemptAt := job.nextAttemptAt
    finishedAt := job.finishedAt }

def smsText (job : IncidentAlarmJob) : String :=
  let statusText := match job.status with
    | .suppressed => "uebersprungen"
    | .failed => "fehlgeschlagen"
    | _ => "unklar"
  if job.status = .sent then
    "Alarmierung SMS: gesendet" ++ (orNone job.lastError).elim "" fun error => s!" ({error})"
  else
    let grund := (orNone job.lastError).getD "keine Annahmebestaetigung"
    s!"Alarmierung SMS {statusText}: {grund}"

def teamsText (job : IncidentAlarmJob) : String :=
  let error := job.lastError.getD "None"
  if job.status = .sent then "Alarmierung Teams: gesendet"
  else if job.status = .uncertain then
    s!"Alarmierung Teams: Zustellung unklar, nicht automatisch wiederholt: {error}"
  else s!"Alarmierung Teams uebersprungen: {error}"

def mailText (job : IncidentAlarmJob) : String :=
  let error := job.lastError.getD "None"
  if job.status = .sent then
    "Alarmierung Mail: gesendet" ++ (orNone job.lastError).elim "" fun error => s!" ({error})"
  else if job.status = .failed then s!"Alarmierung Mail fehlgeschlagen: {error}"
  else s!"Alarmierung Mail uebersprungen: {error}"

/-- The text of the `incident_log` row of a settled job. -/
def logText (job : IncidentAlarmJob) : Option String :=
  match job.channel with
  | .sms => if job.status.terminal then some (smsText job) else none
  | .teams => some (teamsText job)
  | .mail => if job.status.terminal then some (mailText job) else none
  | .push => none

/-- The transaction that ends `_run_claimed_ablauf`; false when the
compare-and-set hit no row and the session was rolled back. -/
def complete (now : Zeit) (result : SendResult) (job : IncidentAlarmJob) (generation : Nat) (db : Db) :
    Db × Bool :=
  let job := settled now result job
  let (db', rowcount) := db.updateJob job.id job.orgId (current generation) (written job)
  if rowcount ≠ 1 then (db, false)
  else
    let level : Level := if job.status = .sent then .info else .warning
    let log := (logText job).map fun text => ({ incidentId := job.incidentId, level, text } : IncidentLog)
    ({ db' with logs := db'.logs ++ log.toList }, true)

end Einsatzcockpit.Alarm

namespace Einsatzcockpit.Alarm

/-- What the enqueuing functions take from outside: `str.lower`, the hex
digest of SHA-1 and `settings.effective_public_base_url`. -/
structure Umgebung where
  lower : String → String
  sha1 : String → String
  publicBaseUrl : String

variable (umgebung : Umgebung)

/-- `_event_key` -/
def eventKey (incident : Incident) (orgId : Option Nat) (channel : Channel) (variant : String) : String :=
  let nummer := (orNone (some (umgebung.lower (strip (incident.lisOperationNumber.getD ""))))).getD s!"inc{incident.id}"
  let name := match channel with
    | .sms => "sms"
    | .push => "push"
    | .teams => "teams"
    | .mail => "mail"
  let schluessel := fun nummer => s!"{orgId.getD 0}:{nummer}:{name}:{variant}"
  if (schluessel nummer).length > 160 then schluessel (umgebung.sha1 nummer) else schluessel nummer

/-- The unique keys (incident, channel, variant) and (organisation, event
key); a key with a NULL in it is no conflict. -/
def conflicts (job other : IncidentAlarmJob) : Bool :=
  (other.incidentId == job.incidentId && other.channel == job.channel && other.variant == job.variant) ||
    (other.orgId.isSome && other.eventKey.isSome && other.orgId == job.orgId && other.eventKey == job.eventKey)

/-- `db.add` and `db.flush` in a nested transaction: the row of the next id,
or nothing after an `IntegrityError`. -/
def addJob (job : IncidentAlarmJob) (db : Db) : Db :=
  if db.jobs.any (conflicts job) then db
  else { db with jobs := db.jobs ++ [{ job with id := db.jobs.length + 1 }] }

def newJob (now : Zeit) (incident : Incident) (orgId : Option Nat) (variant : String) (context : Context)
    (channel : Channel) : IncidentAlarmJob :=
  { id := 0
    orgId
    incidentId := incident.id
    channel
    variant
    status := if context.suppressedReason.isSome then .suppressed else .pending
    nextAttemptAt := now
    eventKey := some (eventKey umgebung incident orgId channel variant)
    context
    finishedAt := if context.suppressedReason.isSome then some now else none }

/-- The fields of `context` both enqueuing functions fill in. -/
def newContext (incidentId : Nat) (source baseUrl pushUrl grund : Option String) : Context :=
  { source
    baseUrl := (orNone baseUrl).getD umgebung.publicBaseUrl
    pushUrl := (orNone pushUrl).getD s!"/einsatz/{incidentId}"
    suppressedReason := grund }

/-- `enqueue_incident_alarm`; `grund` is what `alarm_unterdrueckung_grund` returns. -/
def enqueueIncidentAlarm (now : Zeit) (incident : Incident) (orgId : Option Nat) (source : Option String)
    (triggeredByUserId : Option Nat) (baseUrl pushUrl grund : Option String) (db : Db) : Db :=
  let existing := (db.jobs.filter fun job => job.incidentId == incident.id && job.variant == "").map (·.channel)
  let context := { newContext umgebung incident.id source baseUrl pushUrl grund with triggeredByUserId }
  let added := (channels.filter (· ∉ existing)).foldl
    (fun db channel => addJob (newJob umgebung now incident orgId "" context channel) db) db
  match grund with
  | some grund =>
    if existing = [] then
      { added with
        logs := added.logs ++ [{
          incidentId := incident.id
          level := .info
          text := s!"Keine Alarmierung (SMS/Push/Teams/Mail): {grund}" }] }
    else added
  | none => added

/-- `variant` of a follow-up alarm; the column holds forty characters. -/
def nachalarmVariant (namespace_ : String) (codes : List String) : String :=
  let joined := String.intercalate "+" codes
  let variant := s!"nach:{namespace_}:{joined}"
  if variant.length > 40 then s!"nach:{namespace_}:h{clip 16 (umgebung.sha1 joined)}" else variant

/-- `enqueue_nachalarmierung`: whether it added a job, nothing where the
incident is not one of the organisation. -/
def enqueueNachalarmierung (now : Zeit) (incident : Incident) (orgId : Option Nat) (key : String)
    (codes : List String) (source baseUrl pushUrl grund : Option String) (db : Db) : Option (Bool × Db) :=
  if !db.incidents.any (fun row => row.id == incident.id && row.primaryOrgId == orgId) then none
  else
    let jobs := db.jobs.filter fun job =>
      job.incidentId == incident.id && job.orgId == orgId && job.variant != ""
    let namespace_ := String.ofList (key.toList.takeWhile (· ≠ ':'))
    let seen := (jobs.filter fun job => s!"nach:{namespace_}:".toList.isPrefixOf job.variant.toList).flatMap
      (·.context.codes)
    -- exact tokens: r2 does not lock r20
    let codes := (codes.dedup.filter (· ∉ seen)).insertionSort (· ≤ ·)
    if codes = [] then some (false, db)
    else
      let variant := nachalarmVariant umgebung namespace_ codes
      let context :=
        { newContext umgebung incident.id source baseUrl pushUrl grund with nachalarmierung := true, codes }
      let open_ := channels.filter fun channel =>
        !jobs.any fun job => job.channel == channel && job.variant == variant
      let added := open_.foldl
        (fun db channel => addJob (newJob umgebung now incident orgId variant context channel) db) db
      some (decide (added.jobs.length ≠ db.jobs.length), added)

end Einsatzcockpit.Alarm
