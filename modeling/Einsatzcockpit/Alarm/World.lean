import Einsatzcockpit.Lib.Run
import Einsatzcockpit.Alarm.Outbox

namespace Einsatzcockpit.Alarm

inductive Resend where
  | nichtGefunden | nichtNoetig | ok

/-- The jobs `teams_manuell_erneut` is about. -/
def initialTeams (incidentId orgId : Nat) (job : IncidentAlarmJob) : Bool :=
  job.incidentId == incidentId && job.orgId == some orgId && job.channel == .teams && job.variant == ""

def resent (now : Zeit) (context : Context) (job : IncidentAlarmJob) : IncidentAlarmJob :=
  { job with
    status := .pending
    nextAttemptAt := now
    finishedAt := none
    leaseUntil := none
    lastError := none
    context }

/-- `teams_manuell_erneut` -/
def teamsManuellErneut (now : Zeit) (incidentId orgId userId : Nat) (db : Db) : Resend × Db :=
  match db.jobs.find? (initialTeams incidentId orgId) with
  | none => (.nichtGefunden, db)
  | some job =>
    if job.status ≠ .uncertain ∧ job.status ≠ .failed then (.nichtNoetig, db)
    else
      let kontext := { job.context with manualResend := true }
      let (db', rowcount) := db.updateJob job.id (some orgId)
        (fun row => row.channel == .teams && row.variant == "" && (row.status == .uncertain || row.status == .failed))
        (resent now kontext)
      if rowcount ≠ 1 then (.nichtNoetig, db)
      else
        (.ok, { db' with
          logs := db'.logs ++ [{ incidentId, level := .info, text := "Teams-Alarmkarte manuell erneut angefordert" }]
          audits := db'.audits ++ [{
            action := "incident.alarm_teams_resend"
            orgId := some orgId
            userId := some userId
            incidentId
            payload := .resend job.id true }] })

/-- The alarm branch of `OutboxAction.ausfuehren`: only a job that was never
claimed is queued again. -/
def haengendeFreigeben (now : Zeit) (orgId jobId : Nat) (db : Db) : Db :=
  let guard := fun job : IncidentAlarmJob =>
    (job.status == .pending || job.status == .retry) && job.attemptCount == 0 && job.finishedAt.isNone &&
      job.leaseUntil.any fun lease => decide (lease < now)
  (db.updateJob jobId (some orgId) guard fun job =>
    { job with status := .pending, nextAttemptAt := now, leaseUntil := none }).1

/-- `payload[key] = value` of a dict. -/
def dictSet {α β : Type*} [DecidableEq α] (entries : List (α × β)) (key : α) (value : β) : List (α × β) :=
  if entries.any (·.1 == key) then entries.map fun entry => if entry.1 = key then (key, value) else entry
  else entries ++ [(key, value)]

/-- What `_finish_if_done` reads: the result of each channel and whether the
alarm was suppressed from the start. Nothing while a job is open. -/
def finishRead (incidentId : Nat) (db : Db) : Option (List (Channel × JobStatus × Option String) × Bool) :=
  let jobs := db.jobs.filter fun job => job.incidentId == incidentId
  if jobs = [] ∨ jobs.any (fun job => !job.status.terminal) then none
  else
    some (jobs.foldl (fun entries job => dictSet entries job.channel (job.status, job.lastError)) [],
      jobs.all fun job => job.status == .suppressed && (orNone job.context.suppressedReason).isSome)

/-- The critical section of `_finish_if_done`. -/
def finishWrite (incidentId : Nat) (orgId userId : Option Nat)
    (payload : List (Channel × JobStatus × Option String)) (unterdrueckt : Bool) (db : Db) : Db :=
  if db.audits.any fun audit => audit.action == "incident.alarm_finished" && audit.incidentId == incidentId then db
  else
    { db with
      audits := db.audits ++ [
        { action := "incident.alarm_finished", orgId, userId, incidentId, payload := .finished payload }]
      logs := db.logs ++
        if unterdrueckt then [] else [{ incidentId, level := .info, text := "Alarmierung abgeschlossen" }] }

/-- Where a worker stands between two of its transactions; a worker is what
one outbox run does for one job. -/
inductive Phase where
  | idle
  | picked (jobId : Nat) (orgId : Option Nat) (channel : Channel) (now : Zeit)
  | recovered (jobId : Nat) (orgId : Option Nat) (channel : Channel) (now : Zeit)
  | claimed (jobId : Nat)
  | running (jobId generation : Nat)
  | sending (job : IncidentAlarmJob) (generation : Nat)
  | done (incidentId : Nat) (orgId userId : Option Nat)
  | closing (incidentId : Nat) (orgId userId : Option Nat)
      (payload : List (Channel × JobStatus × Option String)) (unterdrueckt : Bool)
  deriving DecidableEq

structure World where
  db : Db := {}
  workers : Nat → Phase := fun _ => .idle

def World.move (world : World) (worker : Nat) (phase : Phase) : World :=
  { world with workers := Function.update world.workers worker phase }

/-- One committed transaction or one read of a worker, with the clock and what
the environment supplies. -/
inductive Action where
  | incident (incident : Incident)
  | enqueue (now : Zeit) (incidentId : Nat) (orgId : Option Nat) (source : Option String)
      (triggeredByUserId : Option Nat) (baseUrl pushUrl grund : Option String)
  | nachalarm (now : Zeit) (incidentId : Nat) (orgId : Option Nat) (key : String) (codes : List String)
      (source baseUrl pushUrl grund : Option String)
  | pick (worker jobId : Nat) (now : Zeit)
  | recover (worker : Nat)
  | claim (worker : Nat)
  | generation (worker : Nat)
  | start (worker : Nat)
  | complete (worker : Nat) (now : Zeit) (result : SendResult)
  | settle (worker incidentId : Nat)
  | finishRead (worker : Nat)
  | finishWrite (worker : Nat)
  | die (worker : Nat)
  | resend (now : Zeit) (incidentId orgId userId : Nat)
  | freigeben (now : Zeit) (orgId jobId : Nat)

variable (umgebung : Umgebung)

/-- `_claim_incident_sync`, `_claim_once`, `_run_claimed_ablauf` and
`_finish_if_done`, cut at their commits and reads. -/
def workerStep (world : World) (worker : Nat) (action : Action) : World :=
  let db := world.db
  match action, world.workers worker with
  | .pick _ jobId now, .idle =>
    match db.job? jobId with
    | some job => world.move worker (.picked job.id job.orgId job.channel now)
    | none => world
  | .recover _, .picked jobId orgId channel now =>
    let db := if channel = .sms then db else recoverStale now jobId orgId db
    { world with db }.move worker (.recovered jobId orgId channel now)
  | .claim _, .recovered jobId orgId channel now =>
    let (db, won) := claimDue now jobId orgId channel db
    { world with db }.move worker (if won then .claimed jobId else .idle)
  | .generation _, .claimed jobId =>
    -- the commit expired the row, so the attribute is read again
    match db.job? jobId with
    | some job => world.move worker (.running jobId job.attemptCount)
    | none => world.move worker .idle
  | .start _, .running jobId generation =>
    match db.job? jobId with
    | none => world.move worker .idle
    | some job =>
      if job.status ≠ .sending ∨ job.attemptCount ≠ generation ∨ (db.incident? job.incidentId).isNone then
        world.move worker .idle
      else world.move worker (.sending job generation)
  | .complete _ now result, .sending job generation =>
    let (db, won) := complete now result job generation db
    { world with db }.move worker
      (if won then .done job.incidentId job.orgId job.context.triggeredByUserId else .idle)
  | .settle _ incidentId, .idle =>
    match db.incident? incidentId with
    | some incident => world.move worker (.done incident.id incident.primaryOrgId none)
    | none => world
  | .finishRead _, .done incidentId orgId userId =>
    match finishRead incidentId db with
    | some (payload, unterdrueckt) => world.move worker (.closing incidentId orgId userId payload unterdrueckt)
    | none => world.move worker .idle
  | .finishWrite _, .closing incidentId orgId userId payload unterdrueckt =>
    { world with db := finishWrite incidentId orgId userId payload unterdrueckt db }.move worker .idle
  | _, _ => world

def step (world : World) : Action → World
  | .incident incident =>
    if (world.db.incident? incident.id).isSome then world
    else { world with db := { world.db with incidents := world.db.incidents ++ [incident] } }
  | .enqueue now incidentId orgId source triggeredByUserId baseUrl pushUrl grund =>
    match world.db.incident? incidentId with
    | none => world
    | some incident =>
      { world with
        db := enqueueIncidentAlarm umgebung now incident orgId source triggeredByUserId baseUrl pushUrl grund
          world.db }
  | .nachalarm now incidentId orgId key codes source baseUrl pushUrl grund =>
    match (world.db.incident? incidentId).bind fun incident =>
        enqueueNachalarmierung umgebung now incident orgId key codes source baseUrl pushUrl grund world.db with
    | none => world
    | some (_, db) => { world with db }
  | .resend now incidentId orgId userId =>
    { world with db := (teamsManuellErneut now incidentId orgId userId world.db).2 }
  | .freigeben now orgId jobId => { world with db := haengendeFreigeben now orgId jobId world.db }
  | .die worker => world.move worker .idle
  | action@(.pick worker ..) | action@(.recover worker) | action@(.claim worker) | action@(.generation worker)
  | action@(.start worker) | action@(.complete worker ..) | action@(.settle worker _) | action@(.finishRead worker)
  | action@(.finishWrite worker) => workerStep world worker action

end Einsatzcockpit.Alarm
