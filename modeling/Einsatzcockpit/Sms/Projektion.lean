import Einsatzcockpit.Lib.Keyed
import Einsatzcockpit.Sms.Reachable

namespace Einsatzcockpit.Sms

open Relational

/-- A row of `sms_log`. -/
structure SmsLog where
  id : Nat
  orgId : Nat
  source : String
  incidentId : Option Nat := none
  variant : String := ""
  text : String
  sentAt : Zeit
  successCount : Nat := 0
  completedAt : Option Zeit := none

/-- A row of `sms_log_recipient` with the columns of the projection. -/
structure LogRecipient where
  id : Nat
  smsLogId : Nat
  phoneNumber : String
  success : Bool := false
  sentAt : Zeit
  provider : Option String := none
  gatewayLabel : Option String := none
  leaseUntil : Option Zeit := none
  dispatchJobId : Option String := none
  dispatchStatus : Option JobStatus := none

def Provider.text : Provider → String
  | eus => "eus"
  | gateway => "gateway"
  | other name => name

def JobStatus.text : JobStatus → String
  | queued => "queued"
  | claimed => "claimed"
  | dispatched => "dispatched"
  | acknowledged => "acknowledged"
  | sent => "sent"
  | failed => "failed"
  | uncertain => "uncertain"

/-- The filter of `pending` in `project`. -/
def LogRecipient.pending (row : LogRecipient) : Bool :=
  !row.success && (row.provider == some "ausstehend" || row.provider == some "sendet")

/-- A call of `project` between its transactions: the logs still before it. -/
structure Projektor where
  orgId : Nat := 0
  jobId : String := ""
  offen : List Nat := []

/-- The queue with the logs that show it and the projectors under way. -/
structure Stand where
  world : World := {}
  logs : Keyed SmsLog.id := .empty
  recipients : Keyed LogRecipient.id := .empty
  projektoren : Nat → Projektor := fun _ => {}

def Stand.zeilen (s : Stand) (logId : Nat) : List LogRecipient :=
  s.recipients.rows.filter fun row => row.smsLogId == logId

/-- A recipient of `queue_log` with what its `enqueue_in` reads and draws. -/
structure Eintrag where
  phone : String
  uuid : String
  now : Zeit
  finished : Zeit

section QueueLog

variable (sha256 : String → String)

/-- `key` of `queue_log` -/
def jobKey (log : SmsLog) (phone : String) : String :=
  let addressKey := clip 24 (sha256 phone)
  match log.source == "alarm", log.incidentId with
  | true, some incidentId =>
    if log.variant ≠ "" then s!"alarm:{incidentId}:{log.variant}:{addressKey}" else s!"alarm:{incidentId}:{addressKey}"
  | _, _ => s!"{log.source}:{log.id}:{addressKey}"

/-- `existing.get(phone)` -/
def Stand.existing (s : Stand) (logId : Nat) (phone : String) : Option LogRecipient :=
  s.recipients.rows.reverse.find? fun row => row.smsLogId == logId && row.phoneNumber == phone

def newRecipient (log : SmsLog) (phone : String) (id : Nat) : LogRecipient :=
  { id, smsLogId := log.id, phoneNumber := phone, sentAt := log.sentAt, provider := some "ausstehend" }

/-- What a recipient shows of the job that `enqueue_in` has given it. -/
def linked (jobId : String) (known : Option Job) (legacySending : Bool) (row : LogRecipient) : LogRecipient :=
  let row := { row with dispatchJobId := some jobId, dispatchStatus := known.map (·.status) }
  if legacySending then
    let success := known.any (·.status == .sent)
    { row with
      success
      provider :=
        if success then some (((known.bind (·.provider)).map Provider.text).getD "sent")
        else known.map (·.status.text)
      leaseUntil := none }
  else row

theorem linked_id (jobId : String) (known : Option Job) (legacySending : Bool) (row : LogRecipient) :
    (linked jobId known legacySending row).id = row.id := by
  unfold linked
  dsimp only
  split <;> rfl

/-- The update of `expires_at` for an alarm. -/
def expire (log : SmsLog) (jobId : String) (db : Db) : Db :=
  if log.source = "alarm" then
    { db with
      jobs := Relational.update (fun job => job.orgId == log.orgId && job.id == jobId && job.status == .queued)
        (fun job => { job with expiresAt := log.sentAt + stunden 1 }) db.jobs }
  else db

/-- The row of a recipient is queued; true for one of the old dispatcher whose
result is unknown. -/
def queueRow (chain : List Provider) (log : SmsLog) (eintrag : Eintrag) (row : LogRecipient) (s : Stand) :
    Except String (Stand × Bool) := do
  let legacySending := row.dispatchJobId.isNone && row.provider == some "sendet"
  let (jobId, db) ← enqueueIn sha256 eintrag.now eintrag.finished eintrag.uuid log.orgId (jobKey sha256 log eintrag.phone)
    eintrag.phone log.text chain none none legacySending s.world.db
  return ({ s with
    world := { s.world with db := expire log jobId db }
    recipients := s.recipients.modify row.id (linked jobId (db.job? jobId) legacySending) (linked_id _ _ _) },
    legacySending)

/-- One turn of the loop of `queue_log`. -/
def queueOne (chain : List Provider) (log : SmsLog) (state : Stand × Bool) (eintrag : Eintrag) :
    Except String (Stand × Bool) := do
  let (s, migratedUncertain) := state
  match s.existing log.id eintrag.phone with
  | some row =>
    if row.success || row.dispatchStatus.any JobStatus.terminal then return (s, migratedUncertain)
    else
      let (s, legacySending) ← queueRow sha256 chain log eintrag row s
      return (s, migratedUncertain || legacySending)
  | none =>
    let s := { s with recipients := s.recipients.insert (newRecipient log eintrag.phone) fun _ => rfl }
    let (s, legacySending) ← queueRow sha256 chain log eintrag (newRecipient log eintrag.phone s.recipients.last) s
    return (s, migratedUncertain || legacySending)

/-- `queue_log`; an error stands for a raised exception. -/
def queueLog (now : Zeit) (chain : List Provider) (log : SmsLog) (recipients : List Eintrag) (s : Stand) :
    Except String Stand := do
  let (s, migratedUncertain) ← recipients.foldlM (queueOne sha256 chain log) (s, false)
  if migratedUncertain && (s.zeilen log.id).all fun row => row.success || row.dispatchStatus.any JobStatus.terminal then
    return { s with
      logs := s.logs.modify log.id (fun log => { log with
        completedAt := some now
        successCount := (s.zeilen log.id).countP (·.success) }) fun _ => rfl }
  else return s

end QueueLog

/-- What `project` writes to a recipient of the job. -/
def shown (job : Job) (label : Nat → Option String) (row : LogRecipient) : LogRecipient :=
  { row with
    dispatchStatus := some job.status
    success := job.status == .sent
    provider :=
      match job.status with
      | .sent => job.provider.map Provider.text
      | .uncertain => some "uncertain"
      | .failed => some "verworfen"
      | _ => some "sendet"
    sentAt := job.acceptedAt.getD row.sentAt
    leaseUntil := job.leaseUntil
    gatewayLabel :=
      match job.gatewayId with
      | some gatewayId => label gatewayId
      | none => row.gatewayLabel }

/-- The first read of `project`: the logs with a recipient of the job. -/
def Stand.logIds (s : Stand) (orgId : Nat) (jobId : String) : List Nat :=
  ((s.recipients.rows.filter fun row =>
      row.dispatchJobId == some jobId && (s.logs.get? row.smsLogId).any (·.orgId == orgId)).map (·.smsLogId)).dedup

def abgerechnet (now : Zeit) (zeilen : List LogRecipient) (log : SmsLog) : SmsLog :=
  { log with
    successCount := zeilen.countP (·.success)
    completedAt := if zeilen.any LogRecipient.pending then none else some now }

/-- One turn of the loop of `project`, under the lock of the log: the job is
read again. -/
def projectLog (now : Zeit) (label : Nat → Option String) (job : Job) (logId : Nat) (s : Stand) : Stand :=
  let recipients := s.recipients.map (fun row =>
    if row.smsLogId = logId ∧ row.dispatchJobId = some job.id then shown job label row else row) fun row => by
      split <;> rfl
  let zeilen := recipients.rows.filter fun row => row.smsLogId == logId
  { s with recipients, logs := s.logs.modify logId (abgerechnet now zeilen) fun _ => rfl }

/-- What happens to the logs: a step of the queue, a new log (with recipients
that an older release has left without a job), a call of `queue_log`, and the
transactions of `project`. -/
inductive Schritt where
  | sms (action : Action)
  | neuesLog (log : SmsLog) (alt : List LogRecipient)
  | queueLog (now : Zeit) (chain : List Provider) (logId : Nat) (recipients : List Eintrag)
  | lies (projektor orgId : Nat) (jobId : String)
  | runde (projektor : Nat) (now : Zeit) (label : Nat → Option String)

def Stand.setze (s : Stand) (projektor : Nat) (zustand : Projektor) : Stand :=
  { s with projektoren := Function.update s.projektoren projektor zustand }

def altbestand (logId : Nat) (alt : List LogRecipient) (recipients : Keyed LogRecipient.id) : Keyed LogRecipient.id :=
  alt.foldl (fun recipients row => recipients.insert (fun id =>
    { row with id, smsLogId := logId, dispatchJobId := none, dispatchStatus := none }) fun _ => rfl) recipients

variable (sha256 : String → String)

def schritt (s : Stand) : Schritt → Stand
  | .sms action => { s with world := step sha256 s.world action }
  | .neuesLog log alt =>
    let logs := s.logs.insert (fun id => { log with id }) fun _ => rfl
    { s with logs, recipients := altbestand logs.last alt s.recipients }
  | .queueLog now chain logId recipients =>
    match s.logs.get? logId with
    | none => s
    | some log =>
      match queueLog sha256 now chain log recipients s with
      | .error _ => s
      | .ok s' => s'
  | .lies projektor orgId jobId =>
    -- a projector is one call
    if (s.projektoren projektor).offen ≠ [] then s
    else
      match (s.world.db.job? jobId).filter (·.orgId == orgId) with
      | none => s
      | some _ => s.setze projektor { orgId, jobId, offen := s.logIds orgId jobId }
  | .runde projektor now label =>
    let zustand := s.projektoren projektor
    match zustand.offen, s.world.db.job? zustand.jobId with
    | logId :: offen, some job => (projectLog now label job logId s).setze projektor { zustand with offen }
    | _, _ => s

end Einsatzcockpit.Sms
