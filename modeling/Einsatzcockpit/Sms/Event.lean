import Einsatzcockpit.Sms.Prepare

namespace Einsatzcockpit.Sms

inductive Outcome where
  | sent | failed | uncertain
  deriving DecidableEq

def Outcome.status : Outcome → JobStatus
  | sent => .sent
  | failed => .failed
  | uncertain => .uncertain

def Outcome.attempt : Outcome → AttemptOutcome
  | sent => .sent
  | failed => .failed
  | uncertain => .uncertain

def fallsBack (job : Job) (outcome : Outcome) (notSent : Bool) : Bool :=
  outcome == .failed && notSent && job.providerIndex + 1 < job.providers.length

/-- `_complete` -/
def complete (now : Zeit) (outcome : Outcome) (error : Option String) (notSent : Bool) (job : Job)
    (attempt : Attempt) : Job × Attempt :=
  let attempt' := { attempt with outcome := outcome.attempt, error := error, finishedAt := some now }
  if fallsBack job outcome notSent then
    ({ job with
        providerIndex := job.providerIndex + 1
        status := .queued
        mayHaveSent := false
        claimToken := none
        leaseUntil := none
        gatewayId := none
        connectionId := none
        nextAttemptAt := now
        error := error },
      attempt')
  else
    ({ job with
        status := outcome.status
        error := error
        finishedAt := some now
        leaseUntil := none
        acceptedAt := if outcome = .sent then some now else job.acceptedAt
        mayHaveSent := if notSent then false else job.mayHaveSent },
      attempt')

def eusTarget (orgId : Nat) (jobId token : String) (db : Db) : Option (Job × Attempt) :=
  match (db.job? jobId).filter fun job => job.orgId == orgId && job.claimToken == some token &&
      job.status.active with
  | none => none
  | some job => (db.attempt? orgId jobId job.generation).map fun attempt => (job, attempt)

/-- `_eus_result` -/
def eusResult (now : Zeit) (orgId : Nat) (jobId token : String) (outcome : Outcome) (error : Option String)
    (safe : Bool) (db : Db) : Db :=
  match eusTarget orgId jobId token db with
  | none => db
  | some (job, attempt) =>
    let (job', attempt') := complete now outcome error safe job attempt
    (db.setJob job').setAttempt attempt'

/-- What `send_via_eus` can end in, as `drive` passes it on. -/
inductive EusOutcome where
  | accepted
  | rejected (safeNotSent : Bool)
  | notConnected
  | unknown

/-- The arguments with which `drive` reports the end of an EUS call. -/
def EusOutcome.result : EusOutcome → Outcome × Option String × Bool
  | accepted => (.sent, none, false)
  | rejected true => (.failed, some "eus_rejected", true)
  | rejected false => (.uncertain, some "eus_result_unknown", false)
  | notConnected => (.failed, some "eus_not_connected", true)
  | unknown => (.uncertain, some "eus_result_unknown", false)

/-- The third component of `event`'s result. -/
inductive Reply where
  | job (status : JobStatus)
  | superseded

structure EventResult where
  changed : Bool := false
  routes : List (String × Connection) := []
  status : Option Reply := none

def notSentReport (job : Job) (message : Meldung) : Bool :=
  2 ≤ job.protocol && message.get "outcome" == some (.text "failed") &&
    message.get "not_sent" == some (.bool true) && message.get "attempted" == some (.bool false) &&
    job.attemptedAt.isNone

def acceptedReport (job : Job) (message : Meldung) : Bool :=
  message.get "ok" == some (.bool true) &&
    (job.protocol < 2 || message.get "provider_accepted" == some (.bool true))

/-- The outcome of an `sms.result`, as it is passed to `_complete`. -/
def resultOutcome (job : Job) (message : Meldung) : Outcome × Option String × Bool :=
  if acceptedReport job message then (.sent, none, false)
  else if notSentReport job message then (.failed, some "gateway_rejected_before_send", true)
  else (.uncertain, some "gateway_result_unknown", false)

/-- An `sms.ack` of the job also releases the send. -/
def grants (connection : Connection) (reconcile : Bool) (job : Job) : Bool :=
  2 ≤ job.protocol && (job.status == .dispatched ||
    (reconcile && job.connectionId != some connection.connectionId))

def awaiting (job : Job) : Bool :=
  job.status == .dispatched || job.status == .acknowledged

/-- The job that a message of generation `generation` from this gateway is about. -/
def eventJob (db : Db) (connection : Connection) (jobId : String) (generation : Nat) : Option Job :=
  (db.job? jobId).filter fun job => job.orgId == connection.orgId && job.generation == generation &&
    job.gatewayId == some connection.gatewayId && job.provider == some .gateway

/-- The job and its attempt after an `sms.ack` that releases nothing. -/
def acknowledged (now : Zeit) (job : Job) (attempt : Attempt) : Job × Attempt :=
  ({ job with receivedAt := some (job.receivedAt.getD now), status := .acknowledged },
    { attempt with outcome := .acknowledged })

/-- The job and its attempt after an `sms.ack` that releases the send. -/
def granted (now : Zeit) (connection : Connection) (itemId : String) (job : Job) (attempt : Attempt) :
    Job × Attempt :=
  ({ (acknowledged now job attempt).1 with
      mayHaveSent := true
      connectionId := some connection.connectionId
      leaseUntil := some (now + sekunden leaseS) },
    { (acknowledged now job attempt).2 with grantRouteId := some itemId })

def commitMessage (id jobId : String) (generation : Nat) : Message where
  type := .commit
  id := id
  jobId := jobId
  generation := generation

structure Target where
  wire : String
  jobId : String
  generation : Nat
  job : Job
  attempt : Attempt

/-- The first part of `event`: the message's job and attempt, or the answer to
a message that is not about an open job of this gateway. A missing attempt
raises and changes nothing. -/
def eventTarget (clocks : Clocks) (connection : Connection) (tokenHash : String) (message : Meldung)
    (db : Db) : Except EventResult Target :=
  match parseWire message, message.get "id" with
  | some (jobId, generation), some (.text wire) =>
    if presenceState db connection.orgId connection.gatewayId tokenHash connection.connectionId clocks.state
        ≠ .connected then .error {}
    else
      match eventJob db connection jobId generation with
      | none =>
        let old := db.attempts.any fun attempt => attempt.orgId == connection.orgId &&
          attempt.jobId == jobId && attempt.generation == generation &&
          attempt.gatewayId == some connection.gatewayId && attempt.provider == some .gateway
        .error { status := if old then some .superseded else none }
      | some job =>
        if job.status.terminal then .error { status := some (.job job.status) }
        else
          match db.attempt? connection.orgId jobId generation with
          | none => .error {}
          | some attempt =>
            .ok { wire := wire, jobId := jobId, generation := generation, job := job, attempt := attempt }
  | _, _ => .error {}

inductive Kind where
  | ack | attempt | result | ignored
  deriving DecidableEq

/-- Which branch of `event` a message takes. -/
def kindOf (message : Meldung) (job : Job) : Kind :=
  if ¬ awaiting job then .ignored
  else
    match message.get "type" with
    | some (.text "sms.ack") => .ack
    | some (.text "sms.attempt") => if job.mayHaveSent then .attempt else .ignored
    | some (.text "sms.result") => .result
    | _ => .ignored

/-- `event`; `itemId` is the id drawn for a transport row. -/
def event (clocks : Clocks) (itemId : String) (connection : Connection) (tokenHash : String)
    (message : Meldung) (reconcile : Bool) (db : Db) : Db × EventResult :=
  match eventTarget clocks connection tokenHash message db with
  | .error result => (db, result)
  | .ok target =>
    let { wire, jobId, generation, job, attempt } := target
    match kindOf message job with
    | .ack =>
      let first := job.status == .dispatched
      if grants connection reconcile job then
        let (job', attempt') := granted clocks.now connection itemId job attempt
        match route clocks.route itemId connection (commitMessage wire jobId generation) (some wire) db with
        | none => (db, {})
        | some routed =>
          ((routed.setJob job').setAttempt attempt',
            { changed := first, routes := [(itemId, connection)], status := some (.job job'.status) })
      else
        let (job', attempt') := acknowledged clocks.now job attempt
        ((db.setJob job').setAttempt attempt', { changed := first, status := some (.job job'.status) })
    | .attempt =>
      let job' := { job with attemptedAt := some (job.attemptedAt.getD clocks.now) }
      (db.setJob job', { changed := true, status := some (.job job.status) })
    | .result =>
      let (outcome, error, notSent) := resultOutcome job message
      let (job', attempt') := complete clocks.complete outcome error notSent job attempt
      ((db.setJob job').setAttempt attempt', { changed := true, status := some (.job job'.status) })
    | .ignored => (db, { status := some (.job job.status) })

/-- The message that an open job of a `hello` stands for. -/
def helloMessage (item : Meldung) : Meldung :=
  ("type", .text (if item.get "state" = some (.text "received") then "sms.ack" else "sms.attempt")) :: item

/-- `all(_cancel_queued(...) for g in grants)`: stops at the first row that is
no longer queued. -/
def cancelAll (orgId : Nat) : List GatewayMessage → Db → Db × Bool
  | [], db => (db, true)
  | grant :: rest, db =>
    match cancelQueued orgId (some grant.id) db with
    | (cancelled, true) => cancelAll orgId rest cancelled
    | (cancelled, false) => (cancelled, false)

/-- The released sends that `sweep` finds for the job's generation. -/
def grantsOf (db : Db) (job : Job) : List GatewayMessage :=
  db.messages.filter fun item => item.orgId == job.orgId && item.gatewayKind == "sms" &&
    some item.gatewayId == job.gatewayId && item.jobKey == some (wireId job.id job.generation) &&
    item.message.type == .commit

def receiptTimeout (now : Zeit) (job : Job) (attempt : Attempt) : Bool :=
  job.status == .dispatched && job.provider == some .gateway && job.receivedAt.isNone &&
    ! job.mayHaveSent && attempt.createdAt < now - sekunden receiptTimeoutS

def leaseExpired (now : Zeit) (job : Job) : Bool :=
  job.leaseUntil.any (· ≤ now)

/-- Whether the generation can be withdrawn, and the database after the
cancellations that decide it. `read` tells which transport rows were still
queued when the rows were read: a delivery can come between that and their
cancellation. -/
def withdraw (read : String → Bool) (job : Job) (attempt : Attempt) (db : Db) : Db × Bool :=
  if job.provider = some .gateway then
    if 2 ≤ job.protocol then
      let found := grantsOf db job
      if (found ≠ [] ∨ ¬ job.mayHaveSent) ∧ found.all fun grant => read grant.id then
        cancelAll job.orgId found db
      else (db, false)
    else cancelQueued job.orgId attempt.routeId db
  else (db, job.status == .claimed || ! job.mayHaveSent)

def requeued (now : Zeit) (timeout : Bool) (job : Job) (attempt : Attempt) : Job × Attempt :=
  ({ job with
      status := .queued
      mayHaveSent := false
      claimToken := none
      leaseUntil := none
      nextAttemptAt := now },
    { attempt with
      outcome := if timeout then .receiptTimeout else .notDispatched
      finishedAt := some now })

def queueExpired (now : Zeit) (job : Job) : Job :=
  { job with status := .failed, error := some "queue_expired_without_send", finishedAt := some now }

/-- The body of `sweep`'s loop for one job. The query before the loop only
chooses the jobs; everything it checks is checked here again. `now` is the
sweep's clock, `finished` that of `_complete`. -/
def sweep (now finished : Zeit) (read : String → Bool) (orgId : Nat) (jobId : String) (db : Db) : Db :=
  match (db.job? jobId).filter fun job => job.orgId == orgId with
  | none => db
  | some job =>
    if job.status.terminal then db
    else if job.status = .queued then
      if now < job.expiresAt then db else db.setJob (queueExpired now job)
    else
      match db.attempt? orgId jobId job.generation with
      | none => db
      | some attempt =>
        let timeout := receiptTimeout now job attempt
        if ¬ timeout ∧ ¬ leaseExpired now job then db
        else
          match withdraw read job attempt db with
          | (cancelled, true) =>
            let (job', attempt') := requeued now timeout job attempt
            (((cancelQueued orgId attempt.routeId cancelled).1).setJob job').setAttempt attempt'
          | (cancelled, false) =>
            if leaseExpired now job then
              let (job', attempt') :=
                complete finished .uncertain (some "lease_expired_after_possible_send") false job attempt
              (cancelled.setJob job').setAttempt attempt'
            else db

end Einsatzcockpit.Sms
