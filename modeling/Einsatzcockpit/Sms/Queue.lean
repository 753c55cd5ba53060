import Einsatzcockpit.Lib.Table
import Einsatzcockpit.Basis

namespace Einsatzcockpit.Sms

inductive Provider where
  | eus
  | gateway
  | other (name : String)
  deriving DecidableEq

inductive JobStatus where
  | queued | claimed | dispatched | acknowledged | sent | failed | uncertain
  deriving DecidableEq

/-- `TERMINAL` -/
def JobStatus.terminal : JobStatus → Bool
  | sent | failed | uncertain => true
  | _ => false

/-- `ACTIVE` -/
def JobStatus.active : JobStatus → Bool
  | claimed | dispatched | acknowledged => true
  | _ => false

inductive AttemptOutcome where
  | claimed | dispatched | acknowledged | notDispatched | receiptTimeout | sent | failed | uncertain

/-- A row of `sms_dispatch_job`. -/
structure Job where
  id : String
  orgId : Nat
  jobKey : String
  payloadHash : String
  phone : String
  text : String
  status : JobStatus
  generation : Nat := 0
  claimToken : Option String := none
  claimedBy : Option String := none
  leaseUntil : Option Zeit := none
  nextAttemptAt : Zeit
  expiresAt : Zeit
  providers : List Provider
  providerIndex : Nat := 0
  provider : Option Provider := none
  preferredGatewayId : Option Nat := none
  gatewayId : Option Nat := none
  connectionId : Option String := none
  protocol : Nat := 1
  mayHaveSent : Bool := false
  receivedAt : Option Zeit := none
  attemptedAt : Option Zeit := none
  acceptedAt : Option Zeit := none
  error : Option String := none
  createdAt : Zeit
  finishedAt : Option Zeit := none

/-- A row of `sms_dispatch_attempt`, keyed by job and generation. -/
structure Attempt where
  jobId : String
  generation : Nat
  orgId : Nat
  provider : Option Provider := none
  gatewayId : Option Nat := none
  protocol : Nat := 1
  routeId : Option String := none
  grantRouteId : Option String := none
  outcome : AttemptOutcome := .claimed
  error : Option String := none
  createdAt : Zeit
  finishedAt : Option Zeit := none

inductive MessageState where
  | queued | sending | delivered | failed | expired
  deriving DecidableEq

inductive MessageType where
  | send | prepare | commit
  deriving DecidableEq

/-- What is written to the phone: `sms.send` and `sms.prepare` carry the text
and its recipient, `sms.commit` neither. -/
structure Message where
  type : MessageType
  id : String
  jobId : String
  generation : Nat
  toNumber : Option String := none
  text : Option String := none

/-- A row of `gateway_message`. -/
structure GatewayMessage where
  id : String
  orgId : Nat
  gatewayKind : String
  gatewayId : Nat
  connectionId : String
  workerId : String
  message : Message
  jobKey : Option String
  state : MessageState
  error : Option String := none
  createdAt : Zeit
  expiresAt : Zeit

/-- A row of `sms_gateway_token`: a phone or container with its presence. -/
structure SmsGatewayToken where
  id : Nat
  orgId : Nat
  tokenHash : String
  smsProtocol : Nat := 1
  connectionTokenHash : Option String := none
  connectionId : Option String := none
  workerId : Option String := none
  connectedAt : Option Zeit := none
  presenceExpiresAt : Option Zeit := none
  revokedAt : Option Zeit := none
  priority : Int := 100

/-- A row of `sms_dispatch_cursor`. -/
structure Cursor where
  orgId : Nat
  lastGatewayId : Option Nat := none

/-- A row of `sms_log_recipient`; `orgId` is the organisation of its log. -/
structure SmsLogRecipient where
  id : Nat
  orgId : Nat
  phoneNumber : String
  dispatchJobId : Option String := none
  dispatchStatus : Option JobStatus := none

structure Db where
  jobs : List Job := []
  attempts : List Attempt := []
  messages : List GatewayMessage := []
  gateways : List SmsGatewayToken := []
  cursors : List Cursor := []
  recipients : List SmsLogRecipient := []

/-- A live connection of a phone, as `gateway_presence.Connection`. -/
structure Connection where
  kind : String
  orgId : Nat
  gatewayId : Nat
  connectionId : String
  workerId : String
  expiresAt : Zeit

namespace Db

def job? (db : Db) (id : String) : Option Job :=
  db.jobs.find? fun job => job.id == id

def attemptsOf (db : Db) (id : String) : List Attempt :=
  db.attempts.filter fun attempt => attempt.jobId == id

def messagesOf (db : Db) (id : String) : List GatewayMessage :=
  db.messages.filter fun item => item.message.jobId == id

/-- `query(Attempt).filter(org_id, job_id, generation).one()` -/
def attempt? (db : Db) (orgId : Nat) (jobId : String) (generation : Nat) : Option Attempt :=
  Relational.one? (db.attempts.filter fun attempt =>
    attempt.orgId == orgId && attempt.jobId == jobId && attempt.generation == generation)

def setJob (db : Db) (job : Job) : Db :=
  { db with jobs := Relational.update (fun row => row.id == job.id) (fun _ => job) db.jobs }

def setAttempt (db : Db) (attempt : Attempt) : Db :=
  { db with
    attempts := Relational.update
      (fun row => row.jobId == attempt.jobId && row.generation == attempt.generation)
      (fun _ => attempt) db.attempts }

end Db

/-- `LEASE_S` -/
def leaseS : Int := 60

/-- `RECEIPT_TIMEOUT_S` -/
def receiptTimeoutS : Int := 10

/-- `MAX_IN_FLIGHT` -/
def maxInFlight : Nat := 7

/-- The readings of the clock inside one transaction: when presence is
checked, the transaction's own `now`, the `created_at` of a routed message and
the instant at which an attempt is completed. -/
structure Clocks where
  state : Zeit
  now : Zeit
  route : Zeit
  complete : Zeit

/-- `presence.online` of a phone. -/
def online (row : SmsGatewayToken) (now : Zeit) : Bool :=
  row.revokedAt.isNone && row.connectionTokenHash == some row.tokenHash &&
    row.connectionId.any (· ≠ "") && row.presenceExpiresAt.any (now < ·)

inductive PresenceState where
  | connected | authenticationFailed | superseded | heartbeatOverdue
  deriving DecidableEq

/-- `presence.state` -/
def presenceState (db : Db) (orgId gatewayId : Nat) (tokenHash connectionId : String) (now : Zeit) :
    PresenceState :=
  match db.gateways.find? fun row => row.orgId == orgId && row.id == gatewayId &&
      row.revokedAt.isNone && row.tokenHash == tokenHash with
  | none => .authenticationFailed
  | some row =>
    if row.connectionTokenHash ≠ some tokenHash then .authenticationFailed
    else if row.connectionId ≠ some connectionId then .superseded
    else if online row now then .connected
    else .heartbeatOverdue

/-- Inserts a transport row; nothing when its primary key is taken, which
rolls the transaction back. -/
def route (now : Zeit) (itemId : String) (connection : Connection) (message : Message)
    (jobKey : Option String) (db : Db) : Option Db :=
  if db.messages.any fun item => item.id == itemId then none
  else
    some { db with
      messages := db.messages ++ [{
        id := itemId
        orgId := connection.orgId
        gatewayKind := "sms"
        gatewayId := connection.gatewayId
        connectionId := connection.connectionId
        workerId := connection.workerId
        message := message
        jobKey := jobKey
        state := .queued
        createdAt := now
        expiresAt := now + sekunden leaseS }] }

/-- `_cancel_queued`, with the number of rows it hit as a truth value. -/
def cancelQueued (orgId : Nat) (routeId : Option String) (db : Db) : Db × Bool :=
  match routeId with
  | none => (db, false)
  | some id =>
    let hit : GatewayMessage → Bool := fun item =>
      item.orgId == orgId && item.id == id && item.state == .queued
    ({ db with messages := Relational.update hit (fun item => { item with state := .expired }) db.messages },
      db.messages.any hit)

/-- `legacy_error` -/
def legacyError : String :=
  "Legacy-Versand bereits begonnen; Ergebnis unbekannt, kein automatischer Neuversand"

/-- The columns of a job that `enqueue_in` inserts. -/
def newJob (now : Zeit) (uuid : String) (orgId : Nat) (jobKey payloadHash phone text : String)
    (providers : List Provider) (preferred : Option Nat) (uncertainLegacy : Bool) : Job where
  id := uuid
  orgId := orgId
  jobKey := jobKey
  payloadHash := payloadHash
  phone := phone
  text := text
  status := if uncertainLegacy then .uncertain else .queued
  nextAttemptAt := now
  expiresAt := now + stunden 1
  providers := providers
  preferredGatewayId := preferred
  mayHaveSent := uncertainLegacy
  error := if uncertainLegacy then some legacyError else none
  createdAt := now
  finishedAt := if uncertainLegacy then some now else none

def closedLegacy (now : Zeit) (job : Job) : Job :=
  { job with
    status := .uncertain
    mayHaveSent := true
    finishedAt := some now
    leaseUntil := none
    error := some legacyError }

/-- An old job of unknown result is closed before a claim can see it, and the
transport rows of all its attempts are cancelled. -/
def closeLegacy (now : Zeit) (job : Job) (db : Db) : Db :=
  (db.attempts.filter fun attempt => attempt.orgId == job.orgId && attempt.jobId == job.id).foldl
    (fun db attempt =>
      (cancelQueued job.orgId attempt.grantRouteId (cancelQueued job.orgId attempt.routeId db).1).1)
    (db.setJob (closedLegacy now job))

def linkRecipient (orgId : Nat) (phone : String) (job : Job) (recipientId : Option Nat) (db : Db) :
    Except String Db :=
  match recipientId with
  | none => .ok db
  | some id =>
    match db.recipients.find? fun row => row.orgId == orgId && row.id == id with
    | none => .error "SMS-Empfaenger gehoert nicht zum Auftrag"
    | some recipient =>
      if recipient.phoneNumber ≠ phone then .error "SMS-Empfaenger gehoert nicht zum Auftrag"
      else
        .ok { db with
          recipients := Relational.update (fun row => row.id == id)
            (fun row => { row with dispatchJobId := some job.id, dispatchStatus := some job.status })
            db.recipients }

/-- `enqueue_in`; an error stands for a raised exception, which rolls the
caller's transaction back. `uuid` is the id drawn for a new job. -/
def enqueueIn (sha256 : String → String) (now finished : Zeit) (uuid : String) (orgId : Nat)
    (jobKey phone text : String) (providers : List Provider) (preferred recipientId : Option Nat)
    (uncertainLegacy : Bool) (db : Db) : Except String (String × Db) :=
  if ¬ (0 < jobKey.length ∧ jobKey.length ≤ 128) then .error "Ungueltige SMS-Job-ID"
  else
    let payloadHash := sha256 (phone ++ "\x00" ++ text)
    match db.jobs.find? fun job => job.orgId == orgId && job.jobKey == jobKey with
    | none =>
      if db.jobs.any fun job => job.id == uuid then .error "IntegrityError"
      else do
        let job := newJob now uuid orgId jobKey payloadHash phone text providers preferred uncertainLegacy
        let linked ← linkRecipient orgId phone job recipientId { db with jobs := db.jobs ++ [job] }
        return (job.id, linked)
    | some job =>
      if job.payloadHash ≠ payloadHash then .error "SMS-Job-ID wurde mit anderem Inhalt wiederverwendet"
      else if uncertainLegacy ∧ ¬ job.status.terminal then do
        let linked ← linkRecipient orgId phone (closedLegacy finished job) recipientId
          (closeLegacy finished job db)
        return (job.id, linked)
      else do
        let linked ← linkRecipient orgId phone job recipientId db
        return (job.id, linked)

structure LocalSocket where
  connection : Connection
  tokenHash : String

structure Address where
  gatewayKind : String
  orgId : Nat
  gatewayId : Nat
  connectionId : String
  workerId : String
  deriving DecidableEq

def GatewayMessage.address (item : GatewayMessage) : Address where
  gatewayKind := item.gatewayKind
  orgId := item.orgId
  gatewayId := item.gatewayId
  connectionId := item.connectionId
  workerId := item.workerId

def misaddressed (address : Option Address) (item : GatewayMessage) : Bool :=
  address.any (· ≠ item.address)

/-- `_sockets.get(...)` -/
def socketOf (sockets : List LocalSocket) (item : GatewayMessage) : Option LocalSocket :=
  sockets.find? fun socket => socket.connection.kind == item.gatewayKind &&
    socket.connection.orgId == item.orgId && socket.connection.gatewayId == item.gatewayId &&
    socket.connection.connectionId == item.connectionId

/-- The socket's connection is the gateway's current one, and the row has not expired. -/
def deliverable (clocks : Clocks) (socket : LocalSocket) (item : GatewayMessage) (db : Db) : Bool :=
  presenceState db socket.connection.orgId socket.connection.gatewayId socket.tokenHash
      socket.connection.connectionId clocks.state == .connected &&
    clocks.now < item.expiresAt

/-- The rows that the conditional UPDATE of `_claim` hits. -/
def claims (itemId : String) (c : Connection) (row : GatewayMessage) : Bool :=
  row.id == itemId && row.orgId == c.orgId && row.state == .queued && row.workerId == c.workerId &&
    row.connectionId == c.connectionId

/-- `_claim` of a delivery by the worker `worker` with its sockets: the row
and what is to be written, when it leaves 'queued' for 'sending'. -/
def claimDelivery (clocks : Clocks) (worker : String) (sockets : List LocalSocket) (itemId : String)
    (address : Option Address) (db : Db) : Db × Option (LocalSocket × GatewayMessage) :=
  match (db.messages.find? fun item => item.id == itemId).filter fun item =>
      item.workerId == worker && item.state == .queued with
  | none => (db, none)
  | some item =>
    if misaddressed address item then (db, none)
    else
      match socketOf sockets item with
      | none => (db, none)
      | some socket =>
        let valid := deliverable clocks socket item db
        let changed := db.messages.any (claims itemId socket.connection)
        ({ db with
            messages := Relational.update (claims itemId socket.connection)
              (fun row => { row with state := if valid then .sending else .expired }) db.messages },
          if changed && valid then some (socket, item) else none)

/-- `_finish` of a delivery. -/
def finishDelivery (worker itemId : String) (orgId : Nat) (delivered : Bool) (db : Db) : Db :=
  { db with
    messages := Relational.update
      (fun row => row.id == itemId && row.orgId == orgId && row.workerId == worker && row.state == .sending)
      (fun row => { row with
        state := if delivered then .delivered else .failed
        error := if delivered then none else some "socket_send_failed" })
      db.messages }

end Einsatzcockpit.Sms
