import Einsatzcockpit.Lib.Run
import Einsatzcockpit.Lib.EventLog
import Einsatzcockpit.Sms.Event

namespace Einsatzcockpit.Sms

/-- What is observed of a generation: an action with a possible external
effect, or an accepted report that nothing was sent. -/
inductive Entry where
  | effect (jobId : String) (generation : Nat)
  | notSent (jobId : String) (generation : Nat)
  deriving DecidableEq

/-- The database with the claim tokens drawn so far, the EUS calls that
`_prepare` has released (job and token) and the log of observations. -/
structure World where
  db : Db := {}
  tokens : List String := []
  released : List (String × String) := []
  log : List Entry := []

/-- One committed transaction, with the values its clock and its environment
supply. A transaction that dies before its commit is no action. -/
inductive Action where
  | enqueue (now finished : Zeit) (uuid : String) (orgId : Nat) (jobKey phone text : String)
      (providers : List Provider) (preferred recipientId : Option Nat) (uncertainLegacy : Bool)
  | claim (now : Zeit) (token worker : String) (orgId : Nat) (jobId : String)
  | prepare (clocks : Clocks) (itemId : String) (orgId : Nat) (jobId token : String) (eusAvailable : Bool)
      (eusTimeout : Int)
  | event (clocks : Clocks) (itemId : String) (connection : Connection) (tokenHash : String)
      (message : Meldung) (reconcile : Bool)
  | eusResult (now : Zeit) (orgId : Nat) (jobId token : String) (outcome : EusOutcome)
  | sweep (now finished : Zeit) (read : String → Bool) (orgId : Nat) (jobId : String)
  | deliver (clocks : Clocks) (worker : String) (sockets : List LocalSocket) (itemId : String)
      (address : Option Address)
  | finish (worker itemId : String) (orgId : Nat) (delivered : Bool)
  | presence (gateways : List SmsGatewayToken)

/-- The report of a message that the generation was not sent, when `event` accepts it. -/
def unsentReport (clocks : Clocks) (connection : Connection) (tokenHash : String) (message : Meldung)
    (db : Db) : Option Target :=
  match eventTarget clocks connection tokenHash message db with
  | .error _ => none
  | .ok target =>
    if kindOf message target.job = .result ∧ (resultOutcome target.job message).1 = .failed then some target
    else none

def effectful (item : GatewayMessage) : Bool :=
  item.message.type == .send || item.message.type == .commit

variable (sha256 : String → String)

def step (w : World) : Action → World
  | .enqueue now finished uuid orgId jobKey phone text providers preferred recipientId uncertainLegacy =>
    match enqueueIn sha256 now finished uuid orgId jobKey phone text providers preferred recipientId
        uncertainLegacy w.db with
    | .error _ => w
    | .ok (_, db) => { w with db := db }
  | .claim now token worker orgId jobId =>
    -- a uuid that was drawn before is not drawn again
    if token ∈ w.tokens then w
    else { w with db := (claim now token worker orgId jobId w.db).1, tokens := token :: w.tokens }
  | .prepare clocks itemId orgId jobId token eusAvailable eusTimeout =>
    -- only a worker that drew the token in `claim` goes on with it
    if token ∉ w.tokens then w
    else
      match prepare clocks itemId orgId jobId token eusAvailable eusTimeout w.db with
      | (db, .eus) =>
        { w with
          db := db
          released := (jobId, token) :: w.released
          log := w.log ++ ((w.db.job? jobId).map fun job => Entry.effect jobId job.generation).toList }
      | (db, _) => { w with db := db }
  | .event clocks itemId connection tokenHash message reconcile =>
    { w with
      db := (event clocks itemId connection tokenHash message reconcile w.db).1
      log := w.log ++ ((unsentReport clocks connection tokenHash message w.db).map fun target =>
        Entry.notSent target.jobId target.generation).toList }
  | .eusResult now orgId jobId token outcome =>
    -- only the worker whose `_prepare` returned 'eus' makes the call
    if (jobId, token) ∉ w.released then w
    else
      let (result, error, safe) := outcome.result
      { w with
        db := eusResult now orgId jobId token result error safe w.db
        log := w.log ++ (if safe then
            ((eusTarget orgId jobId token w.db).map fun (job, _) => Entry.notSent jobId job.generation).toList
          else []) }
  | .sweep now finished read orgId jobId => { w with db := sweep now finished read orgId jobId w.db }
  | .deliver clocks worker sockets itemId address =>
    match claimDelivery clocks worker sockets itemId address w.db with
    | (db, none) => { w with db := db }
    | (db, some (_, item)) =>
      { w with
        db := db
        log := w.log ++ if effectful item then [Entry.effect item.message.jobId item.message.generation] else [] }
  | .finish worker itemId orgId delivered => { w with db := finishDelivery worker itemId orgId delivered w.db }
  | .presence gateways => { w with db := { w.db with gateways := gateways } }

@[simp] theorem step_presence (w : World) (gateways : List SmsGatewayToken) :
    step sha256 w (.presence gateways) = { w with db := { w.db with gateways := gateways } } := by simp only [step]

end Einsatzcockpit.Sms

namespace Einsatzcockpit.Sms

/-- What concerns one job: its row, its attempts, the transport rows that
speak of it, the claim tokens whose EUS call was released, and the
generations with a possible external effect and with a report of none. -/
structure View where
  job : Option Job
  attempts : List Attempt
  messages : List GatewayMessage
  released : List String
  effects : List Nat
  unsent : List Nat

def View.put (v : View) (written : Job × Attempt) : View :=
  { v with
    job := some written.1
    attempts := Relational.update (fun row => row.generation == written.2.generation) (fun _ => written.2)
      v.attempts }

def View.Current (v : View) (job : Job) (attempt : Attempt) : Prop :=
  v.job = some job ∧ attempt ∈ v.attempts ∧ attempt.generation = job.generation

def Cancelled : List GatewayMessage → List GatewayMessage → Prop :=
  List.Forall₂ fun old new => new = old ∨ (old.state = .queued ∧ new = { old with state := .expired })

def Finished : List GatewayMessage → List GatewayMessage → Prop :=
  List.Forall₂ fun old new => new = old ∨
    (old.state = .sending ∧ ∃ state error, (state = .delivered ∨ state = .failed) ∧
      new = { old with state := state, error := error })

def GatewayMessage.commits (item : GatewayMessage) (job : Job) : Prop :=
  item.message.type = .commit ∧ item.orgId = job.orgId ∧ item.gatewayKind = "sms" ∧
    some item.gatewayId = job.gatewayId ∧ item.message.jobId = job.id ∧
    item.message.generation = job.generation

/-- The transport rows that decide whether a gateway's generation can be
withdrawn: all of them still wait before, and none afterwards. -/
def Withdrawn (job : Job) (attempt : Attempt) (old new : List GatewayMessage) : Prop :=
  (job.protocol < 2 → (∀ item ∈ old, attempt.routeId = some item.id → item.state = .queued) ∧
      ∀ item ∈ new, attempt.routeId = some item.id → item.state = .expired) ∧
    (2 ≤ job.protocol →
      (∀ item ∈ old, item.commits job → item.jobKey = some (wireId job.id job.generation) →
        item.state = .queued) ∧
      ∀ item ∈ new, item.commits job → item.jobKey = some (wireId job.id job.generation) →
        item.state = .expired)

/-- What is known of a step from the action that takes it: that an
acknowledgement names its job by the canonical wire id, that a fallback to the
next provider leaves no released send behind, and for which job the step is a
provider's acceptance. -/
structure Promise where
  canonical : Prop
  settled : Prop
  accepts : Job → Prop

inductive Lifecycle (promise : Promise) : View → View → Prop
  | stay (v : View) : Lifecycle promise v v
  | cancel (v : View) (messages : List GatewayMessage) (cancelled : Cancelled v.messages messages) :
      Lifecycle promise v { v with messages := messages }
  | enqueue (v : View) (now : Zeit) (uuid : String) (orgId : Nat) (jobKey payloadHash phone text : String)
      (providers : List Provider) (preferred : Option Nat) (legacy : Bool) (absent : v.job = none) :
      Lifecycle promise v
        { v with job := some (newJob now uuid orgId jobKey payloadHash phone text providers preferred legacy) }
  | close (v : View) (job : Job) (now : Zeit) (messages : List GatewayMessage) (present : v.job = some job)
      (pending : job.status.terminal = false) (cancelled : Cancelled v.messages messages) :
      Lifecycle promise v { v with job := some (closedLegacy now job), messages := messages }
  | claim (v : View) (job : Job) (now : Zeit) (token worker : String) (present : v.job = some job)
      (waiting : job.status = .queued) (fresh : token ∉ v.released) :
      Lifecycle promise v
        { v with
          job := some (claimed now token worker job)
          attempts := v.attempts ++ [newAttempt now (claimed now token worker job)] }
  | unselected (v : View) (job : Job) (attempt : Attempt) (now : Zeit) (current : v.Current job attempt)
      (held : job.status = .claimed) :
      Lifecycle promise v (v.put (notSelected now job attempt))
  | eus (v : View) (job : Job) (attempt : Attempt) (now : Zeit) (index : Nat) (timeout : Int) (token : String)
      (current : v.Current job attempt) (held : job.status = .claimed) (owned : job.claimToken = some token)
      (later : job.providerIndex ≤ index) (inside : index < job.providers.length) :
      Lifecycle promise v
        { v.put (dispatchedEus now index timeout job attempt) with
          released := token :: v.released
          effects := v.effects ++ [job.generation] }
  | gateway (v : View) (job : Job) (attempt : Attempt) (now : Zeit) (index : Nat) (row : SmsGatewayToken)
      (item : GatewayMessage) (current : v.Current job attempt) (held : job.status = .claimed)
      (later : job.providerIndex ≤ index) (inside : index < job.providers.length)
      (spoken : item.message = wireMessage (dispatchedGateway now index row item.id job attempt).1)
      (queued : item.state = .queued) (fresh : ∀ old ∈ v.messages, old.id ≠ item.id) :
      Lifecycle promise v
        { v.put (dispatchedGateway now index row item.id job attempt) with messages := v.messages ++ [item] }
  | acknowledge (v : View) (job : Job) (attempt : Attempt) (now : Zeit) (current : v.Current job attempt)
      (waits : awaiting job) (routed : job.provider = some .gateway) :
      Lifecycle promise v (v.put (acknowledged now job attempt))
  | grant (v : View) (job : Job) (attempt : Attempt) (now : Zeit) (connection : Connection)
      (item : GatewayMessage) (current : v.Current job attempt) (waits : awaiting job)
      (routed : job.provider = some .gateway) (two : 2 ≤ job.protocol) (commits : item.commits job)
      (queued : item.state = .queued) (fresh : ∀ old ∈ v.messages, old.id ≠ item.id)
      (named : promise.canonical → item.jobKey = some (wireId job.id job.generation)) :
      Lifecycle promise v
        { v.put (granted now connection item.id job attempt) with messages := v.messages ++ [item] }
  | attempted (v : View) (job : Job) (now : Zeit) (present : v.job = some job) :
      Lifecycle promise v
        { v with job := some { job with attemptedAt := some (job.attemptedAt.getD now) } }
  | result (v : View) (job : Job) (attempt : Attempt) (now : Zeit) (message : Meldung)
      (current : v.Current job attempt) (waits : awaiting job) (routed : job.provider = some .gateway)
      (clear : promise.settled → (resultOutcome job message).1 = .failed → fallsBack job .failed true →
        ∀ item ∈ v.messages, item.message.type = .commit → item.message.generation = job.generation →
          item.state ≠ .queued)
      (accepting : (resultOutcome job message).1 = .sent → promise.accepts job) :
      Lifecycle promise v
        { v.put (complete now (resultOutcome job message).1 (resultOutcome job message).2.1
            (resultOutcome job message).2.2 job attempt) with
          unsent := v.unsent ++ if (resultOutcome job message).1 = .failed then [job.generation] else [] }
  | eusResult (v : View) (job : Job) (attempt : Attempt) (now : Zeit) (token : String) (outcome : EusOutcome)
      (current : v.Current job attempt) (active : job.status.active) (owned : job.claimToken = some token)
      (released : token ∈ v.released) (accepting : outcome.result.1 = .sent → promise.accepts job) :
      Lifecycle promise v
        { v.put (complete now outcome.result.1 outcome.result.2.1 outcome.result.2.2 job attempt) with
          unsent := v.unsent ++ if outcome.result.2.2 then [job.generation] else [] }
  | expire (v : View) (job : Job) (now : Zeit) (present : v.job = some job) (waiting : job.status = .queued) :
      Lifecycle promise v { v with job := some (queueExpired now job) }
  | withdraw (v : View) (job : Job) (attempt : Attempt) (now : Zeit) (timeout : Bool)
      (messages : List GatewayMessage) (current : v.Current job attempt) (active : job.status.active)
      (cancelled : Cancelled v.messages messages)
      (elsewhere : job.provider ≠ some .gateway → job.status = .claimed ∨ job.mayHaveSent = false)
      (withdrawn : job.provider = some .gateway → Withdrawn job attempt v.messages messages) :
      Lifecycle promise v { v.put (requeued now timeout job attempt) with messages := messages }
  | lapse (v : View) (job : Job) (attempt : Attempt) (now : Zeit) (error : Option String)
      (messages : List GatewayMessage) (current : v.Current job attempt) (active : job.status.active)
      (cancelled : Cancelled v.messages messages) :
      Lifecycle promise v
        { v.put (complete now .uncertain error false job attempt) with messages := messages }
  | send (v : View) (item : GatewayMessage) (member : item ∈ v.messages) (queued : item.state = .queued)
      (only : ∀ other ∈ v.messages, other.id = item.id → other = item) :
      Lifecycle promise v
        { v with
          messages := Relational.update (fun row => row.id == item.id)
            (fun row => { row with state := .sending }) v.messages
          effects := v.effects ++ if effectful item then [item.message.generation] else [] }
  | finish (v : View) (messages : List GatewayMessage) (finished : Finished v.messages messages) :
      Lifecycle promise v { v with messages := messages }

end Einsatzcockpit.Sms
