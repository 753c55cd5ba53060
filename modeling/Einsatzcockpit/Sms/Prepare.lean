import Mathlib.Data.String.Basic
import Mathlib.Data.List.Sort
import Einsatzcockpit.Sms.Queue

namespace Splitting

variable {α : Type*} [DecidableEq α]

def rsplit (separator : α) : List α → Option (List α × List α)
  | [] => none
  | symbol :: rest =>
    match rsplit separator rest with
    | some (front, back) => some (symbol :: front, back)
    | none => if symbol = separator then some ([], rest) else none

end Splitting

namespace Einsatzcockpit.Sms

/-- A JSON value as far as the protocol compares it: `number` is a number of
integral value, `other` every value that equals neither text nor number. -/
inductive Json where
  | null
  | bool (value : Bool)
  | number (value : Int)
  | text (value : String)
  | other
  deriving DecidableEq

/-- `value == n`, where `True == 1`. -/
def Json.equalsNumber (n : Nat) : Json → Bool
  | bool value => value.toNat == n
  | number value => value == n
  | _ => false

abbrev Meldung := List (String × Json)

def Meldung.get (message : Meldung) (name : String) : Option Json :=
  message.lookup name

def wireId (jobId : String) (generation : Nat) : String :=
  jobId ++ ":" ++ toString generation

def hexDigit (c : Char) : Bool :=
  c ∈ "0123456789abcdef".toList

def parseWire (message : Meldung) : Option (String × Nat) :=
  match message.get "id" with
  | some (.text wire) =>
    if 64 < wire.length then none
    else
      match Splitting.rsplit ':' wire.toList with
      | none => none
      | some (jobId, digits) =>
        if jobId.length ≠ 32 ∨ ¬ jobId.all hexDigit ∨ digits = [] ∨ ¬ digits.all Char.isDigit then none
        else
          let generation := Nat.ofDigitChars 10 digits 0
          if generation = 0 ∨ ((message.get "job_id").getD (.text (String.ofList jobId))) ≠ .text (String.ofList jobId)
              ∨ ¬ ((message.get "generation").getD (.number generation)).equalsNumber generation then none
          else some (String.ofList jobId, generation)
  | _ => none

/-- The columns that `claim`'s UPDATE sets. -/
def claimed (now : Zeit) (token worker : String) (job : Job) : Job :=
  { job with
    status := .claimed
    claimToken := some token
    claimedBy := some worker
    generation := job.generation + 1
    leaseUntil := some (now + sekunden leaseS)
    gatewayId := none
    connectionId := none
    provider := none
    mayHaveSent := false
    receivedAt := none
    attemptedAt := none
    acceptedAt := none
    error := none }

def newAttempt (now : Zeit) (job : Job) : Attempt where
  jobId := job.id
  generation := job.generation
  orgId := job.orgId
  createdAt := now

/-- `claim`: one conditional UPDATE and the new generation's attempt. -/
def claim (now : Zeit) (token worker : String) (orgId : Nat) (jobId : String) (db : Db) : Db × Option String :=
  match (db.job? jobId).filter fun job => job.orgId == orgId && job.status == .queued &&
      job.nextAttemptAt ≤ now && now < job.expiresAt with
  | none => (db, none)
  | some job =>
    let attempt := newAttempt now (claimed now token worker job)
    -- a taken primary key rolls the transaction back
    if db.attempts.any fun row => row.jobId == attempt.jobId && row.generation == attempt.generation then
      (db, none)
    else
      ({ db.setJob (claimed now token worker job) with attempts := db.attempts ++ [attempt] }, some token)

/-- `_cursor`: the organisation's row, created when it is missing. -/
def cursor (orgId : Nat) (db : Db) : Db × Cursor :=
  match db.cursors.find? fun row => row.orgId == orgId with
  | some row => (db, row)
  | none => ({ db with cursors := db.cursors ++ [{ orgId := orgId }] }, { orgId := orgId })

def moveCursor (orgId : Nat) (lastGatewayId : Option Nat) (db : Db) : Db :=
  { db with
    cursors := Relational.update (fun row => row.orgId == orgId)
      (fun row => { row with lastGatewayId := lastGatewayId }) db.cursors }

/-- The outcome of a gateway's last attempt among those before the current
one, which are given newest first. -/
def lastOutcome (previous : List Attempt) (gatewayId : Nat) : Option AttemptOutcome :=
  (previous.find? fun attempt => attempt.gatewayId == some gatewayId).map (·.outcome)

def previousAttempts (db : Db) (job : Job) : List Attempt :=
  (db.attempts.filter fun attempt => attempt.orgId == job.orgId && attempt.jobId == job.id &&
    attempt.generation < job.generation && attempt.gatewayId.isSome).insertionSort
    fun a b => b.generation ≤ a.generation

def excluded (previous : List Attempt) (gatewayId : Nat) : Bool :=
  match lastOutcome previous gatewayId with
  | some .receiptTimeout | some .notDispatched => true
  | _ => false

def inFlight (db : Db) (orgId gatewayId : Nat) (now : Zeit) : Nat :=
  (db.jobs.filter fun job => job.orgId == orgId && job.gatewayId == some gatewayId &&
    job.status.active && job.leaseUntil.any (now < ·)).length

/-- The sort key `(priority, -connected_at, -id)`. -/
def before (a b : SmsGatewayToken) : Bool :=
  if a.priority ≠ b.priority then a.priority < b.priority
  else if a.connectedAt.getD 0 ≠ b.connectedAt.getD 0 then b.connectedAt.getD 0 < a.connectedAt.getD 0
  else b.id ≤ a.id

inductive Selected where
  | eus
  | gateway (row : SmsGatewayToken)

/-- The choice among the free gateways: the preferred one, otherwise the one
after the cursor, which then moves. -/
def pick (free : List SmsGatewayToken) (preferred lastGatewayId : Option Nat) :
    Option (SmsGatewayToken × Option Nat) :=
  match free.find? fun row => some row.id == preferred with
  | some row => some (row, lastGatewayId)
  | none =>
    let start := match free.findIdx? fun row => some row.id == lastGatewayId with
      | some i => i + 1
      | none => 0
    (free[start % free.length]?).map fun row => (row, some row.id)

/-- The organisation's gateways with a live connection. Those whose last
attempt failed to dispatch are left out when there is another gateway or when
EUS comes later in the chain. -/
def candidates (db : Db) (job : Job) (clocks : Clocks) (eusAvailable : Bool) (rest : List Provider) :
    List SmsGatewayToken :=
  let gateways := (db.gateways.filter fun row => row.orgId == job.orgId).insertionSort fun a b => a.id ≤ b.id
  let connected := gateways.filter fun row => online row clocks.state && row.workerId.any (· ≠ "")
  let alternatives := connected.filter fun row => ! excluded (previousAttempts db job) row.id
  if alternatives ≠ [] ∨ (eusAvailable ∧ .eus ∈ rest) then alternatives else connected

/-- The candidates below their capacity, in the order in which they are tried. -/
def free (db : Db) (job : Job) (now : Zeit) (rows : List SmsGatewayToken) : List SmsGatewayToken :=
  (rows.filter fun row => inFlight db job.orgId row.id now < maxInFlight).insertionSort fun a b => before a b

/-- The loop over the rest of the provider chain, from position `index` on:
the position, what is selected and the cursor. A busy gateway ends the search
without a choice. -/
def selectFrom (db : Db) (job : Job) (clocks : Clocks) (eusAvailable : Bool) (lastGatewayId : Option Nat)
    (index : Nat) : List Provider → Option (Nat × Selected × Option Nat)
  | [] => none
  | .other _ :: rest => selectFrom db job clocks eusAvailable lastGatewayId (index + 1) rest
  | .eus :: rest =>
    if eusAvailable then some (index, .eus, lastGatewayId)
    else selectFrom db job clocks eusAvailable lastGatewayId (index + 1) rest
  | .gateway :: rest =>
    let rows := candidates db job clocks eusAvailable rest
    match pick (free db job clocks.now rows) job.preferredGatewayId lastGatewayId with
    | some (row, moved) => some (index, .gateway row, moved)
    | none =>
      if rows ≠ [] then none
      else selectFrom db job clocks eusAvailable lastGatewayId (index + 1) rest

inductive Prepared where
  | nothing
  | eus
  | gateway (itemId : String) (connection : Connection)

def wireMessage (job : Job) : Message where
  type := if 2 ≤ job.protocol then .prepare else .send
  id := wireId job.id job.generation
  jobId := job.id
  generation := job.generation
  toNumber := some job.phone
  text := some job.text

def notSelected (now : Zeit) (job : Job) (attempt : Attempt) : Job × Attempt :=
  ({ job with
      status := .queued
      claimToken := none
      leaseUntil := none
      nextAttemptAt := now + sekunden 2 },
    { attempt with outcome := .notDispatched, finishedAt := some now })

def dispatchedEus (now : Zeit) (index : Nat) (eusTimeout : Int) (job : Job) (attempt : Attempt) :
    Job × Attempt :=
  ({ job with
      providerIndex := index
      provider := some .eus
      status := .dispatched
      leaseUntil := some (now + sekunden (max leaseS (eusTimeout * 4 + 30)))
      mayHaveSent := true
      attemptedAt := some now },
    { attempt with provider := some .eus, outcome := .dispatched, createdAt := now })

def dispatchedGateway (now : Zeit) (index : Nat) (row : SmsGatewayToken) (itemId : String) (job : Job)
    (attempt : Attempt) : Job × Attempt :=
  ({ job with
      providerIndex := index
      provider := some .gateway
      status := .dispatched
      leaseUntil := some (now + sekunden leaseS)
      gatewayId := some row.id
      connectionId := row.connectionId
      protocol := row.smsProtocol
      mayHaveSent := row.smsProtocol < 2 },
    { attempt with
      provider := some .gateway
      outcome := .dispatched
      createdAt := now
      gatewayId := some row.id
      protocol := row.smsProtocol
      routeId := some itemId })

/-- `_prepare`; `itemId` is the id drawn for a transport row. -/
def prepare (clocks : Clocks) (itemId : String) (orgId : Nat) (jobId token : String) (eusAvailable : Bool)
    (eusTimeout : Int) (db : Db) : Db × Prepared :=
  match (db.job? jobId).filter fun job => job.orgId == orgId && job.status == .claimed &&
      job.claimToken == some token with
  | none => (db, .nothing)
  | some job =>
    match db.attempt? orgId jobId job.generation with
    | none => (db, .nothing)
    | some attempt =>
      if job.leaseUntil.all (· ≤ clocks.now) then (db, .nothing)
      else
        let (opened, row) := cursor orgId db
        match selectFrom db job clocks eusAvailable row.lastGatewayId job.providerIndex
            (job.providers.drop job.providerIndex) with
        | none =>
          let (job', attempt') := notSelected clocks.now job attempt
          ((opened.setJob job').setAttempt attempt', .nothing)
        | some (index, .eus, _) =>
          let (job', attempt') := dispatchedEus clocks.now index eusTimeout job attempt
          ((opened.setJob job').setAttempt attempt', .eus)
        | some (index, .gateway gateway, moved) =>
          match gateway.connectionId, gateway.workerId, gateway.presenceExpiresAt with
          | some connectionId, some workerId, some expiresAt =>
            let connection : Connection :=
              { kind := "sms", orgId := orgId, gatewayId := gateway.id, connectionId := connectionId
                workerId := workerId, expiresAt := expiresAt }
            let (job', attempt') := dispatchedGateway clocks.now index gateway itemId job attempt
            match route clocks.route itemId connection (wireMessage job') (some (wireMessage job').id)
                (moveCursor orgId moved opened) with
            | none => (db, .nothing)
            | some routed => ((routed.setJob job').setAttempt attempt', .gateway itemId connection)
          | _, _, _ => (db, .nothing)

theorem selectFrom_index {db : Db} {job : Job} {clocks : Clocks} {eusAvailable : Bool}
    {lastGatewayId : Option Nat} {providers : List Provider} {start index : Nat} {selected : Selected}
    {moved : Option Nat}
    (chosen : selectFrom db job clocks eusAvailable lastGatewayId start providers = some (index, selected, moved)) :
    start ≤ index ∧ index < start + providers.length := by
  induction providers generalizing start with
  | nil => simp [selectFrom] at chosen
  | cons provider rest ih =>
    have later (found : selectFrom db job clocks eusAvailable lastGatewayId (start + 1) rest =
        some (index, selected, moved)) : start ≤ index ∧ index < start + (rest.length + 1) := by
      have bounds := ih found
      omega
    have here (same : start = index) : start ≤ index ∧ index < start + (rest.length + 1) := by omega
    cases provider with
    | other name => exact later chosen
    | eus =>
      simp only [selectFrom] at chosen
      split at chosen
      · exact here (by simpa using (Option.some.inj chosen |> congrArg Prod.fst))
      · exact later chosen
    | gateway =>
      simp only [selectFrom] at chosen
      split at chosen
      · exact here (by simpa using (Option.some.inj chosen |> congrArg Prod.fst))
      · split at chosen
        · simp at chosen
        · exact later chosen

/-- What `_prepare` can do to a claimed job. -/
inductive Preparation (clocks : Clocks) (itemId : String) (orgId : Nat) (eusTimeout : Int) (db : Db) (job : Job)
    (attempt : Attempt) : Db × Prepared → Prop
  | unselected (opened : Db) (jobs : opened.jobs = db.jobs) (attempts : opened.attempts = db.attempts)
      (messages : opened.messages = db.messages) :
      Preparation clocks itemId orgId eusTimeout db job attempt
        ((opened.setJob (notSelected clocks.now job attempt).1).setAttempt (notSelected clocks.now job attempt).2,
          .nothing)
  | eus (opened : Db) (index : Nat) (jobs : opened.jobs = db.jobs) (attempts : opened.attempts = db.attempts)
      (messages : opened.messages = db.messages) (later : job.providerIndex ≤ index)
      (inside : index < job.providers.length) :
      Preparation clocks itemId orgId eusTimeout db job attempt
        ((opened.setJob (dispatchedEus clocks.now index eusTimeout job attempt).1).setAttempt
          (dispatchedEus clocks.now index eusTimeout job attempt).2, .eus)
  | gateway (turned routed : Db) (index : Nat) (row : SmsGatewayToken) (connection : Connection)
      (jobs : turned.jobs = db.jobs) (attempts : turned.attempts = db.attempts)
      (messages : turned.messages = db.messages) (later : job.providerIndex ≤ index)
      (inside : index < job.providers.length) (org : connection.orgId = orgId)
      (route : route clocks.route itemId connection
        (wireMessage (dispatchedGateway clocks.now index row itemId job attempt).1)
        (some (wireId job.id job.generation)) turned = some routed) :
      Preparation clocks itemId orgId eusTimeout db job attempt
        ((routed.setJob (dispatchedGateway clocks.now index row itemId job attempt).1).setAttempt
          (dispatchedGateway clocks.now index row itemId job attempt).2, .gateway itemId connection)

theorem cursor_tables (orgId : Nat) (db : Db) :
    (cursor orgId db).1.jobs = db.jobs ∧ (cursor orgId db).1.attempts = db.attempts ∧
      (cursor orgId db).1.messages = db.messages := by
  unfold cursor
  split <;> exact ⟨rfl, rfl, rfl⟩

/-- `_prepare` changes nothing, or prepares the claimed job that this token holds. -/
theorem prepare_cases (clocks : Clocks) (itemId : String) (orgId : Nat) (jobId token : String)
    (eusAvailable : Bool) (eusTimeout : Int) (db : Db) :
    prepare clocks itemId orgId jobId token eusAvailable eusTimeout db = (db, .nothing) ∨
      ∃ job attempt, db.job? jobId = some job ∧ job.orgId = orgId ∧ job.status = .claimed ∧
        job.claimToken = some token ∧ db.attempt? orgId jobId job.generation = some attempt ∧
        Preparation clocks itemId orgId eusTimeout db job attempt
          (prepare clocks itemId orgId jobId token eusAvailable eusTimeout db) := by
  cases found : (db.job? jobId).filter fun job => job.orgId == orgId && job.status == .claimed &&
      job.claimToken == some token with
  | none => exact Or.inl (by simp [prepare, found])
  | some job =>
    obtain ⟨present, guard⟩ := Option.filter_eq_some_iff.mp found
    simp only [Bool.and_eq_true, beq_iff_eq] at guard
    obtain ⟨⟨org, held⟩, owned⟩ := guard
    cases tried : db.attempt? orgId jobId job.generation with
    | none => exact Or.inl (by simp [prepare, found, tried])
    | some attempt =>
      obtain ⟨jobs, attempts, messages⟩ := cursor_tables orgId db
      simp only [prepare, found, tried]
      split
      · exact Or.inl rfl
      split
      · exact Or.inr ⟨job, attempt, present, org, held, owned, tried, .unselected _ jobs attempts messages⟩
      · next index moved chosen =>
        have bounds := selectFrom_index chosen
        rw [List.length_drop] at bounds
        exact Or.inr ⟨job, attempt, present, org, held, owned, tried,
          .eus _ index jobs attempts messages bounds.1 (by omega)⟩
      · next index row moved chosen =>
        have bounds := selectFrom_index chosen
        rw [List.length_drop] at bounds
        split
        · split
          · exact Or.inl rfl
          · next routed isRouted =>
            exact Or.inr ⟨job, attempt, present, org, held, owned, tried,
              .gateway (moveCursor orgId moved (cursor orgId db).1) routed index row _ jobs attempts messages
                bounds.1 (by omega) rfl isRouted⟩
        · exact Or.inl rfl

end Einsatzcockpit.Sms
