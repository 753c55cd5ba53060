import Einsatzcockpit.Sms.Frame

namespace Einsatzcockpit.Sms

def Entry.effectOf (jobId : String) : Entry → Option Nat
  | effect id generation => if id = jobId then some generation else none
  | notSent _ _ => none

def Entry.unsentOf (jobId : String) : Entry → Option Nat
  | effect _ _ => none
  | notSent id generation => if id = jobId then some generation else none

def World.view (w : World) (jobId : String) : View where
  job := w.db.job? jobId
  attempts := w.db.attemptsOf jobId
  messages := w.db.messagesOf jobId
  released := w.released.filterMap fun (id, token) => if id = jobId then some token else none
  effects := w.log.filterMap (Entry.effectOf jobId)
  unsent := w.log.filterMap (Entry.unsentOf jobId)

variable {jobId id : String} {generation : Nat} {db db' : Db} {job : Job}

theorem effects_of_log {w : World} :
    generation ∈ (w.view jobId).effects ↔ .effect jobId generation ∈ w.log := by
  constructor
  · intro member
    obtain ⟨entry, inside, same⟩ := List.mem_filterMap.mp member
    cases entry with
    | effect id g =>
      simp only [Entry.effectOf] at same
      split at same
      · next isJob => exact isJob ▸ Option.some.inj same ▸ inside
      · simp at same
    | notSent => simp [Entry.effectOf] at same
  · intro inside
    exact List.mem_filterMap.mpr ⟨_, inside, by simp [Entry.effectOf]⟩

theorem unsent_of_log {w : World} :
    generation ∈ (w.view jobId).unsent ↔ .notSent jobId generation ∈ w.log := by
  constructor
  · intro member
    obtain ⟨entry, inside, same⟩ := List.mem_filterMap.mp member
    cases entry with
    | effect => simp [Entry.unsentOf] at same
    | notSent id g =>
      simp only [Entry.unsentOf] at same
      split at same
      · next isJob => exact isJob ▸ Option.some.inj same ▸ inside
      · simp at same
  · intro inside
    exact List.mem_filterMap.mpr ⟨_, inside, by simp [Entry.unsentOf]⟩

def View.carry (v : View) (messages : List GatewayMessage) : View :=
  { v with messages := messages }

def View.become (v : View) (job : Job) : View :=
  { v with job := some job }

theorem Db.job?_id (found : db.job? id = some job) : job.id = id := by
  simpa using List.find?_some found

theorem Db.job?_setJob (db : Db) (job : Job) (id : String) :
    (db.setJob job).job? id = if id = job.id then (db.job? id).map fun _ => job else db.job? id :=
  Relational.find?_update_key (fun row : Job => row.id) job.id id (fun _ => job) db.jobs fun _ _ => rfl

theorem Db.isSome_job? (jobs : db'.jobs = db.jobs)
    (present : db.job? id = some job) : (db'.job? id).isSome := by
  simp only [Db.job?, jobs] at present ⊢
  simp [present]

theorem Db.attemptsOf_setAttempt (db : Db) (attempt : Attempt) :
    (db.setAttempt attempt).attemptsOf attempt.jobId =
      Relational.update (fun row => row.generation == attempt.generation) (fun _ => attempt)
        (db.attemptsOf attempt.jobId) := by
  simp only [Db.attemptsOf, Db.setAttempt]
  rw [Relational.filter_update]
  · refine List.map_congr_left fun row member => ?_
    have owner : row.jobId = attempt.jobId := by simpa using (List.mem_filter.mp member).2
    simp [owner]
  · intro row hit
    simp only [Bool.and_eq_true, beq_iff_eq] at hit
    simp [hit.1]

theorem Db.attemptsOf_setAttempt_other (db : Db) {attempt : Attempt} (other : id ≠ attempt.jobId) :
    (db.setAttempt attempt).attemptsOf id = db.attemptsOf id := by
  refine Relational.filter_update_disjoint _ _ _ _ (fun row hit => ?_) fun row owner => ?_
  · simp only [Bool.and_eq_true, beq_iff_eq] at hit
    simp [hit.1]
  · have isOwner : row.jobId = id := by simpa using owner
    simp [isOwner, other]

/-- The attempt that `.one()` finds is the job's. -/
theorem Db.attempt?_spec {orgId : Nat} {attempt : Attempt}
    (found : db.attempt? orgId jobId generation = some attempt) :
    attempt ∈ db.attemptsOf jobId ∧ attempt.generation = generation ∧ attempt.jobId = jobId := by
  have member := Relational.mem_of_one? found
  simp only [List.mem_filter, Bool.and_eq_true, beq_iff_eq] at member
  exact ⟨List.mem_filter.mpr ⟨member.1, by simp [member.2.1.2]⟩, member.2.2, member.2.1.2⟩

section

variable (w : World)
include w

theorem view_tables (jobs : db.jobs = w.db.jobs) (attempts : db.attempts = w.db.attempts)
    (messages : db.messages = w.db.messages) : { w with db := db : World }.view id = w.view id := by
  simp only [World.view, Db.job?, Db.attemptsOf, Db.messagesOf, jobs, attempts, messages]

theorem view_put (db : Db) (written : Job × Attempt)
    (present : (db.job? jobId).isSome) (jobOwner : written.1.id = jobId) (owner : written.2.jobId = jobId) :
    { w with db := (db.setJob written.1).setAttempt written.2 : World }.view jobId =
      ({ w with db := db : World }.view jobId).put written := by
  obtain ⟨old, found⟩ := Option.isSome_iff_exists.mp present
  have jobs : ((db.setJob written.1).setAttempt written.2).job? jobId = some written.1 := by
    have set := Db.job?_setJob db written.1 jobId
    rw [if_pos jobOwner.symm, found] at set
    exact set
  have attempts : ((db.setJob written.1).setAttempt written.2).attemptsOf jobId =
      Relational.update (fun row => row.generation == written.2.generation) (fun _ => written.2)
        (db.attemptsOf jobId) := by
    rw [← owner]
    exact Db.attemptsOf_setAttempt (db.setJob written.1) written.2
  simp only [World.view, View.put, jobs, attempts]
  rfl

theorem view_put_other (db : Db) (written : Job × Attempt)
    (other : id ≠ jobId) (jobOwner : written.1.id = jobId) (owner : written.2.jobId = jobId) :
    { w with db := (db.setJob written.1).setAttempt written.2 : World }.view id =
      { w with db := db : World }.view id := by
  have jobs : ((db.setJob written.1).setAttempt written.2).job? id = db.job? id := by
    have set := Db.job?_setJob db written.1 id
    rw [if_neg (jobOwner ▸ other)] at set
    exact set
  have attempts : ((db.setJob written.1).setAttempt written.2).attemptsOf id = db.attemptsOf id :=
    Db.attemptsOf_setAttempt_other (db.setJob written.1) (owner ▸ other)
  simp only [World.view, jobs, attempts]
  rfl

theorem view_setJob (db : Db) (job : Job) (present : (db.job? jobId).isSome)
    (jobOwner : job.id = jobId) :
    { w with db := db.setJob job : World }.view jobId = ({ w with db := db : World }.view jobId).become job := by
  obtain ⟨old, found⟩ := Option.isSome_iff_exists.mp present
  have jobs : (db.setJob job).job? jobId = some job := by
    rw [Db.job?_setJob, if_pos jobOwner.symm, found]
    rfl
  simp only [World.view, View.become, jobs]
  rfl

theorem view_setJob_other (db : Db) (job : Job) (other : id ≠ jobId)
    (jobOwner : job.id = jobId) :
    { w with db := db.setJob job : World }.view id = { w with db := db : World }.view id := by
  have jobs : (db.setJob job).job? id = db.job? id := by rw [Db.job?_setJob, if_neg (jobOwner ▸ other)]
  simp only [World.view, jobs]
  rfl

theorem view_cancelsTo (cancels : db.CancelsTo db') (id : String) :
    ∃ messages, Cancelled (db.messagesOf id) messages ∧
      { w with db := db' : World }.view id = ({ w with db := db : World }.view id).carry messages := by
  refine ⟨db'.messagesOf id, cancels.messages.filter id, ?_⟩
  simp only [World.view, View.carry, Db.job?, Db.attemptsOf, Db.messagesOf, cancels.jobs, cancels.attempts]

end

theorem route_spec {now : Zeit} {itemId : String} {connection : Connection} {message : Message}
    {jobKey : Option String} (routed : route now itemId connection message jobKey db = some db') :
    ∃ item : GatewayMessage, item.id = itemId ∧ item.message = message ∧ item.state = .queued ∧
      item.orgId = connection.orgId ∧ item.gatewayKind = "sms" ∧ item.gatewayId = connection.gatewayId ∧
      item.jobKey = jobKey ∧ (∀ old ∈ db.messages, old.id ≠ itemId) ∧
      db' = { db with messages := db.messages ++ [item] } := by
  unfold route at routed
  split at routed
  · simp at routed
  · next free =>
    refine ⟨_, rfl, rfl, rfl, rfl, rfl, rfl, rfl, fun old member same => free ?_, (Option.some.inj routed).symm⟩
    exact List.any_eq_true.mpr ⟨old, member, by simpa using same⟩

section

variable (w : World) (jobs : db.jobs = w.db.jobs) (attempts : db.attempts = w.db.attempts) (messages : db.messages = w.db.messages)
include w jobs attempts messages

theorem view_routed (item : GatewayMessage) (id : String) :
    { w with db := { db with messages := db.messages ++ [item] } : World }.view id =
      (w.view id).carry ((w.view id).messages ++ if item.message.jobId = id then [item] else []) := by
  by_cases same : item.message.jobId = id <;>
    simp [World.view, View.carry, Db.messagesOf, Db.job?, Db.attemptsOf, List.filter_append, same, jobs, attempts,
      messages]

theorem view_put_routed {routed : Db} {item : GatewayMessage}
    (isRouted : routed = { db with messages := db.messages ++ [item] }) (written : Job × Attempt) (present : w.db.job? jobId = some job) (jobOwner : written.1.id = jobId)
    (owner : written.2.jobId = jobId) (speaks : item.message.jobId = jobId) (id : String) :
    { w with db := (routed.setJob written.1).setAttempt written.2 : World }.view id =
      if id = jobId then ((w.view id).carry ((w.view id).messages ++ [item])).put written else w.view id := by
  split
  · next same =>
    subst same
    have exists_ : (routed.job? id).isSome := Db.isSome_job? (by rw [isRouted, jobs]) present
    rw [view_put w routed written exists_ jobOwner owner, isRouted, view_routed w jobs attempts messages,
      if_pos speaks]
  · next other =>
    rw [view_put_other w routed written other jobOwner owner, isRouted, view_routed w jobs attempts messages,
      if_neg fun same => other (same.symm.trans speaks), List.append_nil]
    rfl

end

end Einsatzcockpit.Sms
