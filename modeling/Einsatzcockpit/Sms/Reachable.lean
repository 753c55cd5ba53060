import Einsatzcockpit.Sms.Simulation

namespace Einsatzcockpit.Sms

/-- Rows that can still make a phone send belong to the current generation,
and none is left once a next generation can begin. -/
def View.Fenced (v : View) (job : Job) : Prop :=
  ∀ item ∈ v.messages, effectful item = true → item.state = .queued →
    item.message.generation = job.generation ∧ job.status ≠ .queued ∧ job.status ≠ .claimed

namespace View.Fenced

variable {v : View} {job : Job} (fenced : v.Fenced job)
include fenced

theorem nothing_queued (idle : job.status = .queued ∨ job.status = .claimed) :
    ∀ item ∈ v.messages, effectful item = true → item.state ≠ .queued := by
  intro item member isEffectful queued
  obtain ⟨-, notQueued, notClaimed⟩ := fenced item member isEffectful queued
  exact idle.elim notQueued notClaimed

theorem progress {v' : View} {job' : Job} (progressed : Progressed v.messages v'.messages)
    (same : job'.generation = job.generation)
    (busy : job'.status = .queued ∨ job'.status = .claimed →
      ∀ item ∈ v'.messages, effectful item = true → item.message.generation = job.generation →
        item.state ≠ .queued) : v'.Fenced job' := by
  intro item' member isEffectful queued
  obtain ⟨item, inside, row, was⟩ := progressed.from_old item' member
  have at_ := (fenced item inside (SameRow.effectful row ▸ isEffectful) (was queued)).1
  rw [← row.2.1] at at_
  refine ⟨at_.trans same.symm, fun waiting => ?_, fun claimed => ?_⟩
  · exact busy (Or.inl waiting) item' member isEffectful at_ queued
  · exact busy (Or.inr claimed) item' member isEffectful at_ queued

theorem move {v' : View} (progressed : Progressed v.messages v'.messages) : v'.Fenced job :=
  fenced.progress progressed rfl fun idle item' member isEffectful _ queued => by
    obtain ⟨item, inside, row, was⟩ := progressed.from_old item' member
    exact fenced.nothing_queued idle item inside (SameRow.effectful row ▸ isEffectful) (was queued)

end View.Fenced

theorem View.Fenced.of_nothing_queued {v : View} (job : Job)
    (none : ∀ item ∈ v.messages, effectful item = true → item.state ≠ .queued) : v.Fenced job :=
  fun item member isEffectful queued => absurd queued (none item member isEffectful)

theorem complete_unclaimed (now : Zeit) (outcome : Outcome) (error : Option String) (notSent : Bool) (job : Job)
    (attempt : Attempt) : (complete now outcome error notSent job attempt).1.status ≠ .claimed := by
  intro claimed
  have inactive := complete_inactive now outcome error notSent job attempt
  simp [claimed, JobStatus.active] at inactive

theorem fallsBack_of_queued {now : Zeit} {outcome : Outcome} {error : Option String} {notSent : Bool} {job : Job}
    {attempt : Attempt} (waiting : (complete now outcome error notSent job attempt).1.status = .queued) :
    fallsBack job outcome notSent = true := by
  by_contra stays
  cases outcome <;> simp_all [complete, Outcome.status]

theorem fallsBack_failed {job : Job} {outcome : Outcome} {notSent : Bool}
    (falls : fallsBack job outcome notSent = true) : outcome = .failed ∧ notSent = true := by
  simp only [fallsBack, Bool.and_eq_true, beq_iff_eq] at falls
  exact falls.1

theorem resultOutcome_failed {job : Job} {message : Meldung} (failed : (resultOutcome job message).1 = .failed) :
    2 ≤ job.protocol := by
  unfold resultOutcome at failed
  split at failed
  · simp at failed
  · split at failed
    · next report =>
      simp only [notSentReport, Bool.and_eq_true, decide_eq_true_eq] at report
      exact report.1.1.1.1
    · simp at failed

variable {promise : Promise} {v v' : View}

theorem Lifecycle.fenced (life : Lifecycle promise v v') (settled : promise.settled) (coherent : v.Coherent)
    (traced : ∀ job, v.job = some job → v.Traced job) (held : ∀ job, v.job = some job → v.Fenced job) : ∀ job, v'.job = some job → v'.Fenced job := by
  cases life with
  | stay => exact held
  | cancel messages cancelled => exact fun job present => (held job present).move cancelled.progressed
  | enqueue now uuid orgId jobKey payloadHash phone text providers preferred legacy absent =>
    rintro job ⟨⟩
    exact .of_nothing_queued _ (by simp [(coherent.absent absent).2.1])
  | close job now messages present pending cancelled =>
    rintro new ⟨⟩
    exact (held job present).progress cancelled.progressed rfl (by simp [closedLegacy])
  | claim job now token worker present waiting =>
    rintro new ⟨⟩
    exact .of_nothing_queued _ ((held job present).nothing_queued (Or.inl waiting))
  | unselected job attempt now current claimed =>
    rintro new ⟨⟩
    exact .of_nothing_queued _ ((held job current.1).nothing_queued (Or.inr claimed))
  | eus job attempt now index timeout token current claimed =>
    rintro new ⟨⟩
    exact .of_nothing_queued _ ((held job current.1).nothing_queued (Or.inr claimed))
  | gateway job attempt now index row item current claimed later inside spoken =>
    rintro new ⟨⟩ old member isEffectful queued
    rcases List.mem_append.mp member with before_ | isNew
    · exact absurd queued ((held job current.1).nothing_queued (Or.inr claimed) old before_ isEffectful)
    · obtain rfl : old = item := by simpa using isNew
      exact ⟨by simp [spoken, wireMessage], by simp [dispatchedGateway], by simp [dispatchedGateway]⟩
  | acknowledge job attempt now current waits routed =>
    rintro new ⟨⟩
    exact (held job current.1).progress (Progressed.refl _) rfl (by simp [acknowledged])
  | grant job attempt now connection item current waits routed two commits =>
    rintro new ⟨⟩ old member isEffectful queued
    refine ⟨?_, by simp [granted, acknowledged], by simp [granted, acknowledged]⟩
    rcases List.mem_append.mp member with before_ | isNew
    · exact (held job current.1 old before_ isEffectful queued).1
    · obtain rfl : old = item := by simpa using isNew
      exact commits.2.2.2.2.2
  | attempted job now present =>
    rintro new ⟨⟩
    exact held job present
  | result job attempt now message current waits routed clear =>
    rintro new ⟨⟩
    refine (held job current.1).progress (Progressed.refl _) (complete_generation ..) fun idle => ?_
    have falls := fallsBack_of_queued (idle.resolve_right fun claimed => complete_unclaimed _ _ _ _ _ _ claimed)
    obtain ⟨failed, notSent⟩ := fallsBack_failed falls
    rw [failed, notSent] at falls
    intro item member isEffectful at_
    rcases effectful_cases isEffectful with send | commit
    · have one := ((traced job current.1).sends waits item member send at_).1
      have two := resultOutcome_failed failed
      omega
    · exact clear settled failed falls item member commit at_
  | eusResult job attempt now token outcome current active owned released =>
    rintro new ⟨⟩
    obtain ⟨eus, dispatched⟩ := (traced job current.1).released active token released owned
    have waits : awaiting job = true := by simp [awaiting, dispatched]
    exact (held job current.1).progress (Progressed.refl _) (complete_generation ..) fun _ item member _ at_ =>
      absurd at_ ((traced job current.1).unspoken (Or.inr ⟨waits, eus⟩) item member)
  | expire job now present waiting =>
    rintro new ⟨⟩
    exact .of_nothing_queued _ ((held job present).nothing_queued (Or.inl waiting))
  | withdraw job attempt now timeout messages current active cancelled elsewhere withdrawn =>
    rintro new ⟨⟩
    refine (held job current.1).progress cancelled.progressed rfl fun _ item' member isEffectful at_ queued => ?_
    rcases (traced job current.1).withdrawn (coherent.job job current.1) current active cancelled.progressed
      elsewhere withdrawn with idle | ⟨-, none⟩
    · have claimed : job.status = .claimed := by
        cases same : job.status <;> simp_all [JobStatus.idle, JobStatus.active]
      have moved : View.Fenced { v with messages := messages } job :=
        (held job current.1).move cancelled.progressed
      exact moved.nothing_queued (Or.inr claimed) item' member isEffectful queued
    · exact none item' member isEffectful at_ queued
  | lapse job attempt now error messages current active cancelled =>
    rintro new ⟨⟩
    refine (held job current.1).progress cancelled.progressed (complete_generation ..) fun idle => ?_
    have falls := fallsBack_of_queued (idle.resolve_right fun claimed => complete_unclaimed _ _ _ _ _ _ claimed)
    simp [fallsBack] at falls
  | send item member queued => exact fun job present => (held job present).move (sending_progressed ..)
  | finish messages finished => exact fun job present => (held job present).move finished.progressed

theorem Lifecycle.exclusive (life : Lifecycle promise v v') (coherent : v.Coherent)
    (traced : ∀ job, v.job = some job → v.Traced job) (fenced : ∀ job, v.job = some job → v.Fenced job) :
    v'.effects = v.effects ∨
      ∃ generation, v'.effects = v.effects ++ [generation] ∧ ∀ earlier, v.Open earlier → earlier = generation := by
  cases life with
  | eus job attempt now index timeout token current claimed =>
    refine Or.inr ⟨job.generation, rfl, fun earlier isOpen => ?_⟩
    exact absurd isOpen ((traced job current.1).nothing_open (by simp [claimed, JobStatus.idle]) _)
  | send item member queued =>
    by_cases isEffectful : effectful item = true
    · obtain ⟨job, present⟩ : ∃ job, v.job = some job := by
        refine Option.ne_none_iff_exists'.mp fun none => ?_
        simp [(coherent.absent none).2.1] at member
      refine Or.inr ⟨item.message.generation, by simp [isEffectful], fun earlier isOpen => ?_⟩
      rw [(fenced job present item member isEffectful queued).1]
      exact ((traced job present).effects earlier isOpen).1
    · exact Or.inl (by simp [isEffectful])
  | _ => exact Or.inl rfl

end Einsatzcockpit.Sms

namespace Einsatzcockpit.Sms

/-- A world before any job, with the gateways and log recipients it starts from. -/
def initial (gateways : List SmsGatewayToken) (recipients : List SmsLogRecipient) : World where
  db := { gateways := gateways, recipients := recipients }

structure World.Coherent (w : World) : Prop where
  sound : w.Sound
  views : ∀ id, (w.view id).Coherent

def World.Traced (w : World) : Prop :=
  ∀ id job, w.db.job? id = some job → (w.view id).Traced job

def World.Fenced (w : World) : Prop :=
  ∀ id job, w.db.job? id = some job → (w.view id).Fenced job

variable {sha256 : String → String} {w : World} {gateways : List SmsGatewayToken}
  {recipients : List SmsLogRecipient} {actions : List Action}

theorem initial_coherent : (initial gateways recipients).Coherent :=
  ⟨⟨List.nodup_nil, List.nodup_nil, by simp [initial]⟩, fun _ => ⟨fun _ => ⟨rfl, rfl, rfl, rfl, rfl⟩,
    by simp [World.view, initial, Db.job?], by simp [World.view, initial, Db.job?],
    by simp [World.view, initial, Db.job?]⟩⟩

theorem initial_traced : (initial gateways recipients).Traced := by
  intro id job present
  simp [initial, Db.job?] at present

theorem initial_fenced : (initial gateways recipients).Fenced := by
  intro id job present
  simp [initial, Db.job?] at present

variable (sha256) in
theorem step_coherent (coherent : w.Coherent) (action : Action) : (step sha256 w action).Coherent :=
  ⟨step_sound sha256 w action coherent.sound, fun id =>
    (step_refines sha256 id coherent.sound action).coherent (coherent.views id)⟩

theorem step_traced (coherent : w.Coherent) (traced : w.Traced) {action : Action}
    (canonical : AcksCanonically w action) : (step sha256 w action).Traced := fun id =>
  (step_refines sha256 id coherent.sound action).traced canonical (coherent.views id) (traced id)

theorem step_fenced (coherent : w.Coherent) (traced : w.Traced) (fenced : w.Fenced) {action : Action}
    (settled : FallsBackSettled w action) : (step sha256 w action).Fenced := fun id =>
  (step_refines sha256 id coherent.sound action).fenced settled (coherent.views id) (traced id) (fenced id)

/-- In every run each job goes through its life cycle. -/
theorem smsJob_lifecycle (sha256 : String → String) (gateways : List SmsGatewayToken)
    (recipients : List SmsLogRecipient) (actions : List Action) (id : String) :
    Relation.ReflTransGen (fun v v' => ∃ promise, Lifecycle promise v v') ((initial gateways recipients).view id)
      ((Transition.run (step sha256) (initial gateways recipients) actions).view id) :=
  Transition.run_relates World.Sound
    (fun w w' => Relation.ReflTransGen (fun v v' => ∃ promise, Lifecycle promise v v') (w.view id) (w'.view id))
    (fun w action sound _ => step_sound sha256 w action sound) (fun _ => .refl) (fun _ _ _ first second => first.trans second)
    (fun _ action sound _ => .single ⟨_, step_refines sha256 id sound action⟩) initial_coherent.sound
    (Transition.meets_true _ actions)

end Einsatzcockpit.Sms

namespace Einsatzcockpit.Sms

/-- Every job of `w` is still there in `w'`: in the same status if that was
terminal, and not at an earlier place of the same provider list. -/
def JobsPersist (w w' : World) : Prop :=
  ∀ job ∈ w.db.jobs, ∃ job' ∈ w'.db.jobs, job'.id = job.id ∧
    (job.status.terminal = true → job'.status = job.status) ∧
    job.providerIndex ≤ job'.providerIndex ∧ job'.providers = job.providers

/-- A job that is 'sent' after the action was so before, or the action is a
provider's acceptance of the generation that the job then had. -/
def EntersSentAccepted (w w' : World) (action : Action) : Prop :=
  ∀ job' ∈ w'.db.jobs, job'.status = .sent →
    ∃ job ∈ w.db.jobs, job.id = job'.id ∧ (job.status = .sent ∨ Accepts action job)

variable {sha256 : String → String} {w : World} {promise : Promise} {v v' : View}

theorem Db.mem_of_job? {db : Db} {id : String} {job : Job} (present : db.job? id = some job) : job ∈ db.jobs :=
  List.mem_of_find?_eq_some present

section

variable (coherent : w.Coherent)
include coherent

theorem World.Coherent.present {job : Job} (member : job ∈ w.db.jobs) :
    w.db.job? job.id = some job :=
  Db.job?_of_mem coherent.sound.jobIds member

theorem World.Coherent.job {job : Job} (member : job ∈ w.db.jobs) : job.Coherent :=
  (coherent.views job.id).job job (coherent.present member)

theorem World.Coherent.attempt {job : Job} (member : job ∈ w.db.jobs) {generation : Nat}
    (from_one : 1 ≤ generation) (to_last : generation ≤ job.generation) :
    ∃ attempt, w.db.attempts.filter (fun row => row.jobId == job.id && row.generation == generation) = [attempt] ∧
      w.db.attempt? job.orgId job.id generation = some attempt := by
  have view := coherent.views job.id
  have generations := view.generations job (coherent.present member)
  have inside : generation ∈ (w.db.attemptsOf job.id).map (·.generation) := by
    rw [show (w.db.attemptsOf job.id).map (·.generation) = _ from generations]
    exact List.mem_range'_1.mpr (by omega)
  obtain ⟨attempt, isAttempt, rfl⟩ := List.mem_map.mp inside
  have nodup : ((w.db.attemptsOf job.id).map (·.generation)).Nodup := generations ▸ List.nodup_range'
  have single : w.db.attempts.filter (fun row => row.jobId == job.id && row.generation == attempt.generation) =
      [attempt] := by
    have alone := Relational.filter_key (fun row : Attempt => row.generation) nodup isAttempt
    simpa only [Db.attemptsOf, List.filter_filter, Bool.and_comm] using alone
  refine ⟨attempt, single, Relational.one?_eq_some.mpr ?_⟩
  have owned : attempt.orgId = job.orgId := view.owned job (coherent.present member) attempt isAttempt
  have split : w.db.attempts.filter (fun row => row.orgId == job.orgId && row.jobId == job.id &&
      row.generation == attempt.generation) =
      (w.db.attempts.filter fun row => row.jobId == job.id && row.generation == attempt.generation).filter
        fun row => row.orgId == job.orgId := by
    simp only [List.filter_filter, Bool.and_assoc]
  rw [split, single]
  simp [owned]

end

variable (sha256) in
theorem step_persists (coherent : w.Coherent) (action : Action) {job : Job} (member : job ∈ w.db.jobs) :
    ∃ job' ∈ (step sha256 w action).db.jobs, job'.id = job.id ∧ job.Follows (Accepts action) job' := by
  obtain ⟨job', present, follows⟩ :=
    (step_refines sha256 job.id coherent.sound action).follows (coherent.present member)
  exact ⟨job', Db.mem_of_job? present, Db.job?_id present, follows⟩

theorem JobsPersist.refl (w : World) : JobsPersist w w :=
  fun job member => ⟨job, member, rfl, fun _ => rfl, Nat.le_refl _, rfl⟩

theorem JobsPersist.trans {w w' w'' : World} (first : JobsPersist w w') (second : JobsPersist w' w'') :
    JobsPersist w w'' := by
  intro job member
  obtain ⟨job', member', sameId, stays, forward, providers⟩ := first job member
  obtain ⟨job'', member'', sameId', stays', forward', providers'⟩ := second job' member'
  refine ⟨job'', member'', sameId'.trans sameId, fun terminal => ?_, forward.trans forward', providers'.trans providers⟩
  have still := stays terminal
  exact (stays' (still ▸ terminal)).trans still

theorem run_persists (coherent : w.Coherent) (actions : List Action) :
    JobsPersist w (Transition.run (step sha256) w actions) := by
  refine Transition.run_relates World.Coherent JobsPersist (fun _ action held _ => step_coherent sha256 held action)
    JobsPersist.refl (fun _ _ _ => JobsPersist.trans) (fun w action held _ job member => ?_) coherent
    (Transition.meets_true w actions)
  obtain ⟨job', member', sameId, follows⟩ := step_persists sha256 held action member
  exact ⟨job', member', sameId, follows.terminal, follows.index, follows.providers⟩

theorem Lifecycle.born (life : Lifecycle promise v v') (absent : v.job = none) {job : Job}
    (present : v'.job = some job) : job.status ≠ .sent := by
  have gone {old : Job} (found : v.job = some old) : job.status ≠ .sent := by simp [absent] at found
  cases life with
  | enqueue now uuid orgId jobKey payloadHash phone text providers preferred legacy =>
    obtain rfl := Option.some.inj present
    cases legacy <;> simp [newJob]
  | stay | cancel | send | finish => exact gone present
  | close _ _ _ found | claim _ _ _ _ found | attempted _ _ found | expire _ _ found => exact gone found
  | unselected _ _ _ current | eus _ _ _ _ _ _ current | gateway _ _ _ _ _ _ current | acknowledge _ _ _ current
  | grant _ _ _ _ _ current | result _ _ _ _ current | eusResult _ _ _ _ _ current
  | withdraw _ _ _ _ _ current | lapse _ _ _ _ _ current => exact gone current.1

theorem step_accepted (coherent : w.Coherent) (action : Action) :
    EntersSentAccepted w (step sha256 w action) action := by
  intro job' member' sent
  have after := (step_coherent sha256 coherent action).present member'
  have life := step_refines sha256 job'.id coherent.sound action
  cases present : w.db.job? job'.id with
  | none => exact absurd sent (life.born present after)
  | some job =>
    obtain ⟨job'', isJob, follows⟩ := life.follows present
    obtain rfl : job' = job'' := Option.some.inj (after.symm.trans isJob)
    refine ⟨job, Db.mem_of_job? present, Db.job?_id present, ?_⟩
    by_cases was : job.status = .sent
    · exact Or.inl was
    · exact Or.inr (follows.accepted was sent)

/-- A phone of protocol 2, connected as `connectionId`. -/
def phone (connectionId : String) : SmsGatewayToken where
  id := 1
  orgId := 1
  tokenHash := "h"
  smsProtocol := 2
  connectionTokenHash := some "h"
  connectionId := some connectionId
  workerId := some "w"
  connectedAt := some 0
  presenceExpiresAt := some (stunden 9)

def socket (connectionId : String) : LocalSocket where
  connection := { kind := "sms", orgId := 1, gatewayId := 1, connectionId := connectionId, workerId := "w"
                  expiresAt := stunden 9 }
  tokenHash := "h"

def second (n : Int) : Clocks :=
  ⟨sekunden n, sekunden n, sekunden n, sekunden n⟩

def sampleId : String := "0123456789abcdef0123456789abcdef"

/-- Up to the acknowledgement over connection c1: the release "m2" is queued. -/
def acknowledgedRun (providers : List Provider) : List Action := [
  .enqueue 0 0 sampleId 1 "key" "+43" "text" providers none none false,
  .claim 0 "t1" "w" 1 sampleId,
  .prepare (second 0) "m1" 1 sampleId "t1" true 15,
  .deliver (second 1) "w" [socket "c1"] "m1" none,
  .event (second 2) "m2" (socket "c1").connection "h"
    [("type", .text "sms.ack"), ("id", .text (sampleId ++ ":1"))] false]

/-- The phone reconnects as c2 and names the open job with a leading zero; that
second release is delivered, and the lease runs out. -/
def leadingZeroRun (providers : List Provider) : List Action :=
  acknowledgedRun providers ++ [
    .presence [phone "c2"],
    .event (second 3) "m3" (socket "c2").connection "h"
      (helloMessage [("id", .text (sampleId ++ ":01")), ("state", .text "received")]) true,
    .deliver (second 4) "w" [socket "c2"] "m3" none,
    .sweep (sekunden 100) (sekunden 100) (fun _ => true) 1 sampleId]

end Einsatzcockpit.Sms
