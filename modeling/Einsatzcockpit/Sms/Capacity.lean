import Einsatzcockpit.Sms.Reachable

namespace Einsatzcockpit.Sms

open Transition

variable {sha256 : String → String}

def belegt (orgId gatewayId : Nat) (now : Zeit) (job : Job) : Bool :=
  job.orgId == orgId && job.gatewayId == some gatewayId && job.status.active && job.leaseUntil.any (now < ·)

theorem inFlight_eq (db : Db) (orgId gatewayId : Nat) (now : Zeit) :
    inFlight db orgId gatewayId now = db.jobs.countP (belegt orgId gatewayId now) :=
  (List.countP_eq_length_filter ..).symm

theorem belegt_later {orgId gatewayId : Nat} {now later : Zeit} (le : now ≤ later) {job : Job}
    (held : belegt orgId gatewayId later job = true) : belegt orgId gatewayId now job = true := by
  simp only [belegt, Bool.and_eq_true, Option.any_eq_true_iff_get, decide_eq_true_eq] at held ⊢
  obtain ⟨rest, some, lease⟩ := held
  exact ⟨rest, some, lt_of_le_of_lt le lease⟩

theorem inFlight_later (db : Db) (orgId gatewayId : Nat) {now later : Zeit} (le : now ≤ later) :
    inFlight db orgId gatewayId later ≤ inFlight db orgId gatewayId now := by
  rw [inFlight_eq, inFlight_eq]
  exact List.countP_mono_left fun job _ held => belegt_later le held

section Geschrieben

variable {db : Db} {job job' : Job} {orgId gatewayId : Nat} {now : Zeit}

section

variable (ids : (db.jobs.map (·.id)).Nodup) (member : job ∈ db.jobs) (same : job.id = job'.id)
include ids member same

theorem inFlight_setJob :
    inFlight (db.setJob job') orgId gatewayId now + (if belegt orgId gatewayId now job then 1 else 0) =
      inFlight db orgId gatewayId now + if belegt orgId gatewayId now job' then 1 else 0 := by
  rw [inFlight_eq, inFlight_eq]
  exact Relational.countP_update_key ids member same _

theorem inFlight_setJob_le
    (held : belegt orgId gatewayId now job' = true → belegt orgId gatewayId now job = true) :
    inFlight (db.setJob job') orgId gatewayId now ≤ inFlight db orgId gatewayId now := by
  have count := @inFlight_setJob db job job' orgId gatewayId now ids member same
  by_cases after : belegt orgId gatewayId now job' = true
  · rw [if_pos after, if_pos (held after)] at count
    omega
  · rw [if_neg after] at count
    omega

theorem inFlight_setJob_succ :
    inFlight (db.setJob job') orgId gatewayId now ≤ inFlight db orgId gatewayId now + 1 := by
  have count := @inFlight_setJob db job job' orgId gatewayId now ids member same
  split at count <;> split at count <;> omega

end

theorem belegt_resting (resting : job'.status.active = false) : belegt orgId gatewayId now job' = false := by
  simp [belegt, resting]

theorem belegt_elsewhere (elsewhere : job'.gatewayId ≠ some gatewayId) : belegt orgId gatewayId now job' = false := by
  simp [belegt, elsewhere]

end Geschrieben

/-- The gateway that `_prepare` chooses has a free place. -/
theorem selectFrom_free {db : Db} {job : Job} {clocks : Clocks} {eusAvailable : Bool} {lastGatewayId : Option Nat}
    {providers : List Provider} {start index : Nat} {row : SmsGatewayToken} {moved : Option Nat}
    (chosen : selectFrom db job clocks eusAvailable lastGatewayId start providers = some (index, .gateway row, moved)) :
    inFlight db job.orgId row.id clocks.now < maxInFlight := by
  induction providers generalizing start with
  | nil => cases chosen
  | cons provider rest ih =>
    cases provider with
    | other name => exact ih chosen
    | eus =>
      simp only [selectFrom] at chosen
      split at chosen
      · cases chosen
      · exact ih chosen
    | gateway =>
      simp only [selectFrom] at chosen
      split at chosen
      · next row' moved' picked =>
        cases chosen
        have member : row ∈ free db job clocks.now (candidates db job clocks eusAvailable rest) := by
          unfold pick at picked
          split at picked
          · next preferred isPreferred =>
            cases picked
            exact List.mem_of_find?_eq_some isPreferred
          · obtain ⟨row', atPlace, same⟩ := Option.map_eq_some_iff.mp picked
            cases same
            exact List.mem_of_getElem? atPlace
        have inside := (List.mem_insertionSort ..).mp member
        exact of_decide_eq_true (List.mem_filter.mp inside).2
      · split at chosen
        · cases chosen
        · exact ih chosen

/-- What a step can do to the jobs: one of them is written, and only `_prepare`
and an acknowledgement give it a lease with a gateway. -/
inductive Writes (w : World) (action : Action) : List Job → Prop
  | nothing : Writes w action w.db.jobs
  | enqueues (job : Job) (resting : job.status.active = false) : Writes w action (w.db.jobs ++ [job])
  | rests (job job' : Job) (member : job ∈ w.db.jobs) (same : job.id = job'.id) (resting : job'.status.active = false) :
      Writes w action (w.db.setJob job').jobs
  | claims (job job' : Job) (member : job ∈ w.db.jobs) (same : job.id = job'.id) (free : job'.gatewayId = none) :
      Writes w action (w.db.setJob job').jobs
  | leases (job job' : Job) (member : job ∈ w.db.jobs) (same : job.id = job'.id) (held : job.status = .claimed)
      (gateway : job'.gatewayId = job.gatewayId) (status : job'.status = .dispatched) : Writes w action (w.db.setJob job').jobs
  | dispatches (job job' : Job) (clocks : Clocks) (row : SmsGatewayToken) (member : job ∈ w.db.jobs) (same : job.id = job'.id)
      (held : job.status = .claimed) (gateway : job'.gatewayId = some row.id) (org : job'.orgId = job.orgId)
      (status : job'.status = .dispatched) (free : inFlight w.db job.orgId row.id clocks.now < maxInFlight)
      (read : ∃ itemId orgId jobId token eusAvailable eusTimeout, action = .prepare clocks itemId orgId jobId token eusAvailable eusTimeout) :
      Writes w action (w.db.setJob job').jobs
  | keeps (job job' : Job) (member : job ∈ w.db.jobs) (same : job.id = job'.id) (lease : job'.leaseUntil = job.leaseUntil)
      (gateway : job'.gatewayId = job.gatewayId) (org : job'.orgId = job.orgId) (active : job.status.active = true)
      (status : job'.status ≠ .claimed) : Writes w action (w.db.setJob job').jobs
  | renews (job job' : Job) (clocks : Clocks) (member : job ∈ w.db.jobs) (same : job.id = job'.id)
      (gateway : job'.gatewayId = job.gatewayId) (org : job'.orgId = job.orgId) (active : job.status.active = true)
      (status : job'.status ≠ .claimed)
      (read : ∃ itemId connection tokenHash message reconcile target,
        action = .event clocks itemId connection tokenHash message reconcile ∧
          eventTarget clocks connection tokenHash message w.db = .ok target ∧ target.job = job ∧
            kindOf message job = .ack ∧ grants connection reconcile job = true) :
      Writes w action (w.db.setJob job').jobs

section

variable (w : World) (clocks : Clocks) (itemId : String) (orgId : Nat) (jobId token : String) (eusAvailable : Bool) (eusTimeout : Int)
include w clocks itemId orgId jobId token eusAvailable eusTimeout

theorem prepare_jobs :
    (step sha256 w (.prepare clocks itemId orgId jobId token eusAvailable eusTimeout)).db.jobs =
      if token ∉ w.tokens then w.db.jobs else (prepare clocks itemId orgId jobId token eusAvailable eusTimeout w.db).1.jobs := by
  simp only [step]
  split
  · rfl
  · split
    · next eus => rw [eus]
    · next db _ _ other => rw [other]

theorem prepare_writes :
    Writes w (.prepare clocks itemId orgId jobId token eusAvailable eusTimeout)
      (prepare clocks itemId orgId jobId token eusAvailable eusTimeout w.db).1.jobs := by
  unfold prepare
  split
  · exact .nothing
  · next job found =>
    obtain ⟨present, guard⟩ := Option.filter_eq_some_iff.mp found
    simp only [Bool.and_eq_true, beq_iff_eq] at guard
    obtain ⟨⟨org, held⟩, -⟩ := guard
    have member : job ∈ w.db.jobs := List.mem_of_find?_eq_some present
    have opened : (cursor orgId w.db).1.jobs = w.db.jobs := (cursor_tables orgId w.db).1
    have written : ∀ job' : Job, ((cursor orgId w.db).1.setJob job').jobs = (w.db.setJob job').jobs := by
      intro job'
      simp only [Db.setJob, opened]
    split
    · exact .nothing
    · next attempt _ =>
      split
      · exact .nothing
      · dsimp only
        split
        · have same := written (notSelected clocks.now job attempt).1
          exact same ▸ .rests job _ member rfl rfl
        · next index _ _ =>
          have same := written (dispatchedEus clocks.now index eusTimeout job attempt).1
          exact same ▸ .leases job _ member rfl held rfl rfl
        · next index gateway moved chosen =>
          split
          · split
            · exact .nothing
            · next routed isRouted =>
              obtain ⟨item, -, -, -, -, -, -, -, -, same⟩ := route_spec isRouted
              have jobs : routed.jobs = w.db.jobs := by
                rw [same]
                exact opened
              have written : (routed.setJob (dispatchedGateway clocks.now index gateway itemId job attempt).1).jobs =
                  (w.db.setJob (dispatchedGateway clocks.now index gateway itemId job attempt).1).jobs := by
                simp only [Db.setJob, jobs]
              have free := selectFrom_free chosen
              exact written ▸ .dispatches job _ clocks gateway member rfl held rfl rfl rfl free ⟨_, _, _, _, _, _, rfl⟩
          · exact .nothing

end

theorem eventTarget_job {clocks : Clocks} {connection : Connection} {tokenHash : String} {message : Meldung} {db : Db}
    {target : Target} (accepted : eventTarget clocks connection tokenHash message db = .ok target) : target.job ∈ db.jobs := by
  unfold eventTarget at accepted
  split at accepted
  · split at accepted
    · cases accepted
    · split at accepted
      · cases accepted
      · next job isJob =>
        split at accepted
        · cases accepted
        · split at accepted
          · cases accepted
          · cases accepted
            unfold eventJob at isJob
            exact List.mem_of_find?_eq_some (Option.filter_eq_some_iff.mp isJob).1
  · cases accepted

theorem awaiting_of_kind {message : Meldung} {job : Job} (other : kindOf message job ≠ .ignored) : awaiting job = true := by
  by_contra waits
  exact other (if_pos waits)

theorem complete_resting (now : Zeit) (outcome : Outcome) (error : Option String) (notSent : Bool) (job : Job)
    (attempt : Attempt) : (complete now outcome error notSent job attempt).1.status.active = false := by
  unfold complete
  split
  · rfl
  · cases outcome <;> rfl

theorem event_writes (w : World) (clocks : Clocks) (itemId : String) (connection : Connection) (tokenHash : String)
    (message : Meldung) (reconcile : Bool) :
    Writes w (.event clocks itemId connection tokenHash message reconcile)
      (event clocks itemId connection tokenHash message reconcile w.db).1.jobs := by
  unfold event
  split
  · exact .nothing
  · next target accepted =>
    have member := eventTarget_job accepted
    dsimp only
    split
    · next ack =>
      have waits : awaiting target.job = true := awaiting_of_kind (by rw [ack]; exact Kind.noConfusion)
      have active := active_of_awaiting waits
      split
      · next grant =>
        split
        · exact .nothing
        · next routed isRouted =>
          obtain ⟨item, -, -, -, -, -, -, -, -, same⟩ := route_spec isRouted
          have written : (routed.setJob (granted clocks.now connection itemId target.job target.attempt).1).jobs =
              (w.db.setJob (granted clocks.now connection itemId target.job target.attempt).1).jobs := by
            rw [same]
            rfl
          exact written ▸ .renews target.job _ clocks member rfl rfl rfl active JobStatus.noConfusion
            ⟨_, _, _, _, _, target, rfl, accepted, rfl, ack, grant⟩
      · exact .keeps target.job (acknowledged clocks.now target.job target.attempt).1 member rfl rfl rfl rfl active
          JobStatus.noConfusion
    · next isAttempt =>
      have waits : awaiting target.job = true := awaiting_of_kind (by rw [isAttempt]; exact Kind.noConfusion)
      have status : target.job.status ≠ .claimed := by
        intro claimed
        simp [awaiting, claimed] at waits
      exact .keeps target.job { target.job with attemptedAt := some (target.job.attemptedAt.getD clocks.now) } member rfl rfl
        rfl rfl (active_of_awaiting waits) status
    · exact .rests target.job _ member (complete_id ..).symm (complete_resting ..)
    · exact .nothing

variable (sha256) in
theorem step_writes (w : World) (ids : (w.db.messages.map (·.id)).Nodup) (action : Action) :
    Writes w action (step sha256 w action).db.jobs := by
  cases action with
  | enqueue now finished uuid orgId jobKey phone text providers preferred recipientId legacy =>
    simp only [step]
    split
    · exact .nothing
    · next done =>
      rcases enqueueIn_cases done with ⟨hash, -, jobs, -, -⟩ | ⟨job, member, -, jobs, -, -⟩ | ⟨jobs, -, -⟩
      · rw [jobs]
        exact .enqueues _ (by cases legacy <;> rfl)
      · rw [jobs, (closeLegacy_cancelsTo finished job w.db).jobs]
        exact .rests job _ member rfl rfl
      · rw [jobs]
        exact .nothing
  | claim now token worker orgId jobId =>
    simp only [step]
    split
    · exact .nothing
    · unfold claim
      split
      · exact .nothing
      · next job found =>
        dsimp only
        split
        · exact .nothing
        · exact .claims job (claimed now token worker job) (List.mem_of_find?_eq_some (Option.filter_eq_some_iff.mp found).1)
            rfl rfl
  | prepare clocks itemId orgId jobId token eusAvailable eusTimeout =>
    rw [prepare_jobs]
    split
    · exact .nothing
    · exact prepare_writes w clocks itemId orgId jobId token eusAvailable eusTimeout
  | event clocks itemId connection tokenHash message reconcile =>
    exact event_writes w clocks itemId connection tokenHash message reconcile
  | eusResult now orgId jobId token outcome =>
    simp only [step]
    split
    · exact .nothing
    · unfold eusResult
      split
      · exact .nothing
      · next job attempt found =>
        have member : job ∈ w.db.jobs := by
          unfold eusTarget at found
          split at found
          · cases found
          · next job' isJob =>
            obtain ⟨attempt', -, same⟩ := Option.map_eq_some_iff.mp found
            cases same
            exact List.mem_of_find?_eq_some (Option.filter_eq_some_iff.mp isJob).1
        exact .rests job _ member (complete_id ..).symm (complete_resting ..)
  | sweep now finished read orgId jobId =>
    simp only [step]
    rcases sweep_cases now finished read orgId jobId w.db ids with unchanged | ⟨job, present, -, swept⟩
    · rw [unchanged]
      exact .nothing
    · have member : job ∈ w.db.jobs := List.mem_of_find?_eq_some present
      generalize sweep now finished read orgId jobId w.db = result at swept ⊢
      cases swept with
      | expire => exact .rests job (queueExpired now job) member rfl rfl
      | withdraw attempt cancelled timeout active tried cancels =>
        have written : (cancelled.setJob (requeued now timeout job attempt).1).jobs =
            (w.db.setJob (requeued now timeout job attempt).1).jobs := by
          simp only [Db.setJob, cancels.jobs]
        exact written ▸ .rests job _ member rfl rfl
      | lapse attempt cancelled error active tried cancels =>
        have written : (cancelled.setJob (complete finished .uncertain error false job attempt).1).jobs =
            (w.db.setJob (complete finished .uncertain error false job attempt).1).jobs := by
          simp only [Db.setJob, cancels.jobs]
        exact written ▸ .rests job _ member (complete_id ..).symm (complete_resting ..)
  | deliver clocks worker sockets itemId address =>
    simp only [step]
    rcases claimDelivery_cases clocks worker sockets itemId address w.db ids with
      ⟨db, cancels, silent⟩ | ⟨socket, item, -, -, -, written⟩
    · rw [silent]
      exact cancels.jobs.symm ▸ .nothing
    · rw [written]
      exact .nothing
  | finish worker itemId orgId delivered =>
    simp only [step]
    exact .nothing
  | presence gateways =>
    rw [step_presence]
    exact .nothing

/-- The clock that a lease with a gateway is counted from, read under the lock of
the gateway's row. -/
def Action.reading : Action → Option Zeit
  | .prepare clocks .. | .event clocks .. => some clocks.now
  | _ => none

def AcksInLease (w : World) : Action → Prop
  | .event clocks _ connection tokenHash message reconcile =>
    match eventTarget clocks connection tokenHash message w.db with
    | .error _ => True
    | .ok target =>
      kindOf message target.job = .ack → grants connection reconcile target.job = true →
        target.job.leaseUntil.any (clocks.now < ·) = true
  | _ => True

instance (w : World) (action : Action) : Decidable (AcksInLease w action) := by
  unfold AcksInLease
  split
  · split <;> infer_instance
  · infer_instance

def World.ClaimedFree (w : World) : Prop := ∀ job ∈ w.db.jobs, job.status = .claimed → job.gatewayId = none

def World.Within (w : World) (now : Zeit) : Prop := ∀ orgId gatewayId, inFlight w.db orgId gatewayId now ≤ maxInFlight

section Schritt

variable {w : World} {action : Action} {jobs : List Job}

theorem mem_setJob {db : Db} {job' job : Job} (member : job ∈ (db.setJob job').jobs) : job ∈ db.jobs ∨ job = job' := by
  obtain ⟨old, inside, rfl⟩ := Relational.mem_update.mp member
  by_cases hit : (old.id == job'.id) = true
  · exact Or.inr (if_pos hit)
  · exact Or.inl ((if_neg hit) ▸ inside)

theorem Writes.claimedFree (writes : Writes w action jobs) (claimedFree : w.ClaimedFree) :
    ∀ job ∈ jobs, job.status = .claimed → job.gatewayId = none := by
  have one : ∀ job' : Job, (job'.status = .claimed → job'.gatewayId = none) →
      ∀ job ∈ (w.db.setJob job').jobs, job.status = .claimed → job.gatewayId = none := by
    intro job' isFree job member
    rcases mem_setJob member with old | rfl
    · exact claimedFree job old
    · exact isFree
  cases writes with
  | nothing => exact claimedFree
  | enqueues job resting =>
    intro other member claimed
    rcases List.mem_append.mp member with old | new
    · exact claimedFree other old claimed
    · obtain rfl := List.mem_singleton.mp new
      rw [claimed] at resting
      cases resting
  | rests job job' member same resting =>
    refine one job' fun claimed => ?_
    rw [claimed] at resting
    cases resting
  | claims job job' member same isFree => exact one job' fun _ => isFree
  | leases job job' member same held gateway status =>
    refine one job' fun claimed => ?_
    rw [gateway]
    exact claimedFree job member held
  | dispatches job job' clocks row member same held gateway org status =>
    refine one job' fun claimed => ?_
    rw [status] at claimed
    cases claimed
  | keeps job job' member same lease gateway org active status => exact one job' fun claimed => absurd claimed status
  | renews job job' clocks member same gateway org active status => exact one job' fun claimed => absurd claimed status

theorem Writes.within {db : Db} (writes : Writes w action db.jobs) (ids : (w.db.jobs.map (·.id)).Nodup)
    (claimedFree : w.ClaimedFree) (inLease : AcksInLease w action) {now : Zeit} (within : w.Within now)
    (read : ∀ t ∈ action.reading, t = now) : ∀ orgId gatewayId, inFlight db orgId gatewayId now ≤ maxInFlight := by
  intro orgId gatewayId
  have before := within orgId gatewayId
  have counted : ∀ other : Db, other.jobs = db.jobs → inFlight other orgId gatewayId now = inFlight db orgId gatewayId now := by
    intro other same
    rw [inFlight_eq, inFlight_eq, same]
  have one : ∀ job job' : Job, job ∈ w.db.jobs → job.id = job'.id → (w.db.setJob job').jobs = db.jobs →
      (belegt orgId gatewayId now job' = true → belegt orgId gatewayId now job = true) →
      inFlight db orgId gatewayId now ≤ maxInFlight := by
    intro job job' member same written held
    rw [← counted _ written]
    exact (inFlight_setJob_le ids member same held).trans before
  generalize isJobs : db.jobs = jobs at writes counted one
  cases writes with
  | nothing => exact (counted w.db rfl) ▸ before
  | enqueues job resting =>
    rw [inFlight_eq, isJobs, List.countP_append, ← inFlight_eq, List.countP_singleton, belegt_resting resting]
    exact before
  | rests job job' member same resting =>
    refine one job job' member same rfl fun held => ?_
    rw [belegt_resting resting] at held
    cases held
  | claims job job' member same isFree =>
    refine one job job' member same rfl fun held => ?_
    rw [belegt_elsewhere (by rw [isFree]; nofun)] at held
    cases held
  | leases job job' member same held gateway status =>
    refine one job job' member same rfl fun held' => ?_
    rw [belegt_elsewhere (by rw [gateway, claimedFree job member held]; nofun)] at held'
    cases held'
  | dispatches job job' clocks row member same held gateway org status free read' =>
    obtain ⟨itemId, orgId', jobId, token, eusAvailable, eusTimeout, rfl⟩ := read'
    obtain rfl : clocks.now = now := read _ rfl
    by_cases here : orgId = job.orgId ∧ gatewayId = row.id
    · obtain ⟨rfl, rfl⟩ := here
      have one_more := @inFlight_setJob_succ w.db job job' job.orgId row.id clocks.now ids member same
      rw [← counted _ rfl]
      omega
    · refine one job job' member same rfl fun held' => ?_
      simp only [belegt, gateway, org, Bool.and_eq_true, beq_iff_eq, Option.some.injEq] at held'
      exact absurd ⟨held'.1.1.1.symm, held'.1.1.2.symm⟩ here
  | keeps job job' member same lease gateway org active status =>
    refine one job job' member same rfl fun held => ?_
    simp only [belegt, gateway, org, lease, Bool.and_eq_true] at held ⊢
    exact ⟨⟨held.1.1, active⟩, held.2⟩
  | renews job job' clocks member same gateway org active status read' =>
    obtain ⟨itemId, connection, tokenHash, message, reconcile, target, rfl, accepted, rfl, ack, grant⟩ := read'
    obtain rfl : clocks.now = now := read _ rfl
    have lease : target.job.leaseUntil.any (clocks.now < ·) = true := by
      simp only [AcksInLease, accepted] at inLease
      exact inLease ack grant
    refine one target.job job' member same rfl fun held => ?_
    simp only [belegt, gateway, org, Bool.and_eq_true] at held ⊢
    exact ⟨⟨held.1.1, active⟩, lease⟩

end Schritt

/-- At most `MAX_IN_FLIGHT` jobs of a gateway hold an unexpired lease, in every
run in which no acknowledgement renews a lease that has run out. -/
theorem capacity (sha256 : String → String) (gateways : List SmsGatewayToken) (recipients : List SmsLogRecipient)
    (actions : List Action) (ordered : (actions.filterMap Action.reading).Pairwise (· ≤ ·))
    (inLease : Meets (step sha256) AcksInLease (initial gateways recipients) actions) (now : Zeit)
    (reached : ∀ t ∈ actions.filterMap Action.reading, t ≤ now) (orgId gatewayId : Nat) :
    inFlight (run (step sha256) (initial gateways recipients) actions).db orgId gatewayId now ≤ maxInFlight := by
  have all : ∀ (actions : List Action) (w : World) (past : Zeit), w.Sound → w.ClaimedFree → w.Within past →
      (actions.filterMap Action.reading).Pairwise (· ≤ ·) → (∀ t ∈ actions.filterMap Action.reading, past ≤ t ∧ t ≤ now) →
      past ≤ now → Meets (step sha256) AcksInLease w actions → (run (step sha256) w actions).Within now := by
    intro actions
    induction actions with
    | nil =>
      intro w past sound claimedFree within ordered between le inLease orgId gatewayId
      exact (inFlight_later w.db orgId gatewayId le).trans (within orgId gatewayId)
    | cons action rest ih =>
      intro w past sound claimedFree within ordered between le inLease
      have writes := step_writes sha256 w sound.messageIds action
      have free := writes.claimedFree claimedFree
      have sound' := step_sound sha256 w action sound
      cases isReading : action.reading with
      | none =>
        rw [List.filterMap_cons_none isReading] at ordered between
        have within' : (step sha256 w action).Within past :=
          writes.within sound.jobIds claimedFree inLease.1 within (by rw [isReading]; simp)
        exact ih _ past sound' free within' ordered between le inLease.2
      | some t =>
        rw [List.filterMap_cons_some isReading] at ordered between
        obtain ⟨from_, upto⟩ := between t (List.mem_cons_self ..)
        rw [List.pairwise_cons] at ordered
        have now' : w.Within t := fun orgId gatewayId =>
          (inFlight_later w.db orgId gatewayId from_).trans (within orgId gatewayId)
        have within' : (step sha256 w action).Within t :=
          writes.within sound.jobIds claimedFree inLease.1 now' (by rw [isReading]; simp)
        exact ih _ t sound' free within' ordered.2
          (fun t' later => ⟨ordered.1 t' later, (between t' (List.mem_cons_of_mem _ later)).2⟩) upto inLease.2
  have start : ∀ past, (initial gateways recipients).Within past := fun _ _ _ => Nat.zero_le _
  have free : (initial gateways recipients).ClaimedFree := by
    intro job member
    cases member
  cases readings : actions.filterMap Action.reading with
  | nil =>
    refine all actions _ now initial_coherent.sound free (start now) ordered (fun t member => ?_) le_rfl inLease orgId gatewayId
    rw [readings] at member
    cases member
  | cons first later =>
    rw [readings] at ordered reached
    refine all actions _ first initial_coherent.sound free (start first) (readings ▸ ordered) (fun t member => ?_)
      (reached first (List.mem_cons_self ..)) inLease orgId gatewayId
    rw [readings] at member
    refine ⟨?_, reached t member⟩
    rcases List.mem_cons.mp member with rfl | inside
    · exact le_rfl
    · exact (List.pairwise_cons.mp ordered).1 t inside

section Beispiel

def hexId (n : Nat) : String := String.ofList (List.replicate 31 '0' ++ [Char.ofNat (48 + n)])

/-- Jobs are queued, claimed and handed to the one phone, one after the other. -/
def handedOver (n : Nat) (count at_ : Nat) : List Action :=
  (List.range count).flatMap fun i => [
    .enqueue (sekunden at_) (sekunden at_) (hexId (n + i)) 1 (hexId (n + i)) "+43" "text" [.gateway] none none false,
    .claim (sekunden at_) (hexId (n + i)) "w" 1 (hexId (n + i)),
    .prepare (second at_) (hexId (n + i)) 1 (hexId (n + i)) (hexId (n + i)) false 15]

def acked (count at_ : Nat) : List Action :=
  (List.range count).map fun i =>
    .event (second at_) (hexId (9 + i)) (socket "c1").connection "h"
      [("type", .text "sms.ack"), ("id", .text (hexId i ++ ":1"))] false

theorem capacity_acked :
    inFlight (run (step id) (initial [phone "c1"] []) (handedOver 0 2 0 ++ acked 2 5)).db 1 1 (sekunden 30) = 2 ∧
      inFlight (run (step id) (initial [phone "c1"] []) (handedOver 0 2 0 ++ acked 2 5)).db 1 1 (sekunden 30) ≤ maxInFlight :=
  ⟨by decide +kernel, capacity id [phone "c1"] [] (handedOver 0 2 0 ++ acked 2 5) (by decide +kernel) (by decide +kernel)
    (sekunden 30) (by decide +kernel) 1 1⟩

/-- Seven leases have run out and nothing has been swept when an eighth job is
handed over; the late acknowledgements renew them. -/
theorem capacity_exceeded :
    inFlight (run (step id) (initial [phone "c1"] []) (handedOver 0 7 0 ++ handedOver 7 1 61 ++ acked 7 62)).db 1 1
      (sekunden 62) = 8 := by decide +kernel

end Beispiel

end Einsatzcockpit.Sms
