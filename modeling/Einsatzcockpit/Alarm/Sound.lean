import Einsatzcockpit.Alarm.World

namespace Einsatzcockpit.Alarm

def resends (job : IncidentAlarmJob) : Action → Bool
  | .resend _ incidentId orgId _ => initialTeams incidentId orgId job
  | _ => false

/-- What one transaction can do to a row of `incident_alarm_job`. -/
inductive Move (action : Action) (job : IncidentAlarmJob) : IncidentAlarmJob → Prop
  | keep : Move action job job
  | recover (now : Zeit) (isStale : stale now job = true) (notSms : job.channel ≠ .sms) :
      Move action job (recovered now job)
  | claim (now : Zeit) (isEligible : eligible now job.channel job = true) :
      Move action job (claimed now job.channel job)
  | write (result : IncidentAlarmJob) (isCurrent : job.status = .sending) (settled : result.status ≠ .sending) :
      Move action job (written result job)
  | resend (now : Zeit) (context : Context) (wanted : resends job action = true)
      (ended : job.status = .uncertain ∨ job.status = .failed) : Move action job (resent now context job)
  | free (now : Zeit) (waiting : job.status = .pending ∨ job.status = .retry) :
      Move action job { job with status := .pending, nextAttemptAt := now, leaseUntil := none }

def Db.Numbered (db : Db) : Prop :=
  db.jobs.map (·.id) = List.range' 1 db.jobs.length

theorem Db.Numbered.nodup {db : Db} (numbered : db.Numbered) : (db.jobs.map (·.id)).Nodup := by
  rw [numbered]
  exact List.nodup_range'

theorem Db.mem_of_job? {db : Db} {jobId : Nat} {job : IncidentAlarmJob} (found : db.job? jobId = some job) :
    job ∈ db.jobs ∧ job.id = jobId :=
  ⟨List.mem_of_find?_eq_some found, by simpa using List.find?_some found⟩

theorem Db.Numbered.job?_of_mem {db : Db} (numbered : db.Numbered) {job other : IncidentAlarmJob}
    (found : db.job? other.id = some job) (member : other ∈ db.jobs) : job = other := by
  obtain ⟨inside, same⟩ := Db.mem_of_job? found
  exact List.inj_on_of_nodup_map numbered.nodup inside member same

section Update

variable (db : Db) (id : Nat) (orgId : Option Nat) (guard : IncidentAlarmJob → Bool)
  (values : IncidentAlarmJob → IncidentAlarmJob)

theorem Db.updateJob_job? (keeps : ∀ job, (values job).id = job.id) (jobId : Nat) :
    (db.updateJob id orgId guard values).1.job? jobId =
      (db.job? jobId).map fun job =>
        if job.id == id && job.orgId == orgId && guard job then values job else job :=
  Relational.find?_update _ _ _ _ fun job _ => by rw [keeps]

theorem Db.updateJob_numbered (keeps : ∀ job, (values job).id = job.id) (numbered : db.Numbered) :
    (db.updateJob id orgId guard values).1.Numbered := by
  show (Relational.update _ values db.jobs).map (·.id) = List.range' 1 (Relational.update _ values db.jobs).length
  rw [Relational.map_update keeps, Relational.length_update]
  exact numbered

end Update

section

variable (now : Zeit) (channel : Channel) (job : IncidentAlarmJob)
include now channel job

@[simp] theorem versandbeginn_id :
    (versandbeginn now channel job).id = job.id := by
  unfold versandbeginn
  split <;> rfl

@[simp] theorem claimed_id :
    (claimed now channel job).id = job.id := by
  simp [claimed]

theorem claimed_advance :
    (claimed now channel job).attemptCount = job.attemptCount + 1 ∧
      (claimed now channel job).orgId = job.orgId ∧ (claimed now channel job).channel = job.channel := by
  unfold claimed versandbeginn
  split <;> exact ⟨rfl, rfl, rfl⟩

end

theorem settled_keeps (now : Zeit) (result : SendResult) (job : IncidentAlarmJob) :
    (settled now result job).id = job.id ∧ (settled now result job).orgId = job.orgId ∧
      (settled now result job).status ≠ .sending := by
  cases result with
  | outcome outcome reason =>
    refine ⟨rfl, rfl, ?_⟩
    cases outcome <;> simp [settled, Outcome.status]
  | raised type message statementError =>
    refine ⟨rfl, rfl, ?_⟩
    simp only [settled]
    split <;> simp

section Added

def Db.Extends (db db' : Db) : Prop := db.jobs <+: db'.jobs ∧ db'.Numbered

variable {db db' : Db}

theorem Db.Extends.job? (extends_ : db.Extends db') {jobId : Nat} {job : IncidentAlarmJob}
    (found : db.job? jobId = some job) : db'.job? jobId = some job := by
  obtain ⟨added, rows⟩ := extends_.1
  rw [Db.job?, ← rows, List.find?_append]
  exact Option.or_eq_some_iff.mpr (Or.inl found)

theorem addJob_extends (extends_ : db.Extends db') (job : IncidentAlarmJob) :
    db.Extends (addJob job db') := by
  unfold addJob
  split
  · exact extends_
  · refine ⟨extends_.1.trans (List.prefix_append ..), ?_⟩
    have numbered := extends_.2
    simp only [Db.Numbered, List.map_append, List.map_cons, List.map_nil, List.length_append,
      List.length_singleton] at numbered ⊢
    rw [numbered, List.range'_concat]
    simp [Nat.add_comm]

theorem foldl_addJob_extends (extends_ : db.Extends db') (job : Channel → IncidentAlarmJob)
    (open_ : List Channel) : db.Extends (open_.foldl (fun db channel => addJob (job channel) db) db') := by
  induction open_ generalizing db' with
  | nil => exact extends_
  | cons channel rest ih => exact ih (addJob_extends extends_ _)

variable (umgebung : Umgebung)

theorem enqueueIncidentAlarm_extends (now : Zeit) (incident : Incident) (orgId : Option Nat)
    (source : Option String) (user : Option Nat) (baseUrl pushUrl grund : Option String)
    (numbered : db.Numbered) :
    db.Extends (enqueueIncidentAlarm umgebung now incident orgId source user baseUrl pushUrl grund db) := by
  have start : db.Extends db := ⟨List.prefix_rfl, numbered⟩
  unfold enqueueIncidentAlarm
  dsimp only
  split
  · split
    · exact foldl_addJob_extends start _ _
    · exact foldl_addJob_extends start _ _
  · exact foldl_addJob_extends start _ _

theorem enqueueNachalarmierung_extends (now : Zeit) (incident : Incident) (orgId : Option Nat) (key : String)
    (codes : List String) (source baseUrl pushUrl grund : Option String) (numbered : db.Numbered)
    {created : Bool}
    (added : enqueueNachalarmierung umgebung now incident orgId key codes source baseUrl pushUrl grund db =
      some (created, db')) : db.Extends db' := by
  have start : db.Extends db := ⟨List.prefix_rfl, numbered⟩
  unfold enqueueNachalarmierung at added
  dsimp only at added
  split at added
  · cases added
  · split at added
    · cases added
      exact start
    · cases added
      exact foldl_addJob_extends start _ _

end Added

end Einsatzcockpit.Alarm

namespace Einsatzcockpit.Alarm

/-- Every row of the old database is moved to its row of the new one. -/
structure Db.Moves (action : Action) (db db' : Db) : Prop where
  row : ∀ jobId job, db.job? jobId = some job → ∃ job', db'.job? jobId = some job' ∧ Move action job job'
  numbered : db'.Numbered

theorem Move.keeps {action : Action} {job job' : IncidentAlarmJob} (move : Move action job job') :
    job'.orgId = job.orgId ∧ job'.channel = job.channel ∧ job.attemptCount ≤ job'.attemptCount := by
  cases move with
  | claim now isEligible =>
    obtain ⟨count, org, channel⟩ := claimed_advance now job.channel job
    exact ⟨org, channel, by omega⟩
  | keep | recover | write | resend | free => exact ⟨rfl, rfl, le_rfl⟩

namespace Db.Moves

variable {action : Action} {db db' : Db}

theorem refl (numbered : db.Numbered) : db.Moves action db :=
  ⟨fun _ job found => ⟨job, found, .keep⟩, numbered⟩

theorem extends_ (added : db.Extends db') : db.Moves action db' :=
  ⟨fun _ job found => ⟨job, added.job? found, .keep⟩, added.2⟩

theorem of_jobs (same : db'.jobs = db.jobs) (numbered : db.Numbered) : db.Moves action db' := by
  refine ⟨fun jobId job found => ⟨job, ?_, .keep⟩, ?_⟩
  · rw [Db.job?, same]
    exact found
  · rw [Db.Numbered, same]
    exact numbered

theorem updateJob (numbered : db.Numbered) {id : Nat} {orgId : Option Nat} {guard : IncidentAlarmJob → Bool}
    {values : IncidentAlarmJob → IncidentAlarmJob} (keeps : ∀ job, (values job).id = job.id)
    (move : ∀ job, db.job? id = some job → job.orgId = orgId → guard job = true → Move action job (values job)) :
    db.Moves action (db.updateJob id orgId guard values).1 := by
  refine ⟨fun jobId job found => ?_, db.updateJob_numbered id orgId guard values keeps numbered⟩
  rw [db.updateJob_job? id orgId guard values keeps, found]
  refine ⟨_, rfl, ?_⟩
  dsimp only
  split
  · next hit =>
    simp only [Bool.and_eq_true, beq_iff_eq] at hit
    obtain ⟨⟨atId, org⟩, guarded⟩ := hit
    have same : jobId = id := (Db.mem_of_job? found).2.symm.trans atId
    exact move job (same ▸ found) org guarded
  · exact .keep

end Db.Moves

variable {action : Action} {db : Db} (numbered : db.Numbered)
include numbered

theorem recoverStale_moves (now : Zeit) {jobId : Nat} (orgId : Option Nat)
    (notSms : ∀ job, db.job? jobId = some job → job.channel ≠ .sms) :
    db.Moves action (recoverStale now jobId orgId db) :=
  Db.Moves.updateJob numbered (fun _ => rfl) fun job found _ isStale => .recover now isStale (notSms job found)

theorem claimDue_moves (now : Zeit) {jobId : Nat} (orgId : Option Nat) {channel : Channel}
    (ofChannel : ∀ job, db.job? jobId = some job → job.channel = channel) :
    db.Moves action (claimDue now jobId orgId channel db).1 := by
  refine Db.Moves.updateJob numbered (claimed_id now channel) fun job found _ isEligible => ?_
  rw [← ofChannel job found] at isEligible ⊢
  exact .claim now isEligible

theorem complete_moves (now : Zeit) (result : SendResult) (job : IncidentAlarmJob) (generation : Nat) :
    db.Moves action (complete now result job generation db).1 := by
  have updated : db.Moves action (db.updateJob (settled now result job).id (settled now result job).orgId
      (current generation) (written (settled now result job))).1 := by
    refine Db.Moves.updateJob numbered (fun _ => rfl) fun row _ _ isCurrent => ?_
    simp only [current, Bool.and_eq_true, beq_iff_eq] at isCurrent
    exact .write _ isCurrent.1 (settled_keeps now result job).2.2
  unfold complete
  dsimp only
  split
  · exact .refl numbered
  · exact ⟨updated.row, updated.numbered⟩

theorem teamsManuellErneut_moves (now : Zeit) (incidentId orgId userId : Nat) :
    db.Moves (.resend now incidentId orgId userId) (teamsManuellErneut now incidentId orgId userId db).2 := by
  unfold teamsManuellErneut
  split
  · exact .refl numbered
  · next job found =>
    have inside := List.mem_of_find?_eq_some found
    have wanted : initialTeams incidentId orgId job = true := by simpa using List.find?_some found
    have updated : db.Moves (.resend now incidentId orgId userId) (db.updateJob job.id (some orgId)
        (fun row => row.channel == .teams && row.variant == "" &&
          (row.status == .uncertain || row.status == .failed))
        (resent now { job.context with manualResend := true })).1 := by
      refine Db.Moves.updateJob numbered (fun _ => rfl) fun row atId _ guarded => ?_
      have same : row = job := numbered.job?_of_mem atId inside
      simp only [Bool.and_eq_true, Bool.or_eq_true, beq_iff_eq] at guarded
      exact .resend now _ (by rw [same]; exact wanted) guarded.2
    dsimp only
    split
    · exact .refl numbered
    · split
      · exact .refl numbered
      · exact ⟨updated.row, updated.numbered⟩

theorem haengendeFreigeben_moves (now : Zeit) (orgId jobId : Nat) :
    db.Moves action (haengendeFreigeben now orgId jobId db) := by
  refine Db.Moves.updateJob numbered (fun _ => rfl) fun job _ _ guarded => ?_
  simp only [Bool.and_eq_true, Bool.or_eq_true, beq_iff_eq] at guarded
  exact .free now guarded.1.1.1

theorem finishWrite_moves (incidentId : Nat) (orgId userId : Option Nat)
    (payload : List (Channel × JobStatus × Option String)) (unterdrueckt : Bool) :
    db.Moves action (finishWrite incidentId orgId userId payload unterdrueckt db) := by
  refine .of_jobs ?_ numbered
  unfold finishWrite
  split <;> rfl

omit numbered

def Phase.Sound (db : Db) : Phase → Prop
  | .picked jobId orgId channel _ | .recovered jobId orgId channel _ =>
    ∃ job, db.job? jobId = some job ∧ job.orgId = orgId ∧ job.channel = channel
  | .running jobId generation => ∃ job, db.job? jobId = some job ∧ generation ≤ job.attemptCount
  | .sending job generation => ∃ row, db.job? job.id = some row ∧ generation ≤ row.attemptCount
  | _ => True

variable {db : Db} {world : World}

theorem Phase.Sound.moves {db' : Db} {phase : Phase} (sound : phase.Sound db) (moves : db.Moves action db') :
    phase.Sound db' := by
  have bound : ∀ {jobId generation : Nat}, (∃ job, db.job? jobId = some job ∧ generation ≤ job.attemptCount) →
      ∃ job, db'.job? jobId = some job ∧ generation ≤ job.attemptCount := by
    rintro jobId generation ⟨job, found, below⟩
    obtain ⟨job', found', move⟩ := moves.row jobId job found
    exact ⟨job', found', below.trans move.keeps.2.2⟩
  have read : ∀ {jobId : Nat} {orgId : Option Nat} {channel : Channel},
      (∃ job, db.job? jobId = some job ∧ job.orgId = orgId ∧ job.channel = channel) →
      ∃ job, db'.job? jobId = some job ∧ job.orgId = orgId ∧ job.channel = channel := by
    rintro jobId orgId channel ⟨job, found, org, same⟩
    obtain ⟨job', found', move⟩ := moves.row jobId job found
    exact ⟨job', found', move.keeps.1.trans org, move.keeps.2.1.trans same⟩
  cases phase with
  | picked | recovered => exact read sound
  | running | sending => exact bound sound
  | idle | claimed | done | closing => trivial

/-- The ids of the jobs are in order and every worker's knowledge is true. -/
structure World.Sound (world : World) : Prop where
  numbered : world.db.Numbered
  workers : ∀ worker, (world.workers worker).Sound world.db

theorem World.Sound.move (sound : world.Sound) (moves : world.db.Moves action db)
    (worker : Nat) {phase : Phase} (known : phase.Sound db) : ({ world with db }.move worker phase).Sound := by
  refine ⟨moves.numbered, fun other => ?_⟩
  show (Function.update world.workers worker phase other).Sound db
  by_cases same : other = worker
  · rw [same, Function.update_self]
    exact known
  · rw [Function.update_of_ne same]
    exact (sound.workers other).moves moves

theorem World.Sound.write (sound : world.Sound) (moves : world.db.Moves action db) :
    World.Sound { world with db } :=
  ⟨moves.numbered, fun worker => (sound.workers worker).moves moves⟩

/-- A step moves every row of the database and keeps the workers' knowledge true. -/
structure Steps (action : Action) (world world' : World) : Prop where
  moves : world.db.Moves action world'.db
  sound : world'.Sound

variable (umgebung : Umgebung)

theorem workerStep_steps (sound : world.Sound) (worker : Nat) (request : Action) :
    Steps action world (workerStep world worker request) := by
  have still : world.db.Moves action world.db := .refl sound.numbered
  have stays : Steps action world world := ⟨still, sound⟩
  have moved : ∀ {phase : Phase}, phase.Sound world.db → Steps action world (world.move worker phase) :=
    fun known => ⟨still, sound.move still worker known⟩
  have known := sound.workers worker
  unfold workerStep
  dsimp only
  split
  · split
    · next job found =>
      obtain ⟨inside, atId⟩ := Db.mem_of_job? found
      exact moved ⟨job, atId ▸ found, rfl, rfl⟩
    · exact stays
  · next jobId orgId channel now at_ =>
    rw [at_] at known
    obtain ⟨job, found, org, same⟩ := known
    have moves : world.db.Moves action (if channel = .sms then world.db else recoverStale now jobId orgId world.db) := by
      split
      · exact still
      · next notSms =>
        refine recoverStale_moves sound.numbered now orgId fun row read => ?_
        rw [Option.some.inj (read.symm.trans found), same]
        exact notSms
    exact ⟨moves, sound.move moves worker (Phase.Sound.moves ⟨job, found, org, same⟩ moves)⟩
  · next jobId orgId channel now at_ =>
    rw [at_] at known
    obtain ⟨job, found, org, same⟩ := known
    have moves : world.db.Moves action (claimDue now jobId orgId channel world.db).1 := by
      refine claimDue_moves sound.numbered now orgId fun row read => ?_
      rw [Option.some.inj (read.symm.trans found), same]
    refine ⟨moves, sound.move moves worker ?_⟩
    split <;> trivial
  · split
    · next job found => exact moved ⟨job, found, le_rfl⟩
    · exact moved trivial
  · split
    · exact moved trivial
    · next job found =>
      split
      · exact moved trivial
      · next guards =>
        simp only [ne_eq, not_or, not_not] at guards
        obtain ⟨inside, atId⟩ := Db.mem_of_job? found
        exact moved ⟨job, atId ▸ found, guards.2.1.ge⟩
  · next now result job generation at_ =>
    have moves : world.db.Moves action (complete now result job generation world.db).1 :=
      complete_moves sound.numbered now result job generation
    refine ⟨moves, sound.move moves worker ?_⟩
    split <;> trivial
  · split
    · exact moved trivial
    · exact stays
  · split
    · exact moved trivial
    · exact moved trivial
  · next incidentId orgId userId payload unterdrueckt at_ =>
    have moves : world.db.Moves action (finishWrite incidentId orgId userId payload unterdrueckt world.db) :=
      finishWrite_moves sound.numbered incidentId orgId userId payload unterdrueckt
    exact ⟨moves, sound.move moves worker trivial⟩
  · exact stays

theorem step_steps (sound : world.Sound) (action : Action) :
    Steps action world (step umgebung world action) := by
  have stays : Steps action world world := ⟨.refl sound.numbered, sound⟩
  have writes : ∀ {db : Db}, world.db.Moves action db → Steps action world { world with db } :=
    fun moves => ⟨moves, sound.write moves⟩
  cases action with
  | incident incident =>
    simp only [step]
    split
    · exact stays
    · exact writes (.of_jobs rfl sound.numbered)
  | enqueue now incidentId orgId source user baseUrl pushUrl grund =>
    simp only [step]
    split
    · exact stays
    · exact writes (.extends_ (enqueueIncidentAlarm_extends umgebung _ _ _ _ _ _ _ _ sound.numbered))
  | nachalarm now incidentId orgId key codes source baseUrl pushUrl grund =>
    simp only [step]
    split
    · exact stays
    · next created db added =>
      obtain ⟨incident, -, enqueued⟩ := Option.bind_eq_some_iff.mp added
      exact writes (.extends_ (enqueueNachalarmierung_extends umgebung _ _ _ _ _ _ _ _ _ sound.numbered enqueued))
  | resend now incidentId orgId userId =>
    exact writes (teamsManuellErneut_moves sound.numbered now incidentId orgId userId)
  | freigeben now orgId jobId => exact writes (haengendeFreigeben_moves sound.numbered now orgId jobId)
  | die worker =>
    have still : world.db.Moves (.die worker) world.db := .refl sound.numbered
    exact ⟨still, sound.move still worker trivial⟩
  | pick worker | recover worker | claim worker | generation worker | start worker | complete worker
  | settle worker | finishRead worker | finishWrite worker => exact workerStep_steps sound worker _

theorem run_sound (sound : world.Sound) (actions : List Action) :
    (Transition.run (step umgebung) world actions).Sound :=
  Transition.run_invariant World.Sound (fun _ action held => (step_steps umgebung held action).sound) sound actions

theorem initial_sound : World.Sound {} :=
  ⟨rfl, fun _ => trivial⟩

end Einsatzcockpit.Alarm
