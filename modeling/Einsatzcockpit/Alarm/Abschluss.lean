import Einsatzcockpit.Alarm.Recovery

namespace Einsatzcockpit.Alarm

open Transition

/-- An `incident.alarm_finished` of the incident. -/
def abschluss (incidentId : Nat) (audit : AuditLog) : Bool :=
  audit.action == "incident.alarm_finished" && audit.incidentId == incidentId

def Db.Fertig (db : Db) (incidentId : Nat) : Prop :=
  ∀ job ∈ db.jobs, job.incidentId = incidentId → job.status.terminal = true

def Action.alarmiert (incidentId : Nat) : Action → Bool
  | .enqueue _ id .. | .nachalarm _ id .. | .resend _ id .. => id == incidentId
  | _ => false

/-- A thread that has found the jobs of the incident ended and is about to
record it. -/
def Phase.schliesst (incidentId : Nat) : Phase → Bool
  | .closing id .. => id == incidentId
  | _ => false

namespace Db.Fertig

variable {db : Db} {incidentId : Nat}

theorem of_jobs {db' : Db} (fertig : db.Fertig incidentId) (same : db'.jobs = db.jobs) : db'.Fertig incidentId := by
  unfold Db.Fertig
  rw [same]
  exact fertig

theorem updateJob (fertig : db.Fertig incidentId) {id : Nat} {orgId : Option Nat} {guard : IncidentAlarmJob → Bool}
    {values : IncidentAlarmJob → IncidentAlarmJob} (keeps : ∀ job, (values job).incidentId = job.incidentId)
    (open_ : ∀ job ∈ db.jobs, job.id = id → guard job = true → job.incidentId = incidentId →
      job.status.terminal = false) :
    (db.updateJob id orgId guard values).1.Fertig incidentId := by
  intro job' member ofIncident
  obtain ⟨job, old, rfl⟩ := Relational.mem_update.mp member
  split at ofIncident
  · next hit =>
    rw [keeps] at ofIncident
    simp only [Bool.and_eq_true, beq_iff_eq] at hit
    have ended := fertig job old ofIncident
    rw [open_ job old hit.1.1 hit.2 ofIncident] at ended
    cases ended
  · next missed =>
    rw [if_neg missed]
    exact fertig job old ofIncident

end Db.Fertig

theorem stale_open {now : Zeit} {job : IncidentAlarmJob} (isStale : stale now job = true) : job.status.terminal = false := by
  simp only [stale, Bool.and_eq_true, beq_iff_eq] at isStale
  rw [isStale.1]
  rfl

theorem eligible_open {now : Zeit} {channel : Channel} {job : IncidentAlarmJob}
    (isEligible : eligible now channel job = true) : job.status.terminal = false := by
  simp only [eligible, Bool.or_eq_true, Bool.and_eq_true] at isEligible
  rcases isEligible with isDue | ⟨-, isStale⟩
  · simp only [due, Bool.and_eq_true, Bool.or_eq_true, beq_iff_eq] at isDue
    rcases isDue.1 with pending | retry
    · rw [pending]
      rfl
    · rw [retry]
      rfl
  · exact stale_open isStale

theorem current_open {generation : Nat} {job : IncidentAlarmJob} (isCurrent : current generation job = true) :
    job.status.terminal = false := by
  simp only [current, Bool.and_eq_true, beq_iff_eq] at isCurrent
  rw [isCurrent.1]
  rfl

section Fertig

variable {db : Db} {incidentId : Nat}

theorem claimed_incidentId (now : Zeit) (channel : Channel) (job : IncidentAlarmJob) :
    (claimed now channel job).incidentId = job.incidentId := by
  unfold claimed versandbeginn
  split <;> rfl

section

variable (fertig : db.Fertig incidentId)
include fertig

theorem complete_fertig (now : Zeit) (result : SendResult) (job : IncidentAlarmJob)
    (generation : Nat) : (complete now result job generation db).1.Fertig incidentId := by
  have updated : (db.updateJob (settled now result job).id (settled now result job).orgId (current generation)
      (written (settled now result job))).1.Fertig incidentId :=
    fertig.updateJob (fun _ => rfl) fun row _ _ isCurrent _ => current_open isCurrent
  unfold complete
  dsimp only
  split
  · exact fertig
  · exact updated.of_jobs rfl

theorem addJob_fertig {job : IncidentAlarmJob} (other : job.incidentId ≠ incidentId) :
    (addJob job db).Fertig incidentId := by
  unfold addJob
  split
  · exact fertig
  · intro row member ofIncident
    rcases List.mem_append.mp member with old | new
    · exact fertig row old ofIncident
    · rw [List.mem_singleton.mp new] at ofIncident
      exact absurd ofIncident other

theorem foldl_addJob_fertig {job : Channel → IncidentAlarmJob}
    (other : ∀ channel, (job channel).incidentId ≠ incidentId) (open_ : List Channel) :
    (open_.foldl (fun db channel => addJob (job channel) db) db).Fertig incidentId := by
  induction open_ generalizing db with
  | nil => exact fertig
  | cons channel rest ih => exact ih (addJob_fertig fertig (other channel))

end

theorem addJob_audits (job : IncidentAlarmJob) : (addJob job db).audits = db.audits := by
  unfold addJob
  split <;> rfl

theorem foldl_addJob_audits (db : Db) (job : Channel → IncidentAlarmJob) (open_ : List Channel) :
    (open_.foldl (fun db channel => addJob (job channel) db) db).audits = db.audits := by
  induction open_ generalizing db with
  | nil => rfl
  | cons channel rest ih => exact (ih (addJob (job channel) db)).trans (addJob_audits _)

section Enqueue

variable (umgebung : Umgebung) {incident : Incident}

theorem enqueueIncidentAlarm_fremd (now : Zeit) (orgId : Option Nat) (source : Option String) (user : Option Nat)
    (baseUrl pushUrl grund : Option String) (db : Db) :
    let db' := enqueueIncidentAlarm umgebung now incident orgId source user baseUrl pushUrl grund db
    (incident.id ≠ incidentId → db.Fertig incidentId → db'.Fertig incidentId) ∧ db'.audits = db.audits := by
  have added (context : Context) (open_ : List Channel) :
      let db' := open_.foldl (fun db channel => addJob (newJob umgebung now incident orgId "" context channel) db) db
      (incident.id ≠ incidentId → db.Fertig incidentId → db'.Fertig incidentId) ∧ db'.audits = db.audits :=
    ⟨fun other fertig => foldl_addJob_fertig fertig (fun _ => other) open_, foldl_addJob_audits db _ open_⟩
  unfold enqueueIncidentAlarm
  dsimp only
  split
  · split
    · exact ⟨fun other fertig => ((added _ _).1 other fertig).of_jobs rfl, (added _ _).2⟩
    · exact added _ _
  · exact added _ _

theorem enqueueNachalarmierung_fremd {now : Zeit} {orgId : Option Nat} {key : String} {codes : List String}
    {source baseUrl pushUrl grund : Option String} {created : Bool} {db' : Db}
    (added : enqueueNachalarmierung umgebung now incident orgId key codes source baseUrl pushUrl grund db =
      some (created, db')) :
    (incident.id ≠ incidentId → db.Fertig incidentId → db'.Fertig incidentId) ∧ db'.audits = db.audits := by
  unfold enqueueNachalarmierung at added
  dsimp only at added
  split at added
  · cases added
  · split at added
    · cases added
      exact ⟨fun _ fertig => fertig, rfl⟩
    · cases added
      exact ⟨fun other fertig => foldl_addJob_fertig fertig (fun _ => other) _, foldl_addJob_audits db _ _⟩

end Enqueue

theorem teamsManuellErneut_audits (now : Zeit) (id orgId userId : Nat) :
    (teamsManuellErneut now id orgId userId db).2.audits.countP (abschluss incidentId) =
      db.audits.countP (abschluss incidentId) := by
  unfold teamsManuellErneut
  split
  · rfl
  · dsimp only
    split
    · rfl
    · split
      · rfl
      · rw [List.countP_append]
        rfl

theorem teamsManuellErneut_fertig (numbered : db.Numbered) (fertig : db.Fertig incidentId) (now : Zeit)
    {id : Nat} (orgId userId : Nat) (other : id ≠ incidentId) :
    (teamsManuellErneut now id orgId userId db).2.Fertig incidentId := by
  unfold teamsManuellErneut
  split
  · exact fertig
  · next job found =>
    have inside := List.mem_of_find?_eq_some found
    have wanted : initialTeams id orgId job = true := by simpa using List.find?_some found
    simp only [initialTeams, Bool.and_eq_true, beq_iff_eq] at wanted
    have updated : (db.updateJob job.id (some orgId)
        (fun row => row.channel == .teams && row.variant == "" && (row.status == .uncertain || row.status == .failed))
        (resent now { job.context with manualResend := true })).1.Fertig incidentId := by
      refine fertig.updateJob (fun _ => rfl) fun row member sameId _ ofIncident => ?_
      rw [List.inj_on_of_nodup_map numbered.nodup member inside sameId, wanted.1.1.1] at ofIncident
      exact absurd ofIncident other
    dsimp only
    split
    · exact fertig
    · split
      · exact fertig
      · exact updated.of_jobs rfl

theorem haengendeFreigeben_fertig (fertig : db.Fertig incidentId) (now : Zeit) (orgId jobId : Nat) :
    (haengendeFreigeben now orgId jobId db).Fertig incidentId := by
  refine fertig.updateJob (fun _ => rfl) fun job _ _ guarded _ => ?_
  simp only [Bool.and_eq_true, Bool.or_eq_true, beq_iff_eq] at guarded
  rcases guarded.1.1.1 with pending | retry
  · rw [pending]
    rfl
  · rw [retry]
    rfl

/-- What `finishRead` goes on with is read while every job has ended. -/
theorem finishRead_fertig {results : List (Channel × JobStatus × Option String) × Bool}
    (read : finishRead incidentId db = some results) : db.Fertig incidentId := by
  unfold finishRead at read
  dsimp only at read
  split at read
  · cases read
  · next ended =>
    simp only [not_or, Bool.not_eq_true, List.any_eq_false, Bool.not_eq_false'] at ended
    intro job member ofIncident
    have listed := ended.2 job (List.mem_filter.mpr ⟨member, beq_iff_eq.mpr ofIncident⟩)
    simpa using listed

end Fertig

/-- What a step does to the end of an alarm: where `frei` holds no ended job is
opened again; at most the first record is written, by a thread that has found
the jobs ended. -/
structure Schritt (frei : Prop) (incidentId : Nat) (world world' : World) : Prop where
  fertig : frei → world.db.Fertig incidentId → world'.db.Fertig incidentId
  audits : world'.db.audits.countP (abschluss incidentId) = world.db.audits.countP (abschluss incidentId) ∨
    world.db.audits.countP (abschluss incidentId) = 0 ∧ world'.db.audits.countP (abschluss incidentId) = 1 ∧
      ∃ worker, (world.workers worker).schliesst incidentId = true
  schliesst : ∀ worker, (world'.workers worker).schliesst incidentId = true →
    (world.workers worker).schliesst incidentId = true ∨ world.db.Fertig incidentId

namespace Schritt

variable {frei : Prop} {incidentId : Nat} {world : World}

theorem refl : Schritt frei incidentId world world := ⟨fun _ fertig => fertig, Or.inl rfl, fun _ closing => Or.inl closing⟩

theorem write {db : Db} (fertig : frei → world.db.Fertig incidentId → db.Fertig incidentId)
    (audits : db.audits.countP (abschluss incidentId) = world.db.audits.countP (abschluss incidentId)) :
    Schritt frei incidentId world { world with db } :=
  ⟨fertig, Or.inl audits, fun _ closing => Or.inl closing⟩

theorem move {db : Db} (step : Schritt frei incidentId world { world with db }) (worker : Nat) {phase : Phase}
    (known : phase.schliesst incidentId = true → world.db.Fertig incidentId) :
    Schritt frei incidentId world ({ world with db }.move worker phase) where
  fertig := step.fertig
  audits := step.audits
  schliesst := fun other closing => by
    have at_ : ({ world with db }.move worker phase).workers other = Function.update world.workers worker phase other := rfl
    rw [at_] at closing
    by_cases same : other = worker
    · rw [same, Function.update_self] at closing
      exact Or.inr (known closing)
    · rw [Function.update_of_ne same] at closing
      exact Or.inl closing

end Schritt

section Run

variable {frei : Prop} {incidentId : Nat} {world : World}

theorem finishWrite_audits (db : Db) (id : Nat) (orgId userId : Option Nat)
    (payload : List (Channel × JobStatus × Option String)) (unterdrueckt : Bool) :
    (finishWrite id orgId userId payload unterdrueckt db).audits.countP (abschluss incidentId) =
        db.audits.countP (abschluss incidentId) ∨
      db.audits.countP (abschluss incidentId) = 0 ∧
        (finishWrite id orgId userId payload unterdrueckt db).audits.countP (abschluss incidentId) = 1 ∧
        id = incidentId := by
  unfold finishWrite
  split
  · exact Or.inl rfl
  · next fresh =>
    have written : (db.audits ++ [({
        action := "incident.alarm_finished", orgId, userId, incidentId := id, payload := .finished payload } : AuditLog)]).countP
          (abschluss incidentId) = db.audits.countP (abschluss incidentId) + if id = incidentId then 1 else 0 := by
      rw [List.countP_append, List.countP_singleton]
      simp only [abschluss, beq_self_eq_true, Bool.true_and, beq_iff_eq]
    by_cases same : id = incidentId
    · subst same
      have none : db.audits.countP (abschluss id) = 0 := by
        rw [List.countP_eq_zero]
        intro audit member hit
        exact fresh (List.any_eq_true.mpr ⟨audit, member, hit⟩)
      rw [if_pos rfl, none] at written
      exact Or.inr ⟨none, written, rfl⟩
    · rw [if_neg same] at written
      exact Or.inl written

theorem workerStep_schritt (worker : Nat) (action : Action) :
    Schritt frei incidentId world (workerStep world worker action) := by
  have moved {phase : Phase} (idle : phase.schliesst incidentId = false) :
      Schritt frei incidentId world (world.move worker phase) := by
    refine @Schritt.move frei incidentId world world.db .refl worker phase fun closing => ?_
    rw [idle] at closing
    cases closing
  unfold workerStep
  dsimp only
  split
  · split
    · exact moved rfl
    · exact .refl
  · next jobId orgId channel now _ =>
    refine Schritt.move (.write (fun _ fertig => ?_) ?_) worker (fun closing => by cases closing)
    · split
      · exact fertig
      · exact fertig.updateJob (fun _ => rfl) fun _ _ _ isStale _ => stale_open isStale
    · split <;> rfl
  · next jobId orgId channel now _ =>
    refine Schritt.move (.write (fun _ fertig => ?_) ?_) worker (fun closing => ?_)
    · exact fertig.updateJob (claimed_incidentId now channel) fun _ _ _ isEligible _ => eligible_open isEligible
    · rfl
    · split at closing <;> cases closing
  · split
    · exact moved rfl
    · exact moved rfl
  · split
    · exact moved rfl
    · split
      · exact moved rfl
      · exact moved rfl
  · next now result job generation _ =>
    refine Schritt.move (.write (fun _ fertig => complete_fertig fertig now result job generation) ?_) worker
      (fun closing => ?_)
    · unfold complete
      dsimp only
      split <;> rfl
    · split at closing <;> cases closing
  · split
    · exact moved rfl
    · exact .refl
  · next id orgId userId _ =>
    split
    · next payload unterdrueckt read =>
      refine @Schritt.move frei incidentId world world.db .refl worker _ fun closing => ?_
      exact beq_iff_eq.mp closing ▸ finishRead_fertig read
    · exact moved rfl
  · next id orgId userId payload unterdrueckt at_ =>
    refine Schritt.move ⟨fun _ fertig => ?_, ?_, fun _ closing => Or.inl closing⟩ worker (fun closing => by cases closing)
    · refine fertig.of_jobs ?_
      unfold finishWrite
      split <;> rfl
    · rcases finishWrite_audits world.db id orgId userId payload unterdrueckt with same | ⟨none, one, ofIncident⟩
      · exact Or.inl same
      · refine Or.inr ⟨none, one, worker, ?_⟩
        rw [at_]
        exact beq_iff_eq.mpr ofIncident
  · exact .refl

variable (umgebung : Umgebung)

theorem step_schritt (sound : world.Sound) (action : Action) :
    Schritt (action.alarmiert incidentId = false) incidentId world (step umgebung world action) := by
  cases action with
  | incident incident =>
    simp only [step]
    split
    · exact .refl
    · exact .write (fun _ fertig => fertig.of_jobs rfl) rfl
  | enqueue now id orgId source user baseUrl pushUrl grund =>
    simp only [step]
    split
    · exact .refl
    · next incident found =>
      have ofIncident : incident.id = id := by simpa using List.find?_some found
      obtain ⟨fertig, audits⟩ :=
        @enqueueIncidentAlarm_fremd incidentId umgebung incident now orgId source user baseUrl pushUrl grund world.db
      exact .write (fun free => fertig (ofIncident ▸ beq_eq_false_iff_ne.mp free)) (congrArg _ audits)
  | nachalarm now id orgId key codes source baseUrl pushUrl grund =>
    simp only [step]
    split
    · exact .refl
    · next created db added =>
      obtain ⟨incident, found, enqueued⟩ := Option.bind_eq_some_iff.mp added
      have ofIncident : incident.id = id := by simpa using List.find?_some found
      obtain ⟨fertig, audits⟩ := enqueueNachalarmierung_fremd umgebung enqueued
      exact .write (fun free => fertig (ofIncident ▸ beq_eq_false_iff_ne.mp free)) (congrArg _ audits)
  | resend now id orgId userId =>
    refine .write (fun free fertig => ?_) (teamsManuellErneut_audits now id orgId userId)
    exact teamsManuellErneut_fertig sound.numbered fertig now orgId userId (beq_eq_false_iff_ne.mp free)
  | freigeben now orgId jobId => exact .write (fun _ fertig => haengendeFreigeben_fertig fertig now orgId jobId) rfl
  | die worker =>
    exact @Schritt.move _ incidentId world world.db .refl worker .idle fun closing => by cases closing
  | pick worker | recover worker | claim worker | generation worker | start worker | complete worker
  | settle worker | finishRead worker | finishWrite worker => exact workerStep_schritt worker _

theorem run_einmal (sound : world.Sound) (once : world.db.audits.countP (abschluss incidentId) ≤ 1)
    (actions : List Action) :
    (run (step umgebung) world actions).db.audits.countP (abschluss incidentId) ≤ 1 := by
  have kept (w : World) (action : Action) (held : w.Sound ∧ w.db.audits.countP (abschluss incidentId) ≤ 1) :
      (step umgebung w action).Sound ∧ (step umgebung w action).db.audits.countP (abschluss incidentId) ≤ 1 := by
    refine ⟨(step_steps umgebung held.1 action).sound, ?_⟩
    have schritt : Schritt (action.alarmiert incidentId = false) incidentId w _ := step_schritt umgebung held.1 action
    rcases schritt.audits with same | ⟨-, one, -⟩
    · exact same ▸ held.2
    · exact one.le
  exact (run_invariant (fun w : World => w.Sound ∧ w.db.audits.countP (abschluss incidentId) ≤ 1) kept ⟨sound, once⟩
    actions).2

/-- While nothing alarms for the incident again, its end is recorded, and is
about to be, only with all jobs ended. -/
structure Geprueft (incidentId before : Nat) (world : World) : Prop where
  sound : world.Sound
  geprueft : ∀ worker, (world.workers worker).schliesst incidentId = true → world.db.Fertig incidentId
  geschrieben : before < world.db.audits.countP (abschluss incidentId) → world.db.Fertig incidentId

theorem Geprueft.step {before : Nat} (held : Geprueft incidentId before world) {action : Action}
    (free : action.alarmiert incidentId = false) : Geprueft incidentId before (step umgebung world action) := by
  have schritt := @step_schritt incidentId world umgebung held.sound action
  have stays := schritt.fertig free
  refine ⟨(step_steps umgebung held.sound action).sound, fun worker closing => ?_, fun more => ?_⟩
  · rcases schritt.schliesst worker closing with before | found
    · exact stays (held.geprueft worker before)
    · exact stays found
  · rcases schritt.audits with same | ⟨-, -, worker, closing⟩
    · exact stays (held.geschrieben (same ▸ more))
    · exact stays (held.geprueft worker closing)

end Run

variable (umgebung : Umgebung)

/-- After every history, and through every interleaving of the channel threads
from there, the end of an alarm is recorded at most once, and when it is,
every job of the incident has ended. -/
theorem alarm_finished_einmal (vorher kanaele : List Action) (incidentId : Nat) :
    let start := run (step umgebung) {} vorher
    let ende := run (step umgebung) start kanaele
    ende.db.audits.countP (abschluss incidentId) ≤ 1 ∧
      ((∀ worker, (start.workers worker).schliesst incidentId = false) →
        (∀ action ∈ kanaele, action.alarmiert incidentId = false) →
        start.db.audits.countP (abschluss incidentId) < ende.db.audits.countP (abschluss incidentId) →
        ∀ job ∈ ende.db.jobs, job.incidentId = incidentId → job.status.terminal = true) := by
  intro start ende
  have sound : start.Sound := run_sound umgebung initial_sound vorher
  have once : start.db.audits.countP (abschluss incidentId) ≤ 1 :=
    run_einmal umgebung initial_sound (Nat.zero_le 1) vorher
  refine ⟨run_einmal umgebung sound once kanaele, fun vorPruefung free more => ?_⟩
  have begin_ : Geprueft incidentId (start.db.audits.countP (abschluss incidentId)) start := by
    refine ⟨sound, fun worker closing => ?_, fun more => absurd more (lt_irrefl _)⟩
    rw [vorPruefung worker] at closing
    cases closing
  have ende := run_induction (Geprueft incidentId _) (fun _ _ held free => held.step umgebung free) begin_
    (.of_forall (fun action inside _ => free action inside) start)
  exact ende.geschrieben more

def eineAlarmierung : List Action := [.incident { id := 1 }, .enqueue 0 1 none none none none none none]

/-- The four channels of an alarm; the last two of them find all ended and both
go on to record it. -/
def vierKanaele : List Action :=
  [0, 1, 2, 3].flatMap (fun w =>
    [.pick w (w + 1) 0, .recover w, .claim w, .generation w, .start w, .complete w 1 (.outcome .sent none)]) ++
    [.finishRead 2, .finishRead 3, .finishWrite 3, .finishWrite 2]

theorem alarm_finished_einmal_kanaele :
    let ende := run (step probe) (run (step probe) {} eineAlarmierung) vierKanaele
    ende.db.audits.countP (abschluss 1) = 1 ∧ ∀ job ∈ ende.db.jobs, job.incidentId = 1 → job.status.terminal = true := by
  dsimp only
  have one : (run (step probe) (run (step probe) {} eineAlarmierung) vierKanaele).db.audits.countP (abschluss 1) = 1 := by
    decide +kernel
  have keiner : (run (step probe) {} eineAlarmierung).db.audits.countP (abschluss 1) = 0 := by decide +kernel
  have idle (worker : Nat) : ((run (step probe) {} eineAlarmierung).workers worker).schliesst 1 = false := rfl
  have free : ∀ action ∈ vierKanaele, action.alarmiert 1 = false := by decide +kernel
  have law := alarm_finished_einmal probe eineAlarmierung vierKanaele 1
  dsimp only at law
  rw [keiner, one] at law
  exact ⟨one, law.2 idle free Nat.zero_lt_one⟩

end Einsatzcockpit.Alarm
