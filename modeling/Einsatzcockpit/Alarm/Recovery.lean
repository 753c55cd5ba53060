import Einsatzcockpit.Lib.Register
import Einsatzcockpit.Alarm.Sound

namespace Einsatzcockpit.Alarm

open Transition

/-- The attempt counter is the generation of a job, which lives while it is sending. -/
abbrev StaleJob (generation : Nat) (job : IncidentAlarmJob) : Prop :=
  Fence.Stale IncidentAlarmJob.attemptCount (fun job => job.status = .sending) generation job

abbrev AdvancesJob (job job' : IncidentAlarmJob) : Prop :=
  Fence.Advances IncidentAlarmJob.attemptCount (fun job => job.status = .sending) job job'

variable {job : IncidentAlarmJob} {world : World} {jobId generation : Nat} {db : Db}

theorem Move.advances {action : Action} {job' : IncidentAlarmJob} (move : Move action job job') :
    AdvancesJob job job' := by
  cases move with
  | keep => exact .refl job
  | recover now isStale notSms => exact .of_dead rfl (by simp [recovered])
  | claim now isEligible =>
    have count := (claimed_advance now job.channel job).1
    exact .of_lt (by omega)
  | write result isCurrent settled => exact .of_dead rfl settled
  | resend now context wanted ended => exact .of_dead rfl (by simp [resent])
  | free now waiting => exact .of_dead rfl (by simp)

theorem Move.uncertain {action : Action} {job' : IncidentAlarmJob} (move : Move action job job')
    (uncertain : job.status = .uncertain) (automatic : resends job action = false) : job' = job := by
  cases move with
  | keep => rfl
  | recover now isStale notSms => simp [stale, uncertain] at isStale
  | claim now isEligible => simp [eligible, due, stale, uncertain] at isEligible
  | write result isCurrent settled => simp [uncertain] at isCurrent
  | resend now context wanted ended => simp [wanted] at automatic
  | free now waiting => simp [uncertain] at waiting

variable (umgebung : Umgebung)

theorem run_advances (sound : world.Sound) (actions : List Action) (found : world.db.job? jobId = some job) :
    ∃ job', (run (step umgebung) world actions).db.job? jobId = some job' ∧ AdvancesJob job job' := by
  induction actions generalizing world job with
  | nil => exact ⟨job, found, .refl job⟩
  | cons action rest ih =>
    have steps := step_steps umgebung sound action
    obtain ⟨between, atBetween, move⟩ := steps.moves.row jobId job found
    obtain ⟨job', atEnd, advances⟩ := ih steps.sound atBetween
    exact ⟨job', atEnd, move.advances.trans advances⟩

theorem run_uncertain (sound : world.Sound) {actions : List Action} (found : world.db.job? jobId = some job) (uncertain : job.status = .uncertain)
    (automatic : ∀ action ∈ actions, resends job action = false) :
    (run (step umgebung) world actions).db.job? jobId = some job := by
  induction actions generalizing world with
  | nil => exact found
  | cons action rest ih =>
    have steps := step_steps umgebung sound action
    obtain ⟨job', atNext, move⟩ := steps.moves.row jobId job found
    have same := move.uncertain uncertain (automatic action (List.mem_cons_self ..))
    subst same
    exact ih steps.sound atNext fun a member => automatic a (List.mem_cons_of_mem _ member)

/-- `_due_incident_ids_sync`, before `distinct` -/
def dueIncidentIds (now : Zeit) (db : Db) : List Nat :=
  (db.jobs.filter fun job => due now job || stale now job).map (·.incidentId)

/-- The worker holds a generation of the job: it has read it and not yet finished. -/
def Holds (phase : Phase) (jobId generation : Nat) : Prop :=
  phase = .running jobId generation ∨ ∃ job, phase = .sending job generation ∧ job.id = jobId

instance (phase : Phase) (jobId generation : Nat) : Decidable (Holds phase jobId generation) :=
  match phase with
  | .running j g => decidable_of_iff (j = jobId ∧ g = generation) (by simp [Holds])
  | .sending job g => decidable_of_iff (g = generation ∧ job.id = jobId) (by simp [Holds])
  | .idle | .picked .. | .recovered .. | .claimed _ | .done .. | .closing .. => isFalse (by simp [Holds])

/-- The job was superseded or recovered since the worker read its generation. -/
def Lost (world : World) (worker jobId generation : Nat) : Prop :=
  Holds (world.workers worker) jobId generation ∧
    ∃ job, world.db.job? jobId = some job ∧ StaleJob generation job

theorem Phase.Sound.bound {phase : Phase} (sound : phase.Sound db)
    (holds : Holds phase jobId generation) (found : db.job? jobId = some job) :
    generation ≤ job.attemptCount := by
  have known : ∃ row, db.job? jobId = some row ∧ generation ≤ row.attemptCount := by
    rcases holds with rfl | ⟨snapshot, rfl, rfl⟩
    · exact sound
    · exact sound
  obtain ⟨row, atId, below⟩ := known
  rw [Option.some.inj (found.symm.trans atId)]
  exact below

theorem complete_stale (numbered : db.Numbered) (now : Zeit) (result : SendResult)
    {snapshot row : IncidentAlarmJob} (found : db.job? snapshot.id = some row)
    (isStale : StaleJob generation row) : complete now result snapshot generation db = (db, false) := by
  have none : db.jobs.countP (fun job => job.id == (settled now result snapshot).id &&
      job.orgId == (settled now result snapshot).orgId && current generation job) = 0 := by
    refine List.countP_eq_zero.mpr fun job member hit => ?_
    simp only [current, Bool.and_eq_true, beq_iff_eq, (settled_keeps now result snapshot).1] at hit
    have same : row = job := numbered.job?_of_mem (hit.1.1 ▸ found) member
    subst same
    exact isStale.refused hit.2
  unfold complete
  dsimp only [Db.updateJob]
  rw [none, if_pos (by decide)]

theorem workerStep_complete {worker : Nat} {snapshot : IncidentAlarmJob}
    (at_ : world.workers worker = .sending snapshot generation) (now : Zeit) (result : SendResult) :
    (step umgebung world (.complete worker now result)).db = (complete now result snapshot generation world.db).1 := by
  simp only [step, workerStep, at_]
  rfl

theorem step_recover {worker : Nat} {orgId : Option Nat} {channel : Channel} {now : Zeit}
    (sound : world.Sound) (at_ : world.workers worker = .picked jobId orgId channel now)
    (found : world.db.job? jobId = some job) (notSms : job.channel ≠ .sms) (expired : stale now job = true) :
    (step umgebung world (.recover worker)).db.job? jobId = some (recovered now job) := by
  have known := sound.workers worker
  rw [at_] at known
  obtain ⟨row, read, org, same⟩ := known
  cases Option.some.inj (found.symm.trans read)
  have external : channel ≠ .sms := same ▸ notSms
  simp only [step, workerStep, at_, if_neg external]
  show (recoverStale now jobId orgId world.db).job? jobId = _
  rw [recoverStale, Db.updateJob_job? world.db jobId orgId (stale now) (recovered now) fun _ => rfl, found]
  simp [(Db.mem_of_job? found).2, org, expired]

theorem dueIncidentIds_of_expired {now : Zeit}
    (found : db.job? jobId = some job) (expired : stale now job = true) :
    job.incidentId ∈ dueIncidentIds now db := by
  have inside := (Db.mem_of_job? found).1
  refine List.mem_map.mpr ⟨job, List.mem_filter.mpr ⟨inside, ?_⟩, rfl⟩
  simp [expired]

end Einsatzcockpit.Alarm

namespace Einsatzcockpit.Alarm

open Transition

variable (umgebung : Umgebung)

theorem holds_lost {world : World} {worker jobId : Nat} {orgId : Option Nat} {channel : Channel} {now : Zeit}
    (sound : world.Sound) (at_ : world.workers worker = .picked jobId orgId channel now) {job : IncidentAlarmJob}
    (found : world.db.job? jobId = some job) (notSms : job.channel ≠ .sms) (expired : stale now job = true)
    {other generation : Nat} (holds : Holds (world.workers other) jobId generation) :
    Lost (step umgebung world (.recover worker)) other jobId generation := by
  have different : other ≠ worker := by
    rintro rfl
    rw [at_] at holds
    rcases holds with running | ⟨snapshot, sending, -⟩
    · cases running
    · cases sending
  have kept : (step umgebung world (.recover worker)).workers other = world.workers other := by
    simp only [step, workerStep, at_]
    exact Function.update_of_ne different _ _
  refine ⟨kept ▸ holds, recovered now job, step_recover umgebung sound at_ found notSms expired, ?_⟩
  have bound : generation ≤ job.attemptCount := (sound.workers other).bound holds found
  exact .of_dead bound (by simp [recovered])

theorem lost_complete {world : World} (sound : world.Sound) (after : List Action) {worker jobId generation : Nat}
    (lost : Lost world worker jobId generation) {snapshot : IncidentAlarmJob} (now : Zeit) (result : SendResult)
    (at_ : (run (step umgebung) world after).workers worker = .sending snapshot generation)
    (same : snapshot.id = jobId) :
    (step umgebung (run (step umgebung) world after) (.complete worker now result)).db =
      (run (step umgebung) world after).db := by
  obtain ⟨-, job, found, isStale⟩ := lost
  obtain ⟨job', atEnd, advances⟩ := run_advances umgebung sound after found
  have numbered := (run_sound umgebung sound after).numbered
  rw [workerStep_complete umgebung at_]
  rw [complete_stale numbered now result (same ▸ atEnd) (isStale.advance advances)]

/-- A claimed job with an expired lease is due, and the outbox run that finds
it makes it uncertain and takes it from its worker; an uncertain job is left
alone until its manual retry, and a worker that lost its generation changes
nothing when it finishes. -/
theorem expired_uncertain (before after : List Action) :
    let world := run (step umgebung) {} before
    (∀ worker jobId orgId channel now job, world.workers worker = .picked jobId orgId channel now →
        world.db.job? jobId = some job → job.channel ≠ .sms → stale now job = true →
        job.incidentId ∈ dueIncidentIds now world.db ∧
          (step umgebung world (.recover worker)).db.job? jobId = some (recovered now job) ∧
          ∀ other generation, Holds (world.workers other) jobId generation →
            Lost (step umgebung world (.recover worker)) other jobId generation) ∧
      (∀ jobId job, world.db.job? jobId = some job → job.status = .uncertain →
        (∀ action ∈ after, resends job action = false) →
        (run (step umgebung) world after).db.job? jobId = some job) ∧
      ∀ worker jobId generation snapshot now result, Lost world worker jobId generation →
        (run (step umgebung) world after).workers worker = .sending snapshot generation → snapshot.id = jobId →
        (step umgebung (run (step umgebung) world after) (.complete worker now result)).db =
          (run (step umgebung) world after).db := by
  intro world
  have sound : world.Sound := run_sound umgebung initial_sound before
  refine ⟨?_, ?_, ?_⟩
  · intro worker jobId orgId channel now job at_ found notSms expired
    refine ⟨dueIncidentIds_of_expired found expired, step_recover umgebung sound at_ found notSms expired, ?_⟩
    intro other generation holds
    exact holds_lost umgebung sound at_ found notSms expired holds
  · intro jobId job found uncertain automatic
    exact run_uncertain umgebung sound found uncertain automatic
  · intro worker jobId generation snapshot now result lost at_ same
    exact lost_complete umgebung sound after lost now result at_ same

def probe : Umgebung := { lower := String.toLower, sha1 := id, publicBaseUrl := "" }

def sendingRun (orgId : Option Nat) (jobId : Nat) : List Action :=
  [.incident { id := 1, primaryOrgId := orgId }, .enqueue 0 1 orgId none none none none none,
    .pick 0 jobId 0, .recover 0, .claim 0, .generation 0, .start 0]

theorem expired_uncertain_push :
    let world := run (step probe) {} (sendingRun none 2 ++ [.pick 1 2 (minuten 6)])
    let recovered := step probe world (.recover 1)
    1 ∈ dueIncidentIds (minuten 6) world.db ∧
      (∀ job ∈ recovered.db.job? 2, job.status = .uncertain) ∧ Lost recovered 0 2 1 ∧
      (step probe recovered (.complete 0 (minuten 7) (.outcome .sent none))).db = recovered.db := by
  intro world recovered'
  obtain ⟨job, found⟩ := Option.isSome_iff_exists.mp (by decide +kernel : (world.db.job? 2).isSome = true)
  have facts : ∀ job ∈ world.db.job? 2, job.channel ≠ .sms ∧ stale (minuten 6) job = true ∧ job.incidentId = 1 := by
    decide +kernel
  obtain ⟨notSms, expired, ofIncident⟩ := facts job found
  have at_ : world.workers 1 = .picked 2 none .push (minuten 6) := by decide +kernel
  have holds : Holds (world.workers 0) 2 1 := by decide +kernel
  have recovery := expired_uncertain probe (sendingRun none 2 ++ [.pick 1 2 (minuten 6)])
  obtain ⟨isDue, uncertain, taken⟩ := (recovery []).1 1 2 none .push (minuten 6) job at_ found notSms expired
  have lost := taken 0 1 holds
  have notRunning : recovered'.workers 0 ≠ .running 2 1 := by decide +kernel
  obtain ⟨snapshot, sending, same⟩ := lost.1.resolve_left notRunning
  have fence := (expired_uncertain probe (sendingRun none 2 ++ [.pick 1 2 (minuten 6)] ++ [.recover 1]) []).2.2
  rw [run_append] at fence
  refine ⟨ofIncident ▸ isDue, fun row atId => ?_, lost, ?_⟩
  · cases Option.some.inj (uncertain.symm.trans atId)
    rfl
  · exact fence 0 2 1 snapshot (minuten 7) (.outcome .sent none) lost sending same

/-- A push whose worker fails after its lease has expired, but before an outbox
run has found it, is claimed a second time. And a Teams worker that has
committed its claim and not yet read its generation takes over the generation
of the manual retry: its claim was recovered, and still it ends the job. -/
theorem lateWorker_changes :
    (let expired := run (step probe) {} (sendingRun none 2)
      let again : List Action :=
        [.complete 0 (minuten 6) (.raised "TimeoutError" "push" false), .pick 1 2 (minuten 7), .recover 1, .claim 1]
      (∃ job ∈ expired.db.job? 2, stale (minuten 6) job = true ∧ ∀ action ∈ again, resends job action = false) ∧
        ∃ job ∈ (run (step probe) expired again).db.job? 2, job.status = .sending ∧ job.attemptCount = 2) ∧
    (let claimed := run (step probe) {} ((sendingRun (some 1) 3).take 5)
      let recovered := run (step probe) claimed [.pick 1 3 (minuten 6), .recover 1]
      let late := run (step probe) recovered [.resend (minuten 7) 1 1 1, .pick 2 3 (minuten 7), .recover 2, .claim 2,
        .generation 0, .start 0]
      claimed.workers 0 = .claimed 3 ∧ (∃ job ∈ recovered.db.job? 3, job.status = .uncertain) ∧
        (∃ job ∈ late.db.job? 3, job.status = .sending) ∧
        ∃ job ∈ (step probe late (.complete 0 (minuten 8) (.outcome .sent none))).db.job? 3, job.status = .sent) := by
  decide +kernel

end Einsatzcockpit.Alarm
