import Einsatzcockpit.Alarm.Recovery

namespace Einsatzcockpit.Alarm

open Transition

def SendResult.ausnahme : SendResult → Bool
  | .raised .. => true
  | .outcome .. => false

/-- The generation of the job that a step ends through the exception path of
`_run_claimed_ablauf`. -/
def ausnahme (jobId : Nat) (world : World) : Action → Option Nat
  | .complete worker now result =>
    match world.workers worker with
    | .sending job generation =>
      if job.id = jobId ∧ result.ausnahme ∧ (complete now result job generation world.db).2 then some generation else none
    | _ => none
  | _ => none

section Auftrag

variable {jobId : Nat} {job job' snapshot : IncidentAlarmJob} {generation : Nat} {action : Action} {db : Db}

theorem settled_raised (now : Zeit) {result : SendResult} (raised : result.ausnahme = true) :
    (settled now result job).status = .failed ↔ (delays job.channel).length < job.attemptCount := by
  cases result with
  | outcome outcome reason => cases raised
  | raised type message statementError =>
    have retry : (retryAt job.channel job.attemptCount now).isSome = decide (job.attemptCount ≤ (delays job.channel).length) := by
      unfold retryAt
      rw [Option.isSome_map]
      split
      · next none =>
        -- attempt 0 would read the last delay
        rw [none]
        cases job.channel <;> rfl
      · next n count =>
        rw [count, Bool.eq_iff_iff, Option.isSome_iff_ne_none, ne_eq, List.getElem?_eq_none_iff, decide_eq_true_iff]
        omega
    simp only [settled, retry]
    by_cases within : job.attemptCount ≤ (delays job.channel).length
    · rw [decide_eq_true within, if_pos rfl]
      exact ⟨fun is => (by cases is), fun beyond => absurd within (by omega)⟩
    · rw [decide_eq_false within, if_neg Bool.false_ne_true]
      exact ⟨fun _ => by omega, fun _ => rfl⟩

theorem Move.failed (move : Move action job job') (sms : job.channel = .sms) (failed : job.status = .failed) : job' = job := by
  cases move with
  | keep => rfl
  | recover now isStale notSms => exact absurd sms notSms
  | claim now isEligible => simp [eligible, due, stale, failed] at isEligible
  | write result isCurrent settled => simp [failed] at isCurrent
  | resend now context wanted ended =>
    unfold resends at wanted
    split at wanted
    · simp [initialTeams, sms] at wanted
    · cases wanted
  | free now waiting => simp [failed] at waiting

theorem complete_won (numbered : db.Numbered) {now : Zeit} {result : SendResult}
    (won : (complete now result snapshot generation db).2 = true) :
    ∃ row, db.job? snapshot.id = some row ∧ row.status = .sending ∧ row.attemptCount = generation ∧
      (complete now result snapshot generation db).1.job? snapshot.id = some (written (settled now result snapshot) row) := by
  obtain ⟨sameId, sameOrg, -⟩ := settled_keeps now result snapshot
  have keeps : ∀ row, (written (settled now result snapshot) row).id = row.id := fun _ => rfl
  have hit : db.jobs.countP (fun row => row.id == (settled now result snapshot).id &&
      row.orgId == (settled now result snapshot).orgId && current generation row) = 1 := by
    by_contra missed
    unfold complete at won
    dsimp only [Db.updateJob] at won
    rw [if_pos missed] at won
    cases won
  obtain ⟨row, member, matching⟩ := List.countP_pos_iff.mp (hit ▸ Nat.zero_lt_one)
  have guards := matching
  simp only [Bool.and_eq_true, beq_iff_eq, current, sameId] at guards
  obtain ⟨⟨atId, -⟩, sending, count⟩ := guards
  have found : db.job? snapshot.id = some row := by
    rw [← atId]
    exact Relational.find?_key IncidentAlarmJob.id numbered.nodup member
  refine ⟨row, found, sending, count, ?_⟩
  have updated := db.updateJob_job? (settled now result snapshot).id (settled now result snapshot).orgId (current generation)
    (written (settled now result snapshot)) keeps snapshot.id
  rw [found, Option.map_some, matching, if_pos rfl] at updated
  unfold complete
  dsimp only
  rw [if_neg (fun missed => missed hit)]
  exact updated

end Auftrag

def Phase.Gelesen (db : Db) : Phase → Prop
  | .sending snapshot generation =>
    snapshot.attemptCount = generation ∧ ∃ row, db.job? snapshot.id = some row ∧ row.channel = snapshot.channel
  | _ => True

theorem Phase.Gelesen.moves {action : Action} {db db' : Db} {phase : Phase} (gelesen : phase.Gelesen db)
    (moves : db.Moves action db') : phase.Gelesen db' := by
  cases phase with
  | sending snapshot generation =>
    obtain ⟨count, row, found, channel⟩ := gelesen
    obtain ⟨row', found', move⟩ := moves.row snapshot.id row found
    exact ⟨count, row', found', move.keeps.2.1.trans channel⟩
  | idle | picked | recovered | claimed | running | done | closing => trivial

section Lauf

variable (umgebung : Umgebung) {world : World}

theorem workerStep_phase (worker : Nat) (action : Action) (other : Nat) :
    (workerStep world worker action).workers other = world.workers other ∨
      ((workerStep world worker action).workers other).Gelesen (workerStep world worker action).db := by
  have moved (db : Db) {phase : Phase} (known : phase.Gelesen db) :
      ({ world with db }.move worker phase).workers other = world.workers other ∨
        (({ world with db }.move worker phase).workers other).Gelesen db := by
    show Function.update world.workers worker phase other = _ ∨ (Function.update world.workers worker phase other).Gelesen db
    by_cases same : other = worker
    · rw [same, Function.update_self]
      exact Or.inr known
    · rw [Function.update_of_ne same]
      exact Or.inl rfl
  unfold workerStep
  dsimp only
  split
  · split
    · exact moved _ trivial
    · exact Or.inl rfl
  · exact moved _ trivial
  · refine moved _ ?_
    split <;> trivial
  · split
    · exact moved _ trivial
    · exact moved _ trivial
  · split
    · exact moved _ trivial
    · next job found =>
      split
      · exact moved _ trivial
      · next guards =>
        simp only [ne_eq, not_or, not_not] at guards
        obtain ⟨-, atId⟩ := Db.mem_of_job? found
        exact moved _ ⟨guards.2.1, job, atId ▸ found, rfl⟩
  · refine moved _ ?_
    split <;> trivial
  · split
    · exact moved _ trivial
    · exact Or.inl rfl
  · split
    · exact moved _ trivial
    · exact moved _ trivial
  · exact moved _ trivial
  · exact Or.inl rfl

theorem step_phase (action : Action) (other : Nat) :
    (step umgebung world action).workers other = world.workers other ∨
      ((step umgebung world action).workers other).Gelesen (step umgebung world action).db := by
  cases action with
  | incident incident =>
    simp only [step]
    split <;> exact Or.inl rfl
  | enqueue now incidentId =>
    simp only [step]
    split <;> exact Or.inl rfl
  | nachalarm now incidentId =>
    simp only [step]
    split <;> exact Or.inl rfl
  | resend | freigeben => exact Or.inl rfl
  | die worker =>
    show Function.update world.workers worker .idle other = _ ∨ (Function.update world.workers worker .idle other).Gelesen _
    by_cases same : other = worker
    · rw [same, Function.update_self]
      exact Or.inr trivial
    · rw [Function.update_of_ne same]
      exact Or.inl rfl
  | pick worker | recover worker | claim worker | generation worker | start worker | complete worker
  | settle worker | finishRead worker | finishWrite worker => exact workerStep_phase worker _ other

/-- The ids of the jobs are in order and every worker that is sending has read
its job in its own generation. -/
structure World.Gelesen (world : World) : Prop where
  sound : world.Sound
  workers : ∀ worker, (world.workers worker).Gelesen world.db

theorem step_gelesen (gelesen : world.Gelesen) (action : Action) : (step umgebung world action).Gelesen := by
  have steps := step_steps umgebung gelesen.sound action
  refine ⟨steps.sound, fun worker => ?_⟩
  rcases step_phase umgebung action worker with same | read
  · rw [same]
    exact (gelesen.workers worker).moves steps.moves
  · exact read

theorem step_ausnahme (gelesen : world.Gelesen) {action : Action} {jobId generation : Nat}
    (raised : ausnahme jobId world action = some generation) :
    ∃ row row', world.db.job? jobId = some row ∧ row.status = .sending ∧
      (step umgebung world action).db.job? jobId = some row' ∧ row'.channel = row.channel ∧
      (row'.status = .failed ↔ (delays row.channel).length < generation) := by
  unfold ausnahme at raised
  split at raised
  · next worker now result =>
    split at raised
    · next own generation at_ =>
      split at raised
      · next hit =>
        cases raised
        obtain ⟨rfl, isRaised, won⟩ := hit
        obtain ⟨row, found, sending, -, after⟩ := complete_won gelesen.sound.numbered won
        have known := gelesen.workers worker
        rw [at_] at known
        obtain ⟨count, row', read, channel⟩ := known
        cases Option.some.inj (found.symm.trans read)
        refine ⟨row, written (settled now result own) row, found, sending, ?_, rfl, ?_⟩
        · rw [workerStep_complete umgebung at_]
          exact after
        · rw [channel, ← count]
          exact settled_raised now isRaised
      · cases raised
    · cases raised
  · cases raised

def ausnahmen (jobId : Nat) : World → List Action → List Nat
  | _, [] => []
  | world, action :: rest =>
    (ausnahme jobId world action).toList ++ ausnahmen jobId (step umgebung world action) rest

theorem ausnahmen_append (jobId : Nat) (first second : List Action) :
    ausnahmen umgebung jobId world (first ++ second) =
      ausnahmen umgebung jobId world first ++ ausnahmen umgebung jobId (run (step umgebung) world first) second := by
  induction first generalizing world with
  | nil => rfl
  | cons action rest ih => simp only [List.cons_append, ausnahmen, ih, List.append_assoc, run_cons]

def spaet (generation : Nat) : Bool := decide ((delays .sms).length < generation)

variable {jobId : Nat}

def Verbraucht (jobId : Nat) (world : World) (liste : List Nat) : Prop :=
  (∃ generation ∈ liste, spaet generation = true) →
    ∃ row, world.db.job? jobId = some row ∧ (row.channel = .sms → row.status = .failed)

theorem step_verbraucht {liste : List Nat} (gelesen : world.Gelesen) (verbraucht : Verbraucht jobId world liste)
    (action : Action) :
    Verbraucht jobId (step umgebung world action) (liste ++ (ausnahme jobId world action).toList) := by
  rintro ⟨generation, member, late⟩
  rcases List.mem_append.mp member with old | new
  · obtain ⟨row, found, failed⟩ := verbraucht ⟨generation, old, late⟩
    obtain ⟨row', found', move⟩ := (step_steps umgebung gelesen.sound action).moves.row jobId row found
    refine ⟨row', found', fun sms => ?_⟩
    have before : row.channel = .sms := move.keeps.2.1.symm.trans sms
    rw [move.failed before (failed before)]
    exact failed before
  · obtain ⟨row, row', -, -, after, channel, ends⟩ := step_ausnahme umgebung gelesen (Option.mem_toList.mp new)
    refine ⟨row', after, fun sms => ends.mpr ?_⟩
    rw [← channel, sms]
    exact of_decide_eq_true late

theorem run_verbraucht (gelesen : world.Gelesen) {liste : List Nat} (verbraucht : Verbraucht jobId world liste)
    (actions : List Action) :
    (run (step umgebung) world actions).Gelesen ∧
      Verbraucht jobId (run (step umgebung) world actions) (liste ++ ausnahmen umgebung jobId world actions) := by
  induction actions generalizing world liste with
  | nil =>
    rw [ausnahmen, List.append_nil]
    exact ⟨gelesen, verbraucht⟩
  | cons action rest ih =>
    rw [ausnahmen, ← List.append_assoc]
    exact ih (step_gelesen umgebung gelesen action) (step_verbraucht umgebung gelesen verbraucht action)

end Lauf

section Budget

variable (umgebung : Umgebung) {jobId : Nat}

theorem initial_gelesen : World.Gelesen {} := ⟨initial_sound, fun _ => trivial⟩

theorem sms_before {vor nach : List Action} {job row : IncidentAlarmJob}
    (found : (run (step umgebung) {} (vor ++ nach)).db.job? jobId = some job) (sms : job.channel = .sms)
    (before : (run (step umgebung) {} vor).db.job? jobId = some row) : row.channel = .sms := by
  rw [run_append] at found
  have sound := run_sound umgebung initial_sound vor
  have keeps : ∀ (nach : List Action) {world : World} {row : IncidentAlarmJob}, world.Sound → world.db.job? jobId = some row →
      ∃ job, (run (step umgebung) world nach).db.job? jobId = some job ∧ job.channel = row.channel := by
    intro nach
    induction nach with
    | nil => exact fun _ found => ⟨_, found, rfl⟩
    | cons action rest ih =>
      intro world row sound found
      have steps := step_steps umgebung sound action
      obtain ⟨between, atBetween, move⟩ := steps.moves.row jobId row found
      obtain ⟨job, atEnd, channel⟩ := ih steps.sound atBetween
      exact ⟨job, atEnd, channel.trans move.keeps.2.1⟩
  obtain ⟨job', atEnd, channel⟩ := keeps nach sound before
  rw [Option.some.inj (found.symm.trans atEnd)] at sms
  exact channel.symm.trans sms

theorem frueh {vor : List Action} {action : Action} {generation : Nat} {row : IncidentAlarmJob}
    (raised : ausnahme jobId (run (step umgebung) {} vor) action = some generation)
    (found : (run (step umgebung) {} vor).db.job? jobId = some row) (sms : row.channel = .sms) :
    ∀ earlier ∈ ausnahmen umgebung jobId {} vor, spaet earlier = false := by
  obtain ⟨gelesen, verbraucht⟩ := @run_verbraucht umgebung {} jobId initial_gelesen [] (by simp [Verbraucht]) vor
  intro earlier member
  by_contra late
  obtain ⟨row', found', failed⟩ := verbraucht ⟨earlier, member, Bool.eq_true_of_not_eq_false late⟩
  obtain ⟨row'', -, atJob, sending, -⟩ := step_ausnahme umgebung gelesen raised
  rw [Option.some.inj (found'.symm.trans found)] at failed
  rw [Option.some.inj (atJob.symm.trans found), failed sms] at sending
  cases sending

theorem ausnahmen_split {world : World} {actions : List Action} {generation : Nat}
    (member : generation ∈ ausnahmen umgebung jobId world actions) :
    ∃ vor action nach, actions = vor ++ action :: nach ∧
      ausnahme jobId (run (step umgebung) world vor) action = some generation := by
  induction actions generalizing world with
  | nil => cases member
  | cons action rest ih =>
    rcases List.mem_append.mp member with now | later
    · exact ⟨[], action, rest, rfl, Option.mem_toList.mp now⟩
    · obtain ⟨vor, next, nach, same, raised⟩ := ih later
      exact ⟨action :: vor, next, nach, congrArg (action :: ·) same, raised⟩

/-- The delays of the schedule stand for the exceptions that do not end a job.
An SMS job is ended by an exception after fewer of them exactly where one hits
an attempt beyond the schedule and the attempts within it did not all raise. -/
theorem exception_budget (actions : List Action) (jobId : Nat) {job : IncidentAlarmJob}
    (found : (run (step umgebung) {} actions).db.job? jobId = some job) (sms : job.channel = .sms) :
    (∀ vor action nach row, actions = vor ++ action :: nach →
        (ausnahme jobId (run (step umgebung) {} vor) action).isSome = true →
        (run (step umgebung) {} (vor ++ [action])).db.job? jobId = some row → row.status = .failed →
        (delays .sms).length ≤ (ausnahmen umgebung jobId {} vor).length) ↔
      ∀ generation ∈ ausnahmen umgebung jobId {} actions, (delays .sms).length < generation →
        (delays .sms).length ≤ (ausnahmen umgebung jobId {} actions).countP fun other => !spaet other := by
  have event {vor nach : List Action} {action : Action} {generation : Nat} (same : actions = vor ++ action :: nach)
      (raised : ausnahme jobId (run (step umgebung) {} vor) action = some generation) :
      (∀ earlier ∈ ausnahmen umgebung jobId {} vor, spaet earlier = false) ∧
        ∃ row, (run (step umgebung) {} (vor ++ [action])).db.job? jobId = some row ∧ row.channel = .sms ∧
          (row.status = .failed ↔ (delays .sms).length < generation) := by
    have gelesen := (@run_verbraucht umgebung {} jobId initial_gelesen [] (by simp [Verbraucht]) vor).1
    obtain ⟨row, row', before, -, after, channel, ends⟩ := step_ausnahme umgebung gelesen raised
    have isSms : row.channel = .sms := sms_before umgebung (same ▸ found) sms before
    rw [isSms] at ends channel
    refine ⟨frueh umgebung raised before isSms, row', ?_, channel, ends⟩
    rw [run_append]
    exact after
  constructor
  · intro law generation member late
    obtain ⟨vor, action, nach, same, raised⟩ := ausnahmen_split umgebung member
    obtain ⟨early, row, after, -, ends⟩ := event same raised
    have enough := law vor action nach row same (by rw [raised]; rfl) after (ends.mpr late)
    have all : (ausnahmen umgebung jobId {} vor).countP (fun other => !spaet other) = (ausnahmen umgebung jobId {} vor).length :=
      List.countP_eq_length.mpr fun earlier inside => by rw [early earlier inside]; rfl
    rw [same, ausnahmen_append, List.countP_append, all]
    omega
  · intro law vor action nach row same some_ after failed
    obtain ⟨generation, raised⟩ := Option.isSome_iff_exists.mp some_
    obtain ⟨-, row', atJob, isSms, ends⟩ := event same raised
    rw [Option.some.inj (after.symm.trans atJob)] at failed
    have late := ends.mp failed
    have parts : ausnahmen umgebung jobId {} actions = ausnahmen umgebung jobId {} vor ++
        (generation :: ausnahmen umgebung jobId (run (step umgebung) {} (vor ++ [action])) nach) := by
      rw [same, ausnahmen_append, ausnahmen, raised, run_append]
      rfl
    have enough := law generation (by rw [parts]; simp) late
    -- nothing raises after the exception that ended the job
    have rest : ausnahmen umgebung jobId (run (step umgebung) {} (vor ++ [action])) nach = [] := by
      refine List.eq_nil_iff_forall_not_mem.mpr fun other member => ?_
      obtain ⟨between, action', nach', same', raised'⟩ := ausnahmen_split umgebung member
      rw [← run_append] at raised'
      have whole : actions = (vor ++ [action] ++ between) ++ action' :: nach' := by
        rw [same, same']
        simp
      have early := (event whole raised').1 generation
      rw [List.append_assoc, ausnahmen_append, List.singleton_append, ausnahmen, raised] at early
      have isEarly := early (by simp)
      rw [spaet, decide_eq_true late] at isEarly
      cases isEarly
    have tail : (generation :: ([] : List Nat)).countP (fun other => !spaet other) = 0 := by
      rw [List.countP_singleton, spaet, decide_eq_true late]
      rfl
    rw [parts, rest, List.countP_append, tail] at enough
    exact enough.trans List.countP_le_length

end Budget

/-- Worker 0 takes the SMS job of incident 1 once for each end of an attempt. -/
def smsLauf (enden : List SendResult) : List Action :=
  [.incident { id := 1, primaryOrgId := none }, .enqueue 0 1 none none none none none none] ++
    enden.zipIdx.flatMap fun (ende, n) =>
      [.pick 0 1 (minuten (n + 1)), .recover 0, .claim 0, .generation 0, .start 0, .complete 0 (minuten (n + 1)) ende,
        .finishRead 0, .finishWrite 0]

def abgefragt : SendResult := .outcome .retry none

def gestoert : SendResult := .raised "TimeoutError" "sms" false

theorem exception_budget_drei :
    ausnahmen probe 1 {} (smsLauf [gestoert, gestoert, gestoert]) = [1, 2, 3] ∧
      ∀ vor action nach row, smsLauf [gestoert, gestoert, gestoert] = vor ++ action :: nach →
        (ausnahme 1 (run (step probe) {} vor) action).isSome = true →
        (run (step probe) {} (vor ++ [action])).db.job? 1 = some row → row.status = .failed →
        2 ≤ (ausnahmen probe 1 {} vor).length := by
  have raised : ausnahmen probe 1 {} (smsLauf [gestoert, gestoert, gestoert]) = [1, 2, 3] := by decide +kernel
  obtain ⟨job, found⟩ := Option.isSome_iff_exists.mp
    (by decide +kernel : ((run (step probe) {} (smsLauf [gestoert, gestoert, gestoert])).db.job? 1).isSome = true)
  have channel : ∀ job ∈ (run (step probe) {} (smsLauf [gestoert, gestoert, gestoert])).db.job? 1, job.channel = .sms := by
    decide +kernel
  refine ⟨raised, (exception_budget probe _ 1 found (channel job found)).mpr ?_⟩
  rw [raised]
  decide

/-- Two polls use the schedule up: the first exception ends the job. -/
theorem exception_budget_abgefragt :
    ¬ ∀ (actions : List Action) (jobId : Nat) (job : IncidentAlarmJob),
      (run (step probe) {} actions).db.job? jobId = some job → job.channel = .sms →
      ∀ vor action nach row, actions = vor ++ action :: nach →
        (ausnahme jobId (run (step probe) {} vor) action).isSome = true →
        (run (step probe) {} (vor ++ [action])).db.job? jobId = some row → row.status = .failed →
        (delays .sms).length ≤ (ausnahmen probe jobId {} vor).length := by
  intro law
  let actions := smsLauf [abgefragt, abgefragt, gestoert]
  have facts : ∀ job ∈ (run (step probe) {} actions).db.job? 1, job.channel = .sms ∧ job.status = .failed := by decide +kernel
  obtain ⟨job, found⟩ := Option.isSome_iff_exists.mp (by decide +kernel : ((run (step probe) {} actions).db.job? 1).isSome = true)
  have parts : actions = actions.take 23 ++ .complete 0 (minuten 3) gestoert :: [.finishRead 0, .finishWrite 0] := by rfl
  have raised : (ausnahme 1 (run (step probe) {} (actions.take 23)) (.complete 0 (minuten 3) gestoert)).isSome = true := by
    decide +kernel
  have ended : ∀ row ∈ (run (step probe) {} (actions.take 23 ++ [.complete 0 (minuten 3) gestoert])).db.job? 1, row.status = .failed := by
    decide +kernel
  obtain ⟨row, after⟩ := Option.isSome_iff_exists.mp
    (by decide +kernel : ((run (step probe) {} (actions.take 23 ++ [.complete 0 (minuten 3) gestoert])).db.job? 1).isSome = true)
  have enough := law actions 1 job found (facts job found).1 _ _ _ row parts raised after (ended row after)
  have none : (ausnahmen probe 1 {} (actions.take 23)).length = 0 := by decide +kernel
  rw [none] at enough
  exact absurd enough (by decide)

end Einsatzcockpit.Alarm
