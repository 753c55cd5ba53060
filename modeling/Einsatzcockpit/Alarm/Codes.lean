import Einsatzcockpit.Alarm.Nachalarm
import Einsatzcockpit.Alarm.Recovery

namespace Einsatzcockpit.Alarm

open Transition

/-- The channels and codes of the follow-up jobs, in the order of their rows. -/
def eintraege (key : String) (incidentId : Nat) (orgId : Option Nat) (db : Db) : List (Channel × List String) :=
  (nachalarme (namensraum key) incidentId orgId db).map eintrag

/-- Two states of a job to which the follow-up alarms are blind. -/
structure GleicherAuftrag (job job' : IncidentAlarmJob) : Prop where
  incidentId : job'.incidentId = job.incidentId
  orgId : job'.orgId = job.orgId
  channel : job'.channel = job.channel
  variant : job'.variant = job.variant
  codes : job.variant ≠ "" → job'.context.codes = job.context.codes

section Frame

variable {key : String} {incidentId : Nat} {orgId : Option Nat} {db : Db}

theorem GleicherAuftrag.istNachalarm {job job' : IncidentAlarmJob} (gleich : GleicherAuftrag job job')
    (namespace_ : String) : istNachalarm namespace_ incidentId orgId job' = istNachalarm namespace_ incidentId orgId job := by
  simp only [Alarm.istNachalarm, gleich.incidentId, gleich.orgId, gleich.variant]

theorem updateJob_eintraege {id : Nat} {orgId' : Option Nat} {guard : IncidentAlarmJob → Bool}
    {values : IncidentAlarmJob → IncidentAlarmJob} (gleich : ∀ job, guard job = true → GleicherAuftrag job (values job)) :
    eintraege key incidentId orgId (db.updateJob id orgId' guard values).1 = eintraege key incidentId orgId db := by
  have guarded : ∀ job : IncidentAlarmJob, (job.id == id && job.orgId == orgId' && guard job) = true →
      GleicherAuftrag job (values job) := by
    intro job hit
    simp only [Bool.and_eq_true] at hit
    exact gleich job hit.2
  refine Relational.map_filter_update db.jobs (fun job hit => (guarded job hit).istNachalarm _) fun job hit counts => ?_
  have same := guarded job hit
  simp only [istNachalarm, Bool.and_eq_true, bne_iff_ne] at counts
  simp [eintrag, same.channel, same.codes counts.1.2]

theorem eintraege_of_jobs {db' : Db} (same : db'.jobs = db.jobs) :
    eintraege key incidentId orgId db' = eintraege key incidentId orgId db := by
  unfold eintraege nachalarme
  rw [same]

section

variable (now : Zeit)
include now

theorem claimed_gleich (channel : Channel) (job : IncidentAlarmJob) :
    GleicherAuftrag job (claimed now channel job) := by
  unfold claimed versandbeginn
  split <;> exact ⟨rfl, rfl, rfl, rfl, fun _ => rfl⟩

theorem recoverStale_eintraege (jobId : Nat) (orgId' : Option Nat) :
    eintraege key incidentId orgId (recoverStale now jobId orgId' db) = eintraege key incidentId orgId db :=
  updateJob_eintraege fun _ _ => ⟨rfl, rfl, rfl, rfl, fun _ => rfl⟩

theorem claimDue_eintraege (jobId : Nat) (orgId' : Option Nat) (channel : Channel) :
    eintraege key incidentId orgId (claimDue now jobId orgId' channel db).1 = eintraege key incidentId orgId db :=
  updateJob_eintraege fun job _ => claimed_gleich now channel job

theorem complete_eintraege (result : SendResult) (job : IncidentAlarmJob) (generation : Nat) :
    eintraege key incidentId orgId (complete now result job generation db).1 = eintraege key incidentId orgId db := by
  unfold complete
  dsimp only
  split
  · rfl
  · refine (eintraege_of_jobs rfl).trans (updateJob_eintraege fun row _ => ?_)
    exact ⟨rfl, rfl, rfl, rfl, fun _ => rfl⟩

theorem teamsManuellErneut_eintraege (incidentId' orgId' userId : Nat) :
    eintraege key incidentId orgId (teamsManuellErneut now incidentId' orgId' userId db).2 =
      eintraege key incidentId orgId db := by
  unfold teamsManuellErneut
  split
  · rfl
  · split
    · rfl
    · dsimp only
      split
      · rfl
      · refine (eintraege_of_jobs rfl).trans (updateJob_eintraege fun row guarded => ?_)
        simp only [Bool.and_eq_true, beq_iff_eq] at guarded
        exact ⟨rfl, rfl, rfl, rfl, fun other => absurd guarded.1.2 other⟩

theorem haengendeFreigeben_eintraege (orgId' jobId : Nat) :
    eintraege key incidentId orgId (haengendeFreigeben now orgId' jobId db) = eintraege key incidentId orgId db :=
  updateJob_eintraege fun _ _ => ⟨rfl, rfl, rfl, rfl, fun _ => rfl⟩

end

variable (umgebung : Umgebung)

theorem enqueueIncidentAlarm_eintraege (now : Zeit) (incident : Incident) (orgId' : Option Nat)
    (source : Option String) (user : Option Nat) (baseUrl pushUrl grund : Option String) :
    eintraege key incidentId orgId
        (enqueueIncidentAlarm umgebung now incident orgId' source user baseUrl pushUrl grund db) =
      eintraege key incidentId orgId db := by
  have added : ∀ (context : Context) (lanes : List Channel), eintraege key incidentId orgId
      (lanes.foldl (fun db channel => addJob (newJob umgebung now incident orgId' "" context channel) db) db) =
        eintraege key incidentId orgId db := by
    intro context lanes
    have none : ∀ channel, istNachalarm (namensraum key) incidentId orgId
        (newJob umgebung now incident orgId' "" context channel) = false := by
      intro channel
      simp [istNachalarm, newJob]
    obtain ⟨taken, -, rows⟩ := foldl_addJob_eintraege (fun _ _ => rfl) none lanes db
    exact rows.trans (List.append_nil _)
  unfold enqueueIncidentAlarm
  dsimp only
  split
  · split
    · exact (eintraege_of_jobs rfl).trans (added _ _)
    · exact added _ _
  · exact added _ _

theorem workerStep_eintraege (world : World) (worker : Nat) (action : Action) :
    eintraege key incidentId orgId (workerStep world worker action).db = eintraege key incidentId orgId world.db := by
  unfold workerStep
  dsimp only
  split
  · split <;> rfl
  · next jobId orgId' channel now _ =>
    show eintraege key incidentId orgId (if channel = .sms then world.db else recoverStale now jobId orgId' world.db) = _
    split
    · rfl
    · exact recoverStale_eintraege now jobId orgId'
  · exact claimDue_eintraege _ _ _ _
  · split <;> rfl
  · split
    · rfl
    · split <;> rfl
  · exact complete_eintraege _ _ _ _
  · split <;> rfl
  · split <;> rfl
  · refine eintraege_of_jobs ?_
    show (finishWrite _ _ _ _ _ world.db).jobs = world.db.jobs
    unfold finishWrite
    split <;> rfl
  · rfl

end Frame

/-- What a transaction adds to the follow-up jobs of an incident and a
namespace: items that none of them holds, on some channels or, where the unique
keys are free, on all of them. -/
structure Zuwachs (frei : Prop) (old new : List (Channel × List String)) (lanes : List Channel) (codes : List String) :
    Prop where
  rows : new = old ++ lanes.map fun channel => (channel, codes)
  nodup : lanes.Nodup
  fresh : ∀ code ∈ codes, ∀ entry ∈ old, code ∉ entry.2
  all : frei → lanes = [] ∨ lanes = channels

theorem Zuwachs.same {frei : Prop} {old new : List (Channel × List String)} (same : new = old) :
    Zuwachs frei old new [] [] :=
  ⟨by simp [same], List.nodup_nil, fun _ none => absurd none List.not_mem_nil, fun _ => Or.inl rfl⟩

variable (umgebung : Umgebung)

section Nachalarm

variable {umgebung} {now : Zeit} {incident : Incident} {orgId : Option Nat} {key : String} {codes : List String}
  {source baseUrl pushUrl grund : Option String} {db db' : Db} {created : Bool}
  (added : enqueueNachalarmierung umgebung now incident orgId key codes source baseUrl pushUrl grund db =
    some (created, db'))
include added

theorem enqueueNachalarmierung_rows (key' : String) (incidentId : Nat) (orgId' : Option Nat) :
    ∃ taken : List Channel, taken.Sublist channels ∧ eintraege key' incidentId orgId' db' =
      eintraege key' incidentId orgId' db ++
        if incident.id = incidentId ∧ orgId = orgId' ∧ namensraum key = namensraum key' then
          taken.map fun channel => (channel, neueCodes incident.id orgId key codes db) else [] := by
  rcases enqueueNachalarmierung_cases umgebung added with ⟨-, rfl⟩ | ⟨-, rows⟩
  · refine ⟨[], List.nil_sublist _, ?_⟩
    rw [List.map_nil, ite_self, List.append_nil]
  · generalize neueCodes incident.id orgId key codes db = neue at rows ⊢
    have counts : ∀ channel, istNachalarm (namensraum key') incidentId orgId'
        (nachalarmJob umgebung now incident orgId key neue source baseUrl pushUrl grund channel) =
          decide (incident.id = incidentId ∧ orgId = orgId' ∧ namensraum key = namensraum key') :=
      istNachalarm_nachalarmJob umgebung
    obtain ⟨taken, sub, entries⟩ := foldl_addJob_eintraege (fun _ _ => rfl) counts
      (offeneKanaele incident.id orgId (nachalarmVariant umgebung (namensraum key) neue) db) db
    refine ⟨taken, sub.trans List.filter_sublist, ?_⟩
    rw [rows]
    refine entries.trans ?_
    simp only [decide_eq_true_eq]
    rfl

theorem enqueueNachalarmierung_frei (some_ : neueCodes incident.id orgId key codes db ≠ [])
    (frei : ∀ channel ∈ channels, ∀ row ∈ db.jobs, conflicts (nachalarmJob umgebung now incident orgId key
      (neueCodes incident.id orgId key codes db) source baseUrl pushUrl grund channel) row = false) :
    eintraege key incident.id orgId db' = eintraege key incident.id orgId db ++
      channels.map fun channel => (channel, neueCodes incident.id orgId key codes db) := by
  rcases enqueueNachalarmierung_cases umgebung added with ⟨empty, -⟩ | ⟨-, rows⟩
  · exact absurd empty some_
  · generalize neueCodes incident.id orgId key codes db = neue at rows frei ⊢
    have open_ : offeneKanaele incident.id orgId (nachalarmVariant umgebung (namensraum key) neue) db = channels := by
      refine List.filter_eq_self.mpr fun channel member => ?_
      rw [Bool.not_eq_true', List.any_eq_false]
      intro job inside same
      obtain ⟨row, ofIncident⟩ := List.mem_filter.mp inside
      simp only [Bool.and_eq_true, beq_iff_eq] at same ofIncident
      have free := frei channel member job row
      simp [conflicts, nachalarmJob, newJob, same.1, same.2, ofIncident.1.1] at free
    rw [open_] at rows
    have counts : ∀ channel, istNachalarm (namensraum key) incident.id orgId
        (nachalarmJob umgebung now incident orgId key neue source baseUrl pushUrl grund channel) = true := by
      intro channel
      rw [istNachalarm_nachalarmJob]
      simp
    rw [rows]
    exact foldl_addJob_free (fun _ _ => rfl) (by decide) frei (conflicts_apart umgebung) counts

end Nachalarm

variable {world : World} {incidentId : Nat} {orgId : Option Nat} {key : String}

theorem schluesselFrei_spec {umgebung : Umgebung} {now : Zeit} {incident : Incident} {codes : List String} {source baseUrl pushUrl grund : Option String} {db' : Db}
    {created : Bool} (found : world.db.incident? incidentId = some incident)
    (added : enqueueNachalarmierung umgebung now incident orgId key codes source baseUrl pushUrl grund world.db =
      some (created, db'))
    (frei : schluesselFrei umgebung world
      (.nachalarm now incidentId orgId key codes source baseUrl pushUrl grund) = true)
    (some_ : neueCodes incident.id orgId key codes world.db ≠ []) :
    ∀ channel ∈ channels, ∀ row ∈ world.db.jobs, conflicts (nachalarmJob umgebung now incident orgId key
      (neueCodes incident.id orgId key codes world.db) source baseUrl pushUrl grund channel) row = false := by
  have accepted := enqueueNachalarmierung_accepts umgebung added
  simp only [schluesselFrei, found, Option.all_some, accepted, Bool.not_true, Bool.false_or, Bool.or_eq_true,
    beq_iff_eq] at frei
  intro channel member row inside
  have none := List.all_eq_true.mp (frei.resolve_left some_) channel member
  simp only [Bool.not_eq_true'] at none
  simpa using List.any_eq_false.mp none row inside

theorem neueCodes_fresh (incidentId : Nat) (orgId : Option Nat) (key : String) (codes : List String) (db : Db) :
    ∀ code ∈ neueCodes incidentId orgId key codes db, ∀ entry ∈ eintraege key incidentId orgId db, code ∉ entry.2 := by
  intro code new entry member
  obtain ⟨job, inside, rfl⟩ := List.mem_map.mp member
  exact (mem_neueCodes.mp new).2 job inside

theorem step_zuwachs (world : World) (action : Action) (key : String) (incidentId : Nat) (orgId : Option Nat) :
    ∃ lanes codes, Zuwachs (schluesselFrei umgebung world action = true) (eintraege key incidentId orgId world.db)
      (eintraege key incidentId orgId (step umgebung world action).db) lanes codes := by
  have still : ∀ {world' : World}, eintraege key incidentId orgId world'.db = eintraege key incidentId orgId world.db →
      ∃ lanes codes, Zuwachs (schluesselFrei umgebung world action = true) (eintraege key incidentId orgId world.db)
        (eintraege key incidentId orgId world'.db) lanes codes := fun same => ⟨[], [], .same same⟩
  cases action with
  | incident incident =>
    refine still ?_
    simp only [step]
    split
    · rfl
    · exact eintraege_of_jobs rfl
  | enqueue =>
    refine still ?_
    simp only [step]
    split
    · rfl
    · exact enqueueIncidentAlarm_eintraege umgebung _ _ _ _ _ _ _ _
  | nachalarm now incidentId' orgId' key' codes source baseUrl pushUrl grund =>
    cases found : world.db.incident? incidentId' with
    | none =>
      refine still ?_
      simp only [step, found, Option.bind_none]
    | some incident =>
      cases added : enqueueNachalarmierung umgebung now incident orgId' key' codes source baseUrl pushUrl grund
          world.db with
      | none =>
        refine still ?_
        simp only [step, found, Option.bind_some, added]
      | some result =>
        obtain ⟨created, db'⟩ := result
        have after : (step umgebung world (.nachalarm now incidentId' orgId' key' codes source baseUrl pushUrl grund)).db =
            db' := by
          simp only [step, found, Option.bind_some, added]
        rw [after]
        obtain ⟨taken, sub, rows⟩ := enqueueNachalarmierung_rows added key incidentId orgId
        by_cases own : incident.id = incidentId ∧ orgId' = orgId ∧ namensraum key' = namensraum key
        · rw [if_pos own] at rows
          obtain ⟨rfl, rfl, same⟩ := own
          have fresh := neueCodes_fresh incident.id orgId' key' codes world.db
          have eintraege_same : ∀ db, eintraege key incident.id orgId' db = eintraege key' incident.id orgId' db :=
            fun db => by rw [eintraege, eintraege, same]
          rw [eintraege_same, eintraege_same] at rows ⊢
          by_cases frei : schluesselFrei umgebung world
              (.nachalarm now incidentId' orgId' key' codes source baseUrl pushUrl grund) = true
          · rcases enqueueNachalarmierung_cases umgebung added with ⟨-, rfl⟩ | ⟨some_, -⟩
            · exact ⟨[], [], .same rfl⟩
            · have keys := schluesselFrei_spec found added frei some_
              exact ⟨channels, _, enqueueNachalarmierung_frei added some_ keys, by decide, fresh, fun _ => Or.inr rfl⟩
          · exact ⟨taken, _, rows, sub.nodup (by decide), fresh, fun given => absurd given frei⟩
        · rw [if_neg own] at rows
          exact ⟨[], [], .same (rows.trans (List.append_nil _))⟩
  | resend => exact still (teamsManuellErneut_eintraege _ _ _ _)
  | freigeben => exact still (haengendeFreigeben_eintraege _ _ _)
  | die worker => exact still rfl
  | pick worker | recover worker | claim worker | generation worker | start worker | complete worker
  | settle worker | finishRead worker | finishWrite worker => exact still (workerStep_eintraege world worker _)

theorem run_exclusive (actions : List Action) (key : String) (incidentId : Nat) (orgId : Option Nat) :
    Cover.Exclusive (eintraege key incidentId orgId (run (step umgebung) {} actions).db) := by
  have start : Cover.Exclusive (eintraege key incidentId orgId (World.db {})) := Cover.exclusive_nil
  refine run_invariant (fun world : World => Cover.Exclusive (eintraege key incidentId orgId world.db))
    (fun world action exclusive => ?_) start actions
  obtain ⟨lanes, codes, zuwachs⟩ := step_zuwachs umgebung world action key incidentId orgId
  rw [zuwachs.rows]
  exact exclusive.append zuwachs.nodup zuwachs.fresh

theorem step_full {action : Action} (frei : schluesselFrei umgebung world action = true) (full : Cover.Full (eintraege key incidentId orgId world.db)) :
    Cover.Full (eintraege key incidentId orgId (step umgebung world action).db) := by
  obtain ⟨lanes, codes, zuwachs⟩ := step_zuwachs umgebung world action key incidentId orgId
  rw [zuwachs.rows]
  rcases zuwachs.all frei with rfl | rfl
  · rw [List.map_nil, List.append_nil]
    exact full
  · exact full.append (fun channel => by cases channel <;> decide) codes

theorem run_rows (world : World) (actions : List Action) (key : String) (incidentId : Nat) (orgId : Option Nat) :
    eintraege key incidentId orgId world.db <+: eintraege key incidentId orgId (run (step umgebung) world actions).db := by
  refine run_relates (fun _ => True) (fun world world' => eintraege key incidentId orgId world.db <+:
    eintraege key incidentId orgId world'.db) (fun _ _ _ _ => trivial) (fun _ => List.prefix_rfl)
    (fun _ _ _ => List.IsPrefix.trans) (fun world action _ _ => ?_) trivial (meets_true world actions)
  obtain ⟨lanes, codes, zuwachs⟩ := step_zuwachs umgebung world action key incidentId orgId
  rw [zuwachs.rows]
  exact List.prefix_append ..

theorem nachalarm_seen {now : Zeit} {incident : Incident}
    {codes : List String} {source baseUrl pushUrl grund : Option String}
    (found : world.db.incident? incidentId = some incident) (ofOrg : incident.primaryOrgId = orgId)
    (frei : schluesselFrei umgebung world
      (.nachalarm now incidentId orgId key codes source baseUrl pushUrl grund) = true) {code : String}
    (wanted : code ∈ codes) :
    ∃ entry ∈ eintraege key incidentId orgId (step umgebung world
      (.nachalarm now incidentId orgId key codes source baseUrl pushUrl grund)).db, code ∈ entry.2 := by
  have atId : incident.id = incidentId := by simpa using List.find?_some found
  subst atId
  by_cases new : code ∈ neueCodes incident.id orgId key codes world.db
  · have some_ := List.ne_nil_of_mem new
    obtain ⟨⟨created, db'⟩, added⟩ : ∃ result, enqueueNachalarmierung umgebung now incident orgId key codes source
        baseUrl pushUrl grund world.db = some result :=
      enqueueNachalarmierung_accepted umgebung (List.mem_of_find?_eq_some found) ofOrg
    have after : (step umgebung world (.nachalarm now incident.id orgId key codes source baseUrl pushUrl grund)).db =
        db' := by
      simp only [step, found, Option.bind_some, added]
    rw [after, enqueueNachalarmierung_frei added some_ (schluesselFrei_spec found added frei some_)]
    exact ⟨(.sms, _), List.mem_append_right _ (List.mem_map_of_mem (by decide)), new⟩
  · have old : ∃ job ∈ nachalarme (namensraum key) incident.id orgId world.db, code ∈ job.context.codes := by
      by_contra none
      push Not at none
      exact new (mem_neueCodes.mpr ⟨wanted, none⟩)
    obtain ⟨job, inside, seen⟩ := old
    obtain ⟨lanes, codes', zuwachs⟩ := step_zuwachs umgebung world
      (.nachalarm now incident.id orgId key codes source baseUrl pushUrl grund) key incident.id orgId
    rw [zuwachs.rows]
    exact ⟨eintrag job, List.mem_append_left _ (List.mem_map_of_mem inside), seen⟩

/-- Over every run the code sets of the follow-up jobs are disjoint in each
channel; and where no request meets a taken unique key, every code of every
accepted request has a job on each channel. -/
theorem nachalarm_codes (actions : List Action) :
    (∀ key incidentId orgId, (nachalarme (namensraum key) incidentId orgId (run (step umgebung) {} actions).db).Pairwise
      fun job other => job.channel = other.channel → job.context.codes.Disjoint other.context.codes) ∧
    (Meets (step umgebung) (fun world action => schluesselFrei umgebung world action = true) {} actions →
      ∀ before now incidentId orgId key codes source baseUrl pushUrl grund after,
        actions = before ++ .nachalarm now incidentId orgId key codes source baseUrl pushUrl grund :: after →
        ∀ incident, (run (step umgebung) {} before).db.incident? incidentId = some incident →
          incident.primaryOrgId = orgId → ∀ code ∈ codes, ∀ channel, ∃ job ∈ nachalarme (namensraum key) incidentId orgId
            (run (step umgebung) {} actions).db, job.channel = channel ∧ code ∈ job.context.codes) := by
  refine ⟨fun key incidentId orgId => List.pairwise_map.mp (run_exclusive umgebung actions key incidentId orgId), ?_⟩
  rintro frei before now incidentId orgId key codes source baseUrl pushUrl grund after rfl incident found ofOrg code
    wanted channel
  have start : Cover.Full (eintraege key incidentId orgId (World.db {})) := Cover.full_nil
  have full := run_induction (fun world : World => Cover.Full (eintraege key incidentId orgId world.db))
    (fun world action full frei => step_full umgebung frei full) start frei
  obtain ⟨-, first, -⟩ := meets_append.mp frei
  obtain ⟨entry, inside, holds⟩ := nachalarm_seen umgebung found ofOrg first wanted
  have kept := (run_rows umgebung _ after key incidentId orgId).subset inside
  rw [← run_cons, ← run_append] at kept
  obtain ⟨other, member, onChannel, covered⟩ := full entry kept code holds channel
  obtain ⟨job, isJob, rfl⟩ := List.mem_map.mp member
  exact ⟨job, isJob, onChannel, covered⟩

/-- Two incidents of one organisation whose operation numbers differ in a blank. -/
def zweiEinsaetze : List Action :=
  [.incident { id := 1, primaryOrgId := some 1, lisOperationNumber := some "f1" },
    .incident { id := 2, primaryOrgId := some 1, lisOperationNumber := some " f1" },
    .nachalarm 0 1 (some 1) "code:r2" ["r2"] none none none none]

theorem nachalarm_codes_mail :
    Meets (step probe) (fun world action => schluesselFrei probe world action = true) {} zweiEinsaetze ∧
      ∃ job ∈ nachalarme (namensraum "code:r2") 1 (some 1) (run (step probe) {} zweiEinsaetze).db,
        job.channel = .mail ∧ "r2" ∈ job.context.codes := by
  have frei : Meets (step probe) (fun world action => schluesselFrei probe world action = true) {} zweiEinsaetze := by
    decide +kernel
  have known : (run (step probe) {} (zweiEinsaetze.take 2)).db.incident? 1 =
      some { id := 1, primaryOrgId := some 1, lisOperationNumber := some "f1" } := by decide +kernel
  exact ⟨frei, (nachalarm_codes probe zweiEinsaetze).2 frei (zweiEinsaetze.take 2) 0 1 (some 1) "code:r2" ["r2"] none none
    none none [] rfl _ known rfl "r2" (by decide) .mail⟩

/-- The follow-up alarm of the second incident meets the event keys of the
first, and its code is on no channel of it. -/
theorem nachalarm_lost :
    let world := run (step probe) {} (zweiEinsaetze ++ [.nachalarm 0 2 (some 1) "code:r2" ["r2"] none none none none])
    (∃ incident, world.db.incident? 2 = some incident ∧ incident.primaryOrgId = some 1) ∧
      nachalarme (namensraum "code:r2") 2 (some 1) world.db = [] := by
  refine ⟨⟨{ id := 2, primaryOrgId := some 1, lisOperationNumber := some " f1" }, ?_, rfl⟩, ?_⟩ <;> decide +kernel

end Einsatzcockpit.Alarm
