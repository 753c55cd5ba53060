import Einsatzcockpit.Sms.Projektion

namespace Einsatzcockpit.Sms

open Relational

def Folge (alt neu : JobStatus) : Prop := neu = alt ∨ alt.terminal = false ∧ neu.terminal = true

theorem Folge.refl (status : JobStatus) : Folge status status := Or.inl rfl

theorem Folge.trans {first second third : JobStatus} (one : Folge first second) (two : Folge second third) : Folge first third := by
  rcases one with rfl | ⟨open_, ended⟩
  · exact two
  · rcases two with rfl | ⟨again, -⟩
    · exact Or.inr ⟨open_, ended⟩
    · rw [ended] at again
      cases again

theorem Folge.still {status between : JobStatus} (one : Folge status between) (two : Folge between status) : between = status := by
  rcases one with same | ⟨-, ended⟩
  · exact same
  · rcases two with same | ⟨open_, -⟩
    · exact same.symm
    · rw [ended] at open_
      cases open_

/-- The jobs of a database are still in the other one, and of the same organisation. -/
def Db.Bewahrt (db db' : Db) : Prop :=
  ∀ id job, db.job? id = some job → ∃ job', db'.job? id = some job' ∧ job'.orgId = job.orgId

/-- So are they where `queue_log` works, which closes jobs only. -/
def Db.Folgt (db db' : Db) : Prop :=
  ∀ id job, db.job? id = some job → ∃ job', db'.job? id = some job' ∧ job'.orgId = job.orgId ∧ Folge job.status job'.status

theorem Db.Folgt.refl (db : Db) : db.Folgt db := fun _ job present => ⟨job, present, rfl, .refl _⟩

theorem Db.Folgt.trans {db db' db'' : Db} (first : db.Folgt db') (second : db'.Folgt db'') : db.Folgt db'' := by
  intro id job present
  obtain ⟨job', present', org, one⟩ := first id job present
  obtain ⟨job'', present'', org', two⟩ := second id job' present'
  exact ⟨job'', present'', org'.trans org, one.trans two⟩

theorem Lifecycle.org {promise : Promise} {v v' : View} (life : Lifecycle promise v v') {job : Job} (present : v.job = some job) :
    ∃ job', v'.job = some job' ∧ job'.orgId = job.orgId := by
  have unique {other : Job} (found : v.job = some other) : other = job := by
    simpa [found] using present
  cases life with
  | stay | cancel | send | finish => exact ⟨job, present, rfl⟩
  | enqueue _ _ _ _ _ _ _ _ _ _ absent => simp [absent] at present
  | close _ _ _ found | claim _ _ _ _ found | attempted _ _ found | expire _ _ found =>
    obtain rfl := unique found
    exact ⟨_, rfl, rfl⟩
  | unselected _ _ _ current | eus _ _ _ _ _ _ current | gateway _ _ _ _ _ _ current | acknowledge _ _ _ current
  | grant _ _ _ _ _ current | withdraw _ _ _ _ _ current =>
    obtain rfl := unique current.1
    exact ⟨_, rfl, rfl⟩
  | result _ attempt now message current | eusResult _ attempt _ _ _ current | lapse _ attempt _ _ _ current =>
    obtain rfl := unique current.1
    exact ⟨_, rfl, (complete_keeps _ _ _ _ _ attempt).2.1⟩

theorem step_bewahrt (sha256 : String → String) {w : World} (sound : w.Sound) (action : Action) :
    w.db.Bewahrt (step sha256 w action).db :=
  fun id _ present => (step_refines sha256 id sound action).org present

section Enqueue

variable {sha256 : String → String} {now finished : Zeit} {uuid : String} {orgId : Nat} {jobKey phone text : String}
  {providers : List Provider} {legacy : Bool} {db db' : Db} {id : String}

/-- `enqueue_in` without a recipient: the job that it gives back is one of the
organisation, and other jobs are left as they are or closed. -/
theorem enqueueIn_folgt (keyed : db.Keyed)
    (done : enqueueIn sha256 now finished uuid orgId jobKey phone text providers none none legacy db = .ok (id, db')) :
    db.Folgt db' ∧ ∃ job, db'.job? id = some job ∧ job.orgId = orgId := by
  have keyed' := keyed.enqueueIn done
  unfold enqueueIn linkRecipient at done
  split at done
  · cases done
  · dsimp only at done
    split at done
    · split at done
      · cases done
      · next fresh =>
        cases done
        have absent : db.jobs.find? (fun job => job.id == uuid) = none := by simpa using fresh
        refine ⟨fun id job present => ⟨job, ?_, rfl, .refl _⟩,
          newJob now uuid orgId jobKey (sha256 (phone ++ "\x00" ++ text)) phone text providers none legacy, ?_, rfl⟩
        · show (db.jobs ++ [_]).find? _ = _
          rw [List.find?_append]
          exact Option.or_eq_some_iff.mpr (Or.inl present)
        · show (db.jobs ++ [_]).find? (fun job : Job => job.id == uuid) = _
          rw [List.find?_append, absent]
          simp [newJob]
    · next job found =>
      have member := List.mem_of_find?_eq_some found
      have org : job.orgId = orgId := by
        have guard := List.find?_some found
        simp only [Bool.and_eq_true, beq_iff_eq] at guard
        exact guard.1
      have present := Db.job?_of_mem keyed.jobIds member
      split at done
      · cases done
      · split at done
        · next closing =>
          cases done
          have written (other : String) : (closeLegacy finished job db).job? other =
              if other = job.id then (db.job? other).map fun _ => closedLegacy finished job else db.job? other := by
            rw [Db.job?, (closeLegacy_cancelsTo finished job db).jobs]
            exact Db.job?_setJob db (closedLegacy finished job) other
          refine ⟨fun other row isRow => ?_, closedLegacy finished job, ?_, org⟩
          · rw [written, isRow]
            split
            · next same =>
              subst same
              obtain rfl := Option.some.inj (present.symm.trans isRow)
              exact ⟨closedLegacy finished job, rfl, rfl, Or.inr ⟨by simpa using closing.2, rfl⟩⟩
            · exact ⟨row, rfl, rfl, .refl _⟩
          · rw [written, if_pos rfl, present]
            rfl
        · cases done
          exact ⟨.refl _, job, present, org⟩

theorem expire_job? (log : SmsLog) (jobId : String) (db : Db) (id : String) :
    ∃ f : Job → Job, (∀ job, (f job).orgId = job.orgId ∧ (f job).status = job.status) ∧
      (expire log jobId db).job? id = (db.job? id).map f := by
  unfold expire
  split
  · refine ⟨fun job => if job.orgId == log.orgId && job.id == jobId && job.status == .queued then
        { job with expiresAt := log.sentAt + stunden 1 } else job, fun job => ?_, ?_⟩
    · dsimp only
      split <;> exact ⟨rfl, rfl⟩
    · exact Relational.find?_update _ _ _ _ fun _ _ => rfl
  · exact ⟨fun job => job, fun _ => ⟨rfl, rfl⟩, Option.map_id'.symm⟩

theorem expire_keyed {log : SmsLog} {jobId : String} (keyed : db.Keyed) : (expire log jobId db).Keyed := by
  unfold expire
  split
  · refine ⟨keyed.messageIds, ?_⟩
    have same := @Relational.map_update Job String (·.id) (fun job => job.orgId == log.orgId && job.id == jobId && job.status == .queued)
      (fun job => { job with expiresAt := log.sentAt + stunden 1 }) (fun _ => rfl) db.jobs
    exact same ▸ keyed.jobIds
  · exact keyed

end Enqueue

theorem linked_spec (jobId : String) (known : Option Job) (legacySending : Bool) (row : LogRecipient) :
    (linked jobId known legacySending row).dispatchJobId = some jobId ∧
      (linked jobId known legacySending row).dispatchStatus = known.map (·.status) ∧
      (linked jobId known legacySending row).smsLogId = row.smsLogId ∧
      (legacySending = false → (linked jobId known legacySending row).success = row.success ∧
        (linked jobId known legacySending row).provider = row.provider) := by
  unfold linked
  dsimp only
  split
  · next legacy => exact ⟨rfl, rfl, rfl, fun other => absurd (legacy.symm.trans other) (by decide)⟩
  · exact ⟨rfl, rfl, rfl, fun _ => ⟨rfl, rfl⟩⟩

/-- A row is given the job that `enqueue_in` has found or added. -/
theorem queueRow_spec {sha256 : String → String} {chain : List Provider} {log : SmsLog} {eintrag : Eintrag}
    {row : LogRecipient} {s u : Stand} {legacy : Bool} (sound : s.world.Sound)
    (done : queueRow sha256 chain log eintrag row s = .ok (u, legacy)) :
    ∃ jobId known job, u.world.Sound ∧ s.world.db.Folgt u.world.db ∧ u.logs = s.logs ∧ u.projektoren = s.projektoren ∧
      u.recipients = s.recipients.modify row.id (linked jobId (some known) legacy) (linked_id _ _ _) ∧
      u.world.db.job? jobId = some job ∧ job.orgId = log.orgId ∧ job.status = known.status ∧
      legacy = (row.dispatchJobId.isNone && row.provider == some "sendet") := by
  unfold queueRow at done
  dsimp only at done
  cases queued : enqueueIn sha256 eintrag.now eintrag.finished eintrag.uuid log.orgId (jobKey sha256 log eintrag.phone)
      eintrag.phone log.text chain none none (row.dispatchJobId.isNone && row.provider == some "sendet") s.world.db with
  | error raised =>
    rw [queued] at done
    cases done
  | ok result =>
    obtain ⟨jobId, db⟩ := result
    rw [queued] at done
    cases done
    have keyed : s.world.db.Keyed := ⟨sound.messageIds, sound.jobIds⟩
    obtain ⟨folgt, known, isKnown, org⟩ := enqueueIn_folgt keyed queued
    have expired : db.Folgt (expire log jobId db) := by
      intro id job present
      obtain ⟨f, keeps, same⟩ := expire_job? log jobId db id
      refine ⟨f job, ?_, (keeps job).1, Or.inl (keeps job).2⟩
      rw [same, present]
      rfl
    have keyed' := @expire_keyed db log jobId (keyed.enqueueIn queued)
    obtain ⟨f, keeps, same⟩ := expire_job? log jobId db jobId
    refine ⟨jobId, known, f known, ⟨keyed'.messageIds, keyed'.jobIds, sound.issued⟩, folgt.trans expired, rfl, rfl, ?_, ?_,
      (keeps known).1.trans org, (keeps known).2, rfl⟩
    · simp only [isKnown]
    · show (expire log jobId db).job? jobId = _
      rw [same, isKnown]
      rfl

/-- What a call of `queue_log` has done to the rows so far: `g` to the old
ones, and `neu` are those it has added. -/
structure Fortgang (log : SmsLog) (s t : Stand) (migrated : Bool) (g : LogRecipient → LogRecipient) (neu : List LogRecipient) :
    Prop where
  rows : t.recipients.rows = s.recipients.rows.map g ++ neu
  logs : t.logs = s.logs
  projektoren : t.projektoren = s.projektoren
  sound : t.world.Sound
  folgt : s.world.db.Folgt t.world.db
  gleich : ∀ row, (g row).id = row.id ∧ (g row).smsLogId = row.smsLogId
  gebunden : ∀ row ∈ s.recipients.rows, row.dispatchJobId.isSome = true →
    (g row).dispatchJobId.isSome = true ∧ (g row).success = row.success ∧ (g row).provider = row.provider
  ungebunden : ∀ row ∈ s.recipients.rows, (g row).dispatchJobId = none → g row = row
  neueZeilen : ∀ row ∈ neu, row.smsLogId = log.id ∧
    ∃ jobId job, row.dispatchJobId = some jobId ∧ t.world.db.job? jobId = some job ∧ job.orgId = log.orgId
  gezeigt : ∀ row ∈ s.recipients.rows, ∀ jobId, (g row).dispatchJobId = some jobId → g row = row ∨
    row.smsLogId = log.id ∧ ∃ status job, (g row).dispatchStatus = some status ∧ t.world.db.job? jobId = some job ∧
      job.orgId = log.orgId ∧ Folge status job.status ∧
      ∀ old, s.world.db.job? jobId = some old → Folge old.status status
  migriert : migrated = true →
    ∃ row ∈ s.recipients.rows, row.smsLogId = log.id ∧ row.dispatchJobId = none ∧ (g row).dispatchJobId.isSome = true

namespace Fortgang

variable {sha256 : String → String} {chain : List Provider} {log : SmsLog} {s t u : Stand}
  {g : LogRecipient → LogRecipient}
  {neu : List LogRecipient} {eintrag : Eintrag} {migrated : Bool}

theorem refl (sound : s.world.Sound) : Fortgang log s s false (fun row => row) [] where
  rows := by simp
  logs := rfl
  projektoren := rfl
  sound := sound
  folgt := .refl _
  gleich _ := ⟨rfl, rfl⟩
  gebunden _ _ some_ := ⟨some_, rfl, rfl⟩
  ungebunden _ _ _ := rfl
  neueZeilen _ member := by cases member
  gezeigt _ _ _ _ := Or.inl rfl
  migriert never := by cases never

section

variable (fort : Fortgang log s t migrated g neu)
include fort

theorem queueRow {row : LogRecipient} {legacy : Bool} {neu' : List LogRecipient}
    {recipients : Keyed LogRecipient.id} (rows : recipients.rows = t.recipients.rows ++ neu')
    (member : row ∈ recipients.rows) (ofLog : row.smsLogId = log.id)
    (fresh : ∀ other ∈ neu', other = row ∧ row.provider = some "ausstehend")
    (done : queueRow sha256 chain log eintrag row { t with recipients } = .ok (u, legacy)) :
    ∃ g' neu'', Fortgang log s u (migrated || legacy) g' neu'' := by
  have start : ({ t with recipients } : Stand).world.Sound := fort.sound
  obtain ⟨jobId, known, job, sound, folgt, logs, projektoren, written, present, org, status, isLegacy⟩ := queueRow_spec start done
  have all : recipients.rows = s.recipients.rows.map g ++ (neu ++ neu') := by rw [rows, fort.rows, List.append_assoc]
  have isRow {old : LogRecipient} (inside : old ∈ s.recipients.rows) (same : (g old).id = row.id) : g old = row := by
    have member' : g old ∈ recipients.rows := by
      rw [all]
      exact List.mem_append_left _ (List.mem_map_of_mem inside)
    exact List.inj_on_of_nodup_map recipients.nodup member' member same
  have spec := linked_spec jobId (some known) legacy
  refine ⟨fun old => if (g old).id = row.id then linked jobId (some known) legacy (g old) else g old,
    (neu ++ neu').map fun new => if new.id = row.id then linked jobId (some known) legacy new else new, ?_, logs.trans fort.logs,
    projektoren.trans fort.projektoren, sound, fort.folgt.trans folgt, fun old => ?_, fun old inside some_ => ?_,
    fun old inside none_ => ?_, fun new inside => ?_, fun old inside id ofJob => ?_, fun some_ => ?_⟩
  · rw [written]
    show recipients.rows.map _ = _
    rw [all, List.map_append, List.map_map]
    rfl
  · split
    · exact ⟨(linked_id ..).trans (fort.gleich old).1, (spec (g old)).2.2.1.trans (fort.gleich old).2⟩
    · exact fort.gleich old
  · obtain ⟨still, success, provider⟩ := fort.gebunden old inside some_
    split
    · next same =>
      have bound : legacy = false := by
        rw [isLegacy, ← isRow inside same, Option.isNone_eq_false_iff.mpr still]
        rfl
      have kept := (spec (g old)).2.2.2 bound
      refine ⟨?_, kept.1.trans success, kept.2.trans provider⟩
      rw [(spec (g old)).1]
      rfl
    · exact ⟨still, success, provider⟩
  · split at none_
    · rw [(spec (g old)).1] at none_
      cases none_
    · next other =>
      rw [if_neg other]
      exact fort.ungebunden old inside none_
  · obtain ⟨old, isOld, rfl⟩ := List.mem_map.mp inside
    split
    · next same =>
      have ofLog' : old.smsLogId = log.id := by
        rcases List.mem_append.mp isOld with before | added
        · exact (fort.neueZeilen old before).1
        · exact (fresh old added).1 ▸ ofLog
      exact ⟨(spec old).2.2.1.trans ofLog', jobId, job, (spec old).1, present, org⟩
    · next other =>
      rcases List.mem_append.mp isOld with before | added
      · obtain ⟨ofLog', id, job', ofJob, present', org'⟩ := fort.neueZeilen old before
        obtain ⟨job'', present'', org'', -⟩ := folgt id job' present'
        exact ⟨ofLog', id, job'', ofJob, present'', org''.trans org'⟩
      · exact absurd (congrArg LogRecipient.id (fresh old added).1) other
  · split at ofJob
    · next same =>
      rw [if_pos same]
      rw [(spec (g old)).1] at ofJob
      cases ofJob
      have ofLog' : old.smsLogId = log.id := (fort.gleich old).2.symm.trans ((congrArg _ (isRow inside same)).trans ofLog)
      refine Or.inr ⟨ofLog', known.status, job, (spec (g old)).2.1, present, org, Or.inl status, fun before isBefore => ?_⟩
      obtain ⟨between, isBetween, -, one⟩ := fort.folgt jobId before isBefore
      obtain ⟨after, isAfter, -, two⟩ := folgt jobId between isBetween
      rw [Option.some.inj (present.symm.trans isAfter)] at status
      exact status ▸ one.trans two
    · next other =>
      rw [if_neg other]
      rcases fort.gezeigt old inside id ofJob with same | ⟨ofLog', status', job', shown', present', org', follows, before⟩
      · exact Or.inl same
      · obtain ⟨job'', present'', org'', later⟩ := folgt id job' present'
        exact Or.inr ⟨ofLog', status', job'', shown', present'', org''.trans org', follows.trans later, before⟩
  · have stays (old : LogRecipient) (some_ : (g old).dispatchJobId.isSome = true) :
        (if (g old).id = row.id then linked jobId (some known) legacy (g old) else g old).dispatchJobId.isSome = true := by
      split
      · rw [(spec (g old)).1]
        rfl
      · exact some_
    rcases Bool.or_eq_true_iff.mp some_ with before | now
    · obtain ⟨old, inside, ofLog', free, bound⟩ := fort.migriert before
      exact ⟨old, inside, ofLog', free, stays old bound⟩
    · -- an old row without a job: neither one that this call has added nor a new one
      rw [isLegacy, Bool.and_eq_true, Option.isNone_iff_eq_none, beq_iff_eq] at now
      rw [all] at member
      rcases List.mem_append.mp member with isOld | isNew
      · obtain ⟨old, inside, rfl⟩ := List.mem_map.mp isOld
        have same := fort.ungebunden old inside now.1
        refine ⟨old, inside, (fort.gleich old).2.symm.trans ofLog, same ▸ now.1, ?_⟩
        rw [if_pos rfl, (spec (g old)).1]
        rfl
      · rcases List.mem_append.mp isNew with before | added
        · obtain ⟨-, id, job', ofJob, -⟩ := fort.neueZeilen row before
          rw [now.1] at ofJob
          cases ofJob
        · have waits := (fresh row added).2
          rw [now.2] at waits
          exact absurd (Option.some.inj waits) (by decide)

theorem queueOne {migrated' : Bool}
    (done : queueOne sha256 chain log (t, migrated) eintrag = .ok (u, migrated')) :
    ∃ g' neu', Fortgang log s u migrated' g' neu' := by
  unfold Sms.queueOne at done
  dsimp only at done
  split at done
  · next row existing =>
    split at done
    · cases done
      exact ⟨g, neu, fort⟩
    · have found := List.find?_some existing
      simp only [Bool.and_eq_true, beq_iff_eq] at found
      have member : row ∈ t.recipients.rows := List.mem_reverse.mp (List.mem_of_find?_eq_some existing)
      cases queued : Sms.queueRow sha256 chain log eintrag row t with
      | error raised =>
        rw [queued] at done
        cases done
      | ok result =>
        rw [queued] at done
        cases done
        exact @Fortgang.queueRow _ _ _ _ _ _ _ _ _ _ fort row _ [] t.recipients (List.append_nil _).symm member found.1 (by simp)
          queued
  · cases queued : Sms.queueRow sha256 chain log eintrag (newRecipient log eintrag.phone (t.recipients.last + 1))
        { t with recipients := t.recipients.insert (newRecipient log eintrag.phone) fun _ => rfl } with
    | error raised =>
      have raises := done.symm.trans (congrArg (fun result => do
        let both ← result
        return (both.1, migrated || both.2)) queued)
      cases raises
    | ok result =>
      have returns := done.symm.trans (congrArg (fun result => do
        let both ← result
        return (both.1, migrated || both.2)) queued)
      cases returns
      refine fort.queueRow rfl ?_ rfl (fun other added => ⟨List.mem_singleton.mp added, rfl⟩) queued
      exact List.mem_append_right _ (List.mem_singleton.mpr rfl)

theorem foldlM {recipients : List Eintrag} {migrated' : Bool}
    (done : recipients.foldlM (Sms.queueOne sha256 chain log) (t, migrated) = .ok (u, migrated')) :
    ∃ g' neu', Fortgang log s u migrated' g' neu' :=
  @Transition.foldlM_keeps Eintrag (Stand × Bool) String (fun state => ∃ g' neu', Fortgang log s state.1 state.2 g' neu')
    (Sms.queueOne sha256 chain log) (fun _ _ _ ⟨_, _, fort'⟩ ok => fort'.queueOne ok) recipients (t, migrated)
    (u, migrated') ⟨g, neu, fort⟩ done

end

end Fortgang

/-- A call of `queue_log` has given jobs to rows of its log; the log itself it
writes only where a row of an older release was among them. -/
theorem queueLog_fortgang {sha256 : String → String} {now : Zeit} {chain : List Provider} {log : SmsLog}
    {recipients : List Eintrag} {s u : Stand} (sound : s.world.Sound) (done : queueLog sha256 now chain log recipients s = .ok u) :
    ∃ t migrated g neu, Fortgang log s t migrated g neu ∧ u.world = t.world ∧ u.recipients = t.recipients ∧
      u.projektoren = t.projektoren ∧ (u.logs = t.logs ∨ migrated = true ∧ ∃ f keeps, (∀ row, (f row).orgId = row.orgId) ∧
        u.logs = t.logs.modify log.id f keeps) := by
  unfold queueLog at done
  cases folded : recipients.foldlM (queueOne sha256 chain log) (s, false) with
  | error raised =>
    rw [folded] at done
    cases done
  | ok result =>
    obtain ⟨t, migrated⟩ := result
    obtain ⟨g, neu, fort⟩ := (Fortgang.refl sound).foldlM folded
    rw [folded] at done
    refine ⟨t, migrated, g, neu, fort, ?_⟩
    have split_ : (if (migrated && (t.zeilen log.id).all fun row => row.success || row.dispatchStatus.any JobStatus.terminal) = true
        then { t with logs := t.logs.modify log.id (fun log => { log with
          completedAt := some now
          successCount := (t.zeilen log.id).countP (·.success) }) fun _ => rfl }
        else t) = u := by
      split
      · next closes =>
        have returns := done.symm.trans (if_pos closes)
        exact (Except.ok.inj returns).symm
      · next open_ =>
        have returns := done.symm.trans (if_neg open_)
        exact (Except.ok.inj returns).symm
    subst split_
    split
    · next closes =>
      rw [Bool.and_eq_true] at closes
      refine ⟨rfl, rfl, rfl, Or.inr ⟨closes.1, fun row => { row with
        completedAt := some now
        successCount := (t.zeilen row.id).countP (·.success) }, fun _ => rfl, fun _ => rfl, rfl⟩⟩
    · exact ⟨rfl, rfl, rfl, Or.inl rfl⟩

end Einsatzcockpit.Sms
