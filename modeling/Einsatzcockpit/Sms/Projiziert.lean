import Mathlib.Data.List.Dedup
import Einsatzcockpit.Sms.Verkettung

namespace Einsatzcockpit.Sms

open Relational Transition

/-- Every recipient with a job is of a log of the job's organisation. -/
structure Stand.Ordentlich (s : Stand) : Prop where
  sound : s.world.Sound
  gebunden : ∀ row ∈ s.recipients.rows, ∀ jobId, row.dispatchJobId = some jobId →
    ∃ job log, s.world.db.job? jobId = some job ∧ s.logs.get? row.smsLogId = some log ∧ log.orgId = job.orgId

theorem altbestand_rows (logId : Nat) (alt : List LogRecipient) (recipients : Keyed LogRecipient.id) :
    ∃ neu, (altbestand logId alt recipients).rows = recipients.rows ++ neu ∧
      ∀ row ∈ neu, row.smsLogId = logId ∧ row.dispatchJobId = none := by
  unfold altbestand
  induction alt generalizing recipients with
  | nil => exact ⟨[], by simp⟩
  | cons first rest ih =>
    obtain ⟨neu, rows, unbound⟩ := ih (recipients.insert (fun id =>
      { first with id, smsLogId := logId, dispatchJobId := none, dispatchStatus := none }) fun _ => rfl)
    refine ⟨_ :: neu, rows.trans (List.append_assoc ..), fun row member => ?_⟩
    rcases List.mem_cons.mp member with rfl | later
    · exact ⟨rfl, rfl⟩
    · exact unbound row later

/-- What `project` writes at a row. -/
theorem mem_projectLog {now : Zeit} {label : Nat → Option String} {job : Job} {logId : Nat} {s : Stand} {row : LogRecipient}
    (member : row ∈ (projectLog now label job logId s).recipients.rows) :
    ∃ old ∈ s.recipients.rows, row.id = old.id ∧ row.smsLogId = old.smsLogId ∧ row.dispatchJobId = old.dispatchJobId ∧
      (old.smsLogId = logId ∧ old.dispatchJobId = some job.id ∧ row = shown job label old ∨
        ¬ (old.smsLogId = logId ∧ old.dispatchJobId = some job.id) ∧ row = old) := by
  obtain ⟨old, inside, rfl⟩ := List.mem_map.mp member
  refine ⟨old, inside, ?_⟩
  by_cases hit : old.smsLogId = logId ∧ old.dispatchJobId = some job.id
  · rw [if_pos hit]
    exact ⟨rfl, rfl, rfl, Or.inl ⟨hit.1, hit.2, rfl⟩⟩
  · rw [if_neg hit]
    exact ⟨rfl, rfl, rfl, Or.inr ⟨hit, rfl⟩⟩

/-- What `project` writes at a log. -/
theorem projectLog_log (now : Zeit) (label : Nat → Option String) (job : Job) (logId : Nat) (s : Stand) (id : Nat) :
    (projectLog now label job logId s).logs.get? id =
      if id = logId then (s.logs.get? id).map (abgerechnet now ((projectLog now label job logId s).zeilen logId))
      else s.logs.get? id :=
  Keyed.get?_modify logId id (abgerechnet now _) fun _ => rfl

theorem projectLog_ordentlich {s : Stand} (ordentlich : s.Ordentlich) (now : Zeit) (label : Nat → Option String) (job : Job)
    (logId : Nat) : (projectLog now label job logId s).Ordentlich := by
  refine ⟨ordentlich.sound, fun row member jobId ofJob => ?_⟩
  obtain ⟨old, inside, -, ofLog, sameJob, -⟩ := mem_projectLog member
  rw [sameJob] at ofJob
  obtain ⟨job', log, present, isLog, org⟩ := ordentlich.gebunden old inside jobId ofJob
  have read := projectLog_log now label job logId s old.smsLogId
  rw [ofLog]
  rw [isLog] at read
  split at read
  · exact ⟨job', _, present, read, org⟩
  · exact ⟨job', log, present, read, org⟩

section Schritt

variable (sha256 : String → String) {s : Stand}

/-- The rows, the logs and the queue after a turn of `project`. -/
theorem schritt_runde (projektor : Nat) (now : Zeit) (label : Nat → Option String) :
    schritt sha256 s (.runde projektor now label) = s ∨
      ∃ logId offen job, (s.projektoren projektor).offen = logId :: offen ∧
        s.world.db.job? (s.projektoren projektor).jobId = some job ∧
        schritt sha256 s (.runde projektor now label) =
          (projectLog now label job logId s).setze projektor { s.projektoren projektor with offen } := by
  simp only [schritt]
  split
  · next logId offen job isOffen found => exact Or.inr ⟨logId, offen, job, isOffen, found, rfl⟩
  · exact Or.inl rfl

theorem schritt_ordentlich (ordentlich : s.Ordentlich) (a : Schritt) : (schritt sha256 s a).Ordentlich := by
  cases a with
  | sms action =>
    refine ⟨step_sound sha256 s.world action ordentlich.sound, fun row member jobId ofJob => ?_⟩
    obtain ⟨job, log, present, ofLog, org⟩ := ordentlich.gebunden row member jobId ofJob
    obtain ⟨job', present', same⟩ := step_bewahrt sha256 ordentlich.sound action jobId job present
    exact ⟨job', log, present', ofLog, org.trans same.symm⟩
  | neuesLog log alt =>
    refine ⟨ordentlich.sound, fun row member jobId ofJob => ?_⟩
    obtain ⟨neu, rows, unbound⟩ := altbestand_rows (s.logs.last + 1) alt s.recipients
    have member' : row ∈ s.recipients.rows ++ neu := rows ▸ member
    rcases List.mem_append.mp member' with old | new
    · obtain ⟨job, log', present, ofLog, org⟩ := ordentlich.gebunden row old jobId ofJob
      exact ⟨job, log', present, Keyed.get?_insert_of_some ofLog, org⟩
    · rw [(unbound row new).2] at ofJob
      cases ofJob
  | queueLog now chain logId recipients =>
    simp only [schritt]
    split
    · exact ordentlich
    · next log isLog =>
      split
      · exact ordentlich
      · next u done =>
        obtain ⟨t, migrated, g, neu, fort, world, rows, -, logs⟩ := queueLog_fortgang ordentlich.sound done
        have kept {id : Nat} {log' : SmsLog} (found : s.logs.get? id = some log') : ∃ log'', u.logs.get? id = some log'' ∧ log''.orgId = log'.orgId := by
          rcases logs with same | ⟨-, f, keeps, org, written⟩
          · exact ⟨log', by rw [same, fort.logs, found], rfl⟩
          · rw [written, Keyed.get?_modify, fort.logs, found]
            split
            · exact ⟨f log', rfl, org log'⟩
            · exact ⟨log', rfl, rfl⟩
        have isId : log.id = logId := Keyed.key_of_get? isLog
        refine ⟨world ▸ fort.sound, fun row member jobId ofJob => ?_⟩
        rw [rows, fort.rows] at member
        rw [world]
        rcases List.mem_append.mp member with old | new
        · obtain ⟨row', inside, rfl⟩ := List.mem_map.mp old
          rcases fort.gezeigt row' inside jobId ofJob with same | ⟨ofLog, status, job, -, present, org, -⟩
          · rw [same] at ofJob ⊢
            obtain ⟨job, log', present, ofLog, org⟩ := ordentlich.gebunden row' inside jobId ofJob
            obtain ⟨job', present', org', -⟩ := fort.folgt jobId job present
            obtain ⟨log'', ofLog', org''⟩ := kept ofLog
            exact ⟨job', log'', present', ofLog', org''.trans (org.trans org'.symm)⟩
          · obtain ⟨log'', ofLog', org''⟩ := kept isLog
            refine ⟨job, log'', present, ?_, org''.trans org.symm⟩
            rw [(fort.gleich row').2, ofLog, isId]
            exact ofLog'
        · obtain ⟨ofLog, jobId', job, ofJob', present, org⟩ := fort.neueZeilen row new
          cases Option.some.inj (ofJob.symm.trans ofJob')
          obtain ⟨log'', ofLog', org''⟩ := kept isLog
          exact ⟨job, log'', present, by rw [ofLog, isId]; exact ofLog', org''.trans org.symm⟩
  | lies projektor orgId jobId =>
    simp only [schritt]
    split
    · exact ordentlich
    · split
      · exact ordentlich
      · exact ⟨ordentlich.sound, ordentlich.gebunden⟩
  | runde projektor now label =>
    rcases schritt_runde sha256 (s := s) projektor now label with same | ⟨logId, offen, job, -, -, same⟩
    · rw [same]
      exact ordentlich
    · rw [same]
      have kept := projectLog_ordentlich ordentlich now label job logId
      exact ⟨kept.sound, kept.gebunden⟩

def Ruhig (jobId : String) (s : Stand) (a : Schritt) : Prop :=
  ((schritt sha256 s a).world.db.job? jobId).map (·.status) = (s.world.db.job? jobId).map (·.status) ∧
    ∀ row ∈ (schritt sha256 s a).recipients.rows, row.dispatchJobId = some jobId →
      ∃ old, s.recipients.get? row.id = some old ∧ old.dispatchJobId = some jobId

/-- The recipient shows the status of its job, success if it is 'sent', and
waits while it is open. -/
def LogRecipient.Zeigt (row : LogRecipient) (status : JobStatus) : Prop :=
  row.dispatchStatus = some status ∧ row.success = (status == .sent) ∧ row.pending = !status.terminal

theorem shown_zeigt (job : Job) (label : Nat → Option String) (row : LogRecipient) : (shown job label row).Zeigt job.status := by
  refine ⟨rfl, rfl, ?_⟩
  cases is : job.status <;> simp [shown, LogRecipient.pending, is, JobStatus.terminal]

/-- All recipients of the job show it, but those of the logs still before the
projector. -/
def Stand.Gezeigt (s : Stand) (jobId : String) (offen : List Nat) : Prop :=
  ∀ row ∈ s.recipients.rows, row.dispatchJobId = some jobId →
    (∃ job, s.world.db.job? jobId = some job ∧ row.Zeigt job.status) ∨ row.smsLogId ∈ offen

variable {sha256} {jobId : String} {offen : List Nat}

theorem Stand.Gezeigt.of_rows (gezeigt : s.Gezeigt jobId offen) {t : Stand} (world : t.world = s.world)
    (rows : t.recipients = s.recipients) : t.Gezeigt jobId offen := by
  unfold Stand.Gezeigt
  rw [world, rows]
  exact gezeigt

theorem queueLog_gezeigt {log : SmsLog} {t : Stand} {migrated : Bool} {g : LogRecipient → LogRecipient} {neu : List LogRecipient}
    (fort : Fortgang log s t migrated g neu)
    (status : (t.world.db.job? jobId).map (·.status) = (s.world.db.job? jobId).map (·.status))
    (known : ∀ row ∈ t.recipients.rows, row.dispatchJobId = some jobId →
      ∃ old, s.recipients.get? row.id = some old ∧ old.dispatchJobId = some jobId)
    (gezeigt : s.Gezeigt jobId offen) : t.Gezeigt jobId offen := by
  intro row member ofJob
  obtain ⟨old, isOld, wasJob⟩ := known row member ofJob
  have inside := Keyed.mem_of_get? isOld
  have origin : row = g old := by
    have there : g old ∈ t.recipients.rows := by
      rw [fort.rows]
      exact List.mem_append_left _ (List.mem_map_of_mem inside)
    have same : (g old).id = row.id := (fort.gleich old).1.trans (Keyed.key_of_get? isOld)
    exact (List.inj_on_of_nodup_map t.recipients.nodup there member same).symm
  subst origin
  rcases gezeigt old inside wasJob with ⟨job, present, shows⟩ | waits
  · obtain ⟨job', present', -, -⟩ := fort.folgt jobId job present
    rw [present, present'] at status
    have same : job'.status = job.status := Option.some.inj status
    refine Or.inl ⟨job', present', ?_⟩
    rw [same]
    rcases fort.gezeigt old inside jobId ofJob with unchanged | ⟨-, between, job'', shown', present'', -, later, before⟩
    · rw [unchanged]
      exact shows
    · cases Option.some.inj (present'.symm.trans present'')
      have still := (before job present).still (same ▸ later)
      obtain ⟨-, success, provider⟩ := fort.gebunden old inside (wasJob ▸ rfl)
      refine ⟨shown'.trans (congrArg some still), success.trans shows.2.1, ?_⟩
      rw [LogRecipient.pending, success, provider]
      exact shows.2.2
  · exact Or.inr ((fort.gleich old).2.symm ▸ waits)

theorem schritt_gezeigt (ordentlich : s.Ordentlich) {a : Schritt} (ruhig : Ruhig sha256 jobId s a)
    (gezeigt : s.Gezeigt jobId offen) : (schritt sha256 s a).Gezeigt jobId offen := by
  obtain ⟨status, known⟩ := ruhig
  cases a with
  | sms action =>
    intro row member ofJob
    rcases gezeigt row member ofJob with ⟨job, present, shows⟩ | waits
    · obtain ⟨job', present', -⟩ := step_bewahrt sha256 ordentlich.sound action jobId job present
      have same : job'.status = job.status := by
        have both := status
        rw [present, show (schritt sha256 s (.sms action)).world.db.job? jobId = some job' from present'] at both
        exact Option.some.inj both
      exact Or.inl ⟨job', present', same ▸ shows⟩
    · exact Or.inr waits
  | neuesLog log alt =>
    intro row member ofJob
    obtain ⟨neu, rows, unbound⟩ := altbestand_rows (s.logs.last + 1) alt s.recipients
    have member' : row ∈ s.recipients.rows ++ neu := rows ▸ member
    rcases List.mem_append.mp member' with old | new
    · exact gezeigt row old ofJob
    · rw [(unbound row new).2] at ofJob
      cases ofJob
  | queueLog now chain logId recipients =>
    simp only [schritt] at status known ⊢
    split
    · exact gezeigt
    · next log isLog =>
      simp only [isLog] at status known
      split
      · exact gezeigt
      · next u done =>
        simp only [done] at status known
        obtain ⟨t, migrated, g, neu, fort, world, rows, -, -⟩ := queueLog_fortgang ordentlich.sound done
        rw [world] at status
        rw [rows] at known
        exact (queueLog_gezeigt fort status known gezeigt).of_rows world rows
  | lies projektor orgId jobId' =>
    simp only [schritt]
    split
    · exact gezeigt
    · split
      · exact gezeigt
      · exact gezeigt
  | runde projektor now label =>
    rcases schritt_runde sha256 (s := s) projektor now label with same | ⟨logId, rest, job, -, found, same⟩
    · rw [same]
      exact gezeigt
    · rw [same]
      intro row member ofJob
      obtain ⟨old, inside, -, ofLog, sameJob, written⟩ := @mem_projectLog now label job logId s row member
      rw [sameJob] at ofJob
      rcases written with ⟨-, isJob, rfl⟩ | ⟨-, rfl⟩
      · have isId : job.id = (s.projektoren projektor).jobId := Db.job?_id found
        rw [ofJob, isId] at isJob
        refine Or.inl ⟨job, ?_, shown_zeigt job label old⟩
        rw [Option.some.inj isJob]
        exact found
      · exact gezeigt row inside ofJob

variable (sha256) in
def OhneNeue (logId : Nat) (s : Stand) (a : Schritt) : Prop :=
  ∀ row ∈ (schritt sha256 s a).recipients.rows, row.smsLogId = logId → row.dispatchJobId.isSome = true →
    ∃ old, s.recipients.get? row.id = some old ∧ old.dispatchJobId.isSome = true

/-- The log counts its successful recipients, and is completed when none waits. -/
def Stand.Erfasst (s : Stand) (logId : Nat) : Prop :=
  ∃ log, s.logs.get? logId = some log ∧ log.successCount = (s.zeilen logId).countP (·.success) ∧
    (log.completedAt.isSome = true ↔ ∀ row ∈ s.zeilen logId, row.pending = false)

def Stand.bild (s : Stand) (logId : Nat) : List (Bool × Bool) :=
  (s.zeilen logId).map fun row => (row.success, row.pending)

variable {logId : Nat}

theorem Stand.Erfasst.of_bild {t : Stand} (erfasst : s.Erfasst logId) (log : t.logs.get? logId = s.logs.get? logId)
    (bild : t.bild logId = s.bild logId) : t.Erfasst logId := by
  have count (u : Stand) : (u.zeilen logId).countP (·.success) = (u.bild logId).countP (·.1) := by
    rw [Stand.bild, List.countP_map]
    rfl
  have waits (u : Stand) : (∀ row ∈ u.zeilen logId, row.pending = false) ↔ ∀ entry ∈ u.bild logId, entry.2 = false := by
    rw [Stand.bild, List.forall_mem_map]
  obtain ⟨row, found, successes, completed⟩ := erfasst
  refine ⟨row, log.trans found, ?_, ?_⟩
  · rw [count, bild, ← count]
    exact successes
  · rw [waits, bild, ← waits]
    exact completed

/-- A call of `queue_log` that gives no recipient of the log its first job. -/
theorem queueLog_bild {log : SmsLog} {t : Stand} {migrated : Bool} {g : LogRecipient → LogRecipient} {neu : List LogRecipient}
    (fort : Fortgang log s t migrated g neu)
    (known : ∀ row ∈ t.recipients.rows, row.smsLogId = logId → row.dispatchJobId.isSome = true →
      ∃ old, s.recipients.get? row.id = some old ∧ old.dispatchJobId.isSome = true) :
    t.bild logId = s.bild logId ∧ (log.id = logId → migrated = false) := by
  have nodup := t.recipients.nodup
  rw [fort.rows, List.map_append, List.nodup_append] at nodup
  have origin {row old : LogRecipient} (inside : row ∈ s.recipients.rows) (isOld : s.recipients.get? (g row).id = some old) :
      old = row :=
    List.inj_on_of_nodup_map s.recipients.nodup (Keyed.mem_of_get? isOld) inside
      ((Keyed.key_of_get? isOld).trans (fort.gleich row).1)
  have none_ : neu.filter (fun row => row.smsLogId == logId) = [] := by
    refine List.filter_eq_nil_iff.mpr fun row inside ofLog => ?_
    obtain ⟨-, jobId, -, ofJob, -⟩ := fort.neueZeilen row inside
    have member : row ∈ t.recipients.rows := by
      rw [fort.rows]
      exact List.mem_append_right _ inside
    obtain ⟨old, isOld, -⟩ := known row member (beq_iff_eq.mp ofLog) (ofJob ▸ rfl)
    have same : (g old).id = row.id := (fort.gleich old).1.trans (Keyed.key_of_get? isOld)
    exact nodup.2.2 _ (List.mem_map_of_mem (List.mem_map_of_mem (Keyed.mem_of_get? isOld))) _ (List.mem_map_of_mem inside) same
  constructor
  · unfold Stand.bild Stand.zeilen
    rw [fort.rows, List.filter_append, none_, List.append_nil, List.filter_map, List.map_map]
    have kept : (fun row => row.smsLogId == logId) ∘ g = fun row => row.smsLogId == logId := by
      funext row
      rw [Function.comp_apply, (fort.gleich row).2]
    rw [kept]
    refine List.map_congr_left fun row member => ?_
    obtain ⟨inside, ofLog⟩ := List.mem_filter.mp member
    have there : g row ∈ t.recipients.rows := by
      rw [fort.rows]
      exact List.mem_append_left _ (List.mem_map_of_mem inside)
    cases bound : (g row).dispatchJobId with
    | none => rw [Function.comp_apply, fort.ungebunden row inside bound]
    | some jobId =>
      obtain ⟨old, isOld, wasBound⟩ := known (g row) there ((fort.gleich row).2.trans (beq_iff_eq.mp ofLog)) (bound ▸ rfl)
      rw [origin inside isOld] at wasBound
      obtain ⟨-, success, provider⟩ := fort.gebunden row inside wasBound
      rw [Function.comp_apply, LogRecipient.pending, LogRecipient.pending, success, provider]
  · intro ofLog
    by_contra isMigrated
    obtain ⟨row, inside, rowLog, free, bound⟩ := fort.migriert (Bool.eq_true_of_not_eq_false isMigrated)
    have there : g row ∈ t.recipients.rows := by
      rw [fort.rows]
      exact List.mem_append_left _ (List.mem_map_of_mem inside)
    obtain ⟨old, isOld, wasBound⟩ := known (g row) there ((fort.gleich row).2.trans (rowLog.trans ofLog)) bound
    rw [origin inside isOld, free] at wasBound
    cases wasBound

theorem projectLog_erfasst {now : Zeit} {label : Nat → Option String} {job : Job} (exists_ : (s.logs.get? logId).isSome = true) :
    (projectLog now label job logId s).Erfasst logId := by
  obtain ⟨log, found⟩ := Option.isSome_iff_exists.mp exists_
  have read := projectLog_log now label job logId s logId
  rw [if_pos rfl, found, Option.map_some] at read
  refine ⟨_, read, rfl, ?_⟩
  unfold abgerechnet
  dsimp only
  split
  · next waits =>
    obtain ⟨row, member, pending⟩ := List.any_eq_true.mp waits
    refine ⟨fun never => (by cases never), fun all => ?_⟩
    rw [all row member] at pending
    cases pending
  · next none_ =>
    rw [Bool.not_eq_true, List.any_eq_false] at none_
    exact ⟨fun _ row member => Bool.eq_false_of_not_eq_true (none_ row member), fun _ => rfl⟩

/-- A turn of `project` at another log. -/
theorem projectLog_bild {now : Zeit} {label : Nat → Option String} {job : Job} {other : Nat} (different : logId ≠ other) :
    (projectLog now label job other s).bild logId = s.bild logId := by
  unfold Stand.bild Stand.zeilen projectLog Keyed.map
  dsimp only
  rw [List.filter_map, List.map_map]
  have kept : ((fun row => row.smsLogId == logId) ∘ fun row =>
      if row.smsLogId = other ∧ row.dispatchJobId = some job.id then shown job label row else row) =
      fun row : LogRecipient => row.smsLogId == logId := by
    funext row
    rw [Function.comp_apply]
    split <;> rfl
  rw [kept]
  refine List.map_congr_left fun row member => ?_
  have ofLog := beq_iff_eq.mp (List.mem_filter.mp member).2
  rw [Function.comp_apply, if_neg]
  exact fun hit => different (ofLog.symm.trans hit.1)

theorem schritt_log (ordentlich : s.Ordentlich) (a : Schritt) (exists_ : (s.logs.get? logId).isSome = true) :
    ((schritt sha256 s a).logs.get? logId).isSome = true := by
  obtain ⟨log, found⟩ := Option.isSome_iff_exists.mp exists_
  cases a with
  | sms action => exact exists_
  | neuesLog log' alt => exact Option.isSome_iff_exists.mpr ⟨log, Keyed.get?_insert_of_some found⟩
  | queueLog now chain id recipients =>
    simp only [schritt]
    split
    · exact exists_
    · split
      · exact exists_
      · next u done =>
        obtain ⟨t, migrated, g, neu, fort, -, -, -, logs⟩ := queueLog_fortgang ordentlich.sound done
        rcases logs with same | ⟨-, f, keeps, -, written⟩
        · rw [same, fort.logs]
          exact exists_
        · rw [written, Keyed.get?_modify, fort.logs, found]
          split <;> rfl
  | lies projektor orgId jobId =>
    simp only [schritt]
    split
    · exact exists_
    · split <;> exact exists_
  | runde projektor now label =>
    rcases schritt_runde sha256 (s := s) projektor now label with same | ⟨id, rest, job, -, -, same⟩
    · rw [same]
      exact exists_
    · rw [same]
      show ((projectLog now label job id s).logs.get? logId).isSome = true
      rw [projectLog_log, found]
      split <;> rfl

theorem schritt_erfasst (ordentlich : s.Ordentlich) {a : Schritt} (ohneNeue : OhneNeue sha256 logId s a)
    (erfasst : s.Erfasst logId) : (schritt sha256 s a).Erfasst logId := by
  obtain ⟨log, found, -⟩ := id erfasst
  cases a with
  | sms action => exact erfasst
  | neuesLog log' alt =>
    obtain ⟨neu, rows, unbound⟩ := altbestand_rows (s.logs.last + 1) alt s.recipients
    have same := @Keyed.get?_insert_of_some SmsLog SmsLog.id s.logs logId log (fun id => { log' with id }) (fun _ => rfl) found
    refine erfasst.of_bild (same.trans found.symm) ?_
    have none_ : neu.filter (fun row => row.smsLogId == logId) = [] := by
      refine List.filter_eq_nil_iff.mpr fun row inside ofLog => ?_
      have bound := s.logs.fresh log (Keyed.mem_of_get? found)
      have isId : log.id = logId := Keyed.key_of_get? found
      rw [(unbound row inside).1, beq_iff_eq] at ofLog
      omega
    have zeilen : (schritt sha256 s (.neuesLog log' alt)).zeilen logId = s.zeilen logId := by
      show (altbestand (s.logs.last + 1) alt s.recipients).rows.filter _ = _
      rw [rows, List.filter_append, none_, List.append_nil]
      rfl
    rw [Stand.bild, zeilen]
    rfl
  | queueLog now chain id recipients =>
    simp only [OhneNeue, schritt] at ohneNeue ⊢
    split
    · exact erfasst
    · next log' isLog =>
      simp only [isLog] at ohneNeue
      split
      · exact erfasst
      · next u done =>
        simp only [done] at ohneNeue
        obtain ⟨t, migrated, g, neu, fort, -, rows, -, logs⟩ := queueLog_fortgang ordentlich.sound done
        rw [rows] at ohneNeue
        obtain ⟨bild, notMigrated⟩ := queueLog_bild fort ohneNeue
        have bild' : u.bild logId = s.bild logId := by
          rw [Stand.bild, Stand.zeilen, rows]
          exact bild
        refine erfasst.of_bild ?_ bild'
        rcases logs with same | ⟨isMigrated, f, keeps, -, written⟩
        · rw [same, fort.logs]
        · rw [written, Keyed.get?_modify, fort.logs]
          split
          · next own =>
            rw [notMigrated own.symm] at isMigrated
            cases isMigrated
          · rfl
  | lies projektor orgId jobId =>
    simp only [schritt]
    split
    · exact erfasst
    · split <;> exact erfasst
  | runde projektor now label =>
    rcases schritt_runde sha256 (s := s) projektor now label with same | ⟨other, rest, job, -, -, same⟩
    · rw [same]
      exact erfasst
    · rw [same]
      show (projectLog now label job other s).Erfasst logId
      by_cases own : logId = other
      · subst own
        exact projectLog_erfasst (Option.isSome_iff_exists.mpr ⟨log, found⟩)
      · refine erfasst.of_bild ?_ (projectLog_bild own)
        rw [projectLog_log, if_neg own]

theorem schritt_projektor (ordentlich : s.Ordentlich) (a : Schritt) (p : Nat) :
    (schritt sha256 s a).projektoren p = s.projektoren p ∨ (s.projektoren p).offen = [] ∨
      ∃ now label other rest job, a = .runde p now label ∧ (s.projektoren p).offen = other :: rest ∧
        s.world.db.job? (s.projektoren p).jobId = some job ∧
        schritt sha256 s a = (projectLog now label job other s).setze p { s.projektoren p with offen := rest } := by
  cases a with
  | sms action => exact Or.inl rfl
  | neuesLog log alt => exact Or.inl rfl
  | queueLog now chain id recipients =>
    simp only [schritt]
    split
    · exact Or.inl rfl
    · split
      · exact Or.inl rfl
      · next u done =>
        obtain ⟨t, migrated, g, neu, fort, -, -, projektoren, -⟩ := queueLog_fortgang ordentlich.sound done
        exact Or.inl (by rw [projektoren, fort.projektoren])
  | lies projektor orgId jobId =>
    simp only [schritt]
    split
    · exact Or.inl rfl
    · next idle =>
      split
      · exact Or.inl rfl
      · by_cases same : p = projektor
        · exact Or.inr (Or.inl (by simpa [same] using idle))
        · exact Or.inl (Function.update_of_ne same ..)
  | runde projektor now label =>
    rcases schritt_runde sha256 (s := s) projektor now label with same | ⟨other, rest, job, isOffen, found, same⟩
    · exact Or.inl (by rw [same])
    · by_cases own : p = projektor
      · subst own
        exact Or.inr (Or.inr ⟨now, label, other, rest, job, rfl, isOffen, found, same⟩)
      · rw [same]
        exact Or.inl (Function.update_of_ne own ..)

end Schritt

section Lauf

variable {sha256 : String → String} {p orgId : Nat} {jobId : String}

theorem run_projektor {ok : Stand → Schritt → Prop} {P : Stand → List Nat → Prop}
    (ordentlich : ∀ s offen, P s offen → s.Ordentlich)
    (keeps : ∀ s a offen, ok s a → P s offen → P (schritt sha256 s a) offen)
    (turns : ∀ s now label job other rest, P s (other :: rest) → s.world.db.job? jobId = some job →
      P ((projectLog now label job other s).setze p { orgId, jobId, offen := rest }) rest)
    {s : Stand} {offen : List Nat} (at_ : s.projektoren p = { orgId, jobId, offen }) (start : P s offen)
    {waehrend : List Schritt} (meets : Meets (schritt sha256) ok s waehrend)
    (fertig : ((run (schritt sha256) s waehrend).projektoren p).offen = []) : P (run (schritt sha256) s waehrend) [] := by
  have progress := @run_induction Stand Schritt (schritt sha256) ok
    (fun s => P s [] ∨ ∃ offen, s.projektoren p = { orgId, jobId, offen } ∧ P s offen) (fun s a held isOk => ?_) s
    waehrend (Or.inr ⟨offen, at_, start⟩) meets
  · rcases progress with done | ⟨offen, at_, held⟩
    · exact done
    · rw [at_] at fertig
      exact fertig ▸ held
  · rcases held with done | ⟨offen, at_, held⟩
    · exact Or.inl (keeps s a [] isOk done)
    · rcases @schritt_projektor sha256 s (ordentlich s offen held) a p with same | idle | ⟨now, label, other, rest, job, -, isOffen, found, same⟩
      · exact Or.inr ⟨offen, same.trans at_, keeps s a offen isOk held⟩
      · rw [at_] at idle
        exact Or.inl (keeps s a [] isOk (idle ▸ held))
      · rw [at_] at isOffen found same
        rw [same]
        refine Or.inr ⟨rest, Function.update_self .., turns s now label job other rest (isOffen ▸ held) found⟩

/-- A call of `project` for the job has begun and ended in the run, and every
step since its begin meets `ok`. -/
def Projiziert (sha256 : String → String) (ok : Stand → Schritt → Prop) (jobId : String) (schritte : List Schritt)
    (beginn : Stand) : Prop :=
  ∃ projektor orgId vor waehrend danach job, schritte = vor ++ .lies projektor orgId jobId :: (waehrend ++ danach) ∧
    beginn = run (schritt sha256) {} vor ∧ (beginn.projektoren projektor).offen = [] ∧
    beginn.world.db.job? jobId = some job ∧ job.orgId = orgId ∧
    ((run (schritt sha256) {} (vor ++ .lies projektor orgId jobId :: waehrend)).projektoren projektor).offen = [] ∧
    Meets (schritt sha256) ok (schritt sha256 beginn (.lies projektor orgId jobId)) (waehrend ++ danach)

theorem initial_ordentlich : Stand.Ordentlich {} :=
  ⟨⟨List.nodup_nil, List.nodup_nil, by simp⟩, fun _ member => by cases member⟩

theorem run_ordentlich (sha256 : String → String) (schritte : List Schritt) : (run (schritt sha256) {} schritte).Ordentlich :=
  run_invariant Stand.Ordentlich (fun _ a held => schritt_ordentlich sha256 held a) initial_ordentlich schritte

/-- What a call of `project` reaches stays so to the end of the run. -/
theorem projiziert_ende {ok : Stand → Schritt → Prop} {P : Stand → List Nat → Prop} {schritte : List Schritt} {beginn : Stand}
    (projiziert : Projiziert sha256 ok jobId schritte beginn)
    (ordentlich : ∀ s offen, P s offen → s.Ordentlich)
    (keeps : ∀ s a offen, ok s a → P s offen → P (schritt sha256 s a) offen)
    (turns : ∀ s p orgId now label job other rest, P s (other :: rest) → s.world.db.job? jobId = some job →
      P ((projectLog now label job other s).setze p { orgId, jobId, offen := rest }) rest)
    (liest : ∀ s p orgId job, s.Ordentlich → s.world.db.job? jobId = some job → job.orgId = orgId →
      s = beginn → P (s.setze p { orgId, jobId, offen := s.logIds orgId jobId }) (s.logIds orgId jobId)) :
    P (run (schritt sha256) {} schritte) [] := by
  obtain ⟨p, orgId, vor, waehrend, danach, job, rfl, begins, idle, present, org, fertig, meets⟩ := projiziert
  obtain ⟨during, after⟩ := meets_append.mp meets
  have reads : schritt sha256 beginn (.lies p orgId jobId) = beginn.setze p { orgId, jobId, offen := beginn.logIds orgId jobId } := by
    simp only [schritt, idle, present]
    rw [if_neg (fun busy => busy rfl), Option.filter_some, if_pos (beq_iff_eq.mpr org)]
  have start := liest beginn p orgId job (begins ▸ run_ordentlich sha256 vor) present org rfl
  rw [reads] at during after
  rw [run_append, run_cons, ← begins, reads] at fertig
  have reached : P (run (schritt sha256) (beginn.setze p { orgId, jobId, offen := beginn.logIds orgId jobId }) waehrend) [] :=
    run_projektor ordentlich keeps (fun s => turns s p orgId) (Function.update_self ..) start during fertig
  rw [run_append, run_cons, run_append, ← begins, reads]
  exact run_induction (P · []) (fun s a held isOk => keeps s a [] isOk held) reached after

/-- Once a call of `project` has run since the last status change of a job and
since the last recipient was linked to it, its recipients show it; once one for
a job of a log has run since the last of the log's recipients was given its
first job, the log counts them. A projector that comes late writes the status
that the job has then. -/
theorem projektion (sha256 : String → String) (schritte : List Schritt) :
    let ende := run (schritt sha256) {} schritte
    (∀ jobId beginn, Projiziert sha256 (Ruhig sha256 jobId) jobId schritte beginn →
        ∀ row ∈ ende.recipients.rows, row.dispatchJobId = some jobId →
          ∃ job, ende.world.db.job? jobId = some job ∧ row.Zeigt job.status) ∧
      (∀ logId jobId beginn, Projiziert sha256 (OhneNeue sha256 logId) jobId schritte beginn →
        (∃ row ∈ beginn.zeilen logId, row.dispatchJobId = some jobId) → ende.Erfasst logId) ∧
      ∀ projektor now label, ∀ row ∈ (schritt sha256 ende (.runde projektor now label)).recipients.rows,
        row ∈ ende.recipients.rows ∨ ∃ jobId job, row.dispatchJobId = some jobId ∧ ende.world.db.job? jobId = some job ∧
          row.Zeigt job.status := by
  intro ende
  refine ⟨fun jobId beginn projiziert row member ofJob => ?_, fun logId jobId beginn projiziert hasRow => ?_,
    fun projektor now label row member => ?_⟩
  · have reached := @projiziert_ende sha256 jobId (Ruhig sha256 jobId) (fun s offen => s.Ordentlich ∧ s.Gezeigt jobId offen)
      schritte beginn projiziert (fun _ _ held => held.1)
      (fun s a offen isOk held => ⟨schritt_ordentlich sha256 held.1 a, schritt_gezeigt held.1 isOk held.2⟩) ?_ ?_
    · rcases reached.2 row member ofJob with shows | waits
      · exact shows
      · cases waits
    · intro s p orgId now label job other rest held found
      have kept := projectLog_ordentlich held.1 now label job other
      refine ⟨⟨kept.sound, kept.gebunden⟩, fun row member ofJob => ?_⟩
      obtain ⟨old, inside, -, ofLog, sameJob, written⟩ := @mem_projectLog now label job other s row member
      rcases written with ⟨-, -, rfl⟩ | ⟨missed, rfl⟩
      · exact Or.inl ⟨job, found, shown_zeigt job label old⟩
      · rcases held.2 row inside ofJob with shows | waits
        · exact Or.inl shows
        · rcases List.mem_cons.mp waits with here | later
          · have isId := Db.job?_id found
            exact absurd ⟨here, isId ▸ ofJob⟩ missed
          · exact Or.inr later
    · intro s p orgId job ordentlich present org _
      refine ⟨⟨ordentlich.sound, ordentlich.gebunden⟩, fun row member ofJob => Or.inr ?_⟩
      obtain ⟨job', log, present', ofLog, sameOrg⟩ := ordentlich.gebunden row member jobId ofJob
      cases Option.some.inj (present.symm.trans present')
      refine List.mem_dedup.mpr (List.mem_map.mpr ⟨row, List.mem_filter.mpr ⟨member, ?_⟩, rfl⟩)
      rw [ofJob, ofLog]
      simp [sameOrg, org]
  · have reached := @projiziert_ende sha256 jobId (OhneNeue sha256 logId)
      (fun s offen => s.Ordentlich ∧ (s.logs.get? logId).isSome = true ∧ (s.Erfasst logId ∨ logId ∈ offen))
      schritte beginn projiziert (fun _ _ held => held.1) ?_ ?_ ?_
    · exact reached.2.2.resolve_right List.not_mem_nil
    · intro s a offen isOk held
      refine ⟨schritt_ordentlich sha256 held.1 a, schritt_log held.1 a held.2.1, ?_⟩
      exact held.2.2.imp_left (schritt_erfasst held.1 isOk)
    · intro s p orgId now label job other rest held found
      have kept := projectLog_ordentlich held.1 now label job other
      have exists_ : ((projectLog now label job other s).logs.get? logId).isSome = true := by
        obtain ⟨log, isLog⟩ := Option.isSome_iff_exists.mp held.2.1
        rw [projectLog_log, isLog]
        split <;> rfl
      refine ⟨⟨kept.sound, kept.gebunden⟩, exists_, ?_⟩
      by_cases own : logId = other
      · subst own
        exact Or.inl (projectLog_erfasst held.2.1)
      · rcases held.2.2 with erfasst | waits
        · refine Or.inl (erfasst.of_bild ?_ (@projectLog_bild s logId now label job other own))
          show (projectLog now label job other s).logs.get? logId = _
          rw [projectLog_log, if_neg own]
        · exact Or.inr ((List.mem_cons.mp waits).resolve_left own)
    · intro s p orgId job ordentlich present org begins
      obtain ⟨row, inside, ofJob⟩ := hasRow
      rw [← begins] at inside
      obtain ⟨member, ofLog⟩ := List.mem_filter.mp inside
      obtain ⟨job', log, present', isLog, sameOrg⟩ := ordentlich.gebunden row member jobId ofJob
      cases Option.some.inj (present.symm.trans present')
      rw [beq_iff_eq.mp ofLog] at isLog
      refine ⟨⟨ordentlich.sound, ordentlich.gebunden⟩, Option.isSome_iff_exists.mpr ⟨log, isLog⟩, Or.inr ?_⟩
      refine List.mem_dedup.mpr (List.mem_map.mpr ⟨row, List.mem_filter.mpr ⟨member, ?_⟩, beq_iff_eq.mp ofLog⟩)
      rw [ofJob, beq_iff_eq.mp ofLog, isLog]
      simp [sameOrg, org]
  · rcases @schritt_runde sha256 ende projektor now label with same | ⟨logId, rest, job, -, found, same⟩
    · rw [same] at member
      exact Or.inl member
    · rw [same] at member
      obtain ⟨old, inside, -, -, sameJob, written⟩ := @mem_projectLog now label job logId ende row member
      rcases written with ⟨-, isJob, rfl⟩ | ⟨-, rfl⟩
      · have isId := Db.job?_id found
        rw [← isId] at found
        exact Or.inr ⟨job.id, job, isJob, found, shown_zeigt job label old⟩
      · exact Or.inl inside

end Lauf

def alarmLog : SmsLog := { id := 0, orgId := 1, source := "alarm", incidentId := some 1, text := "Alarm", sentAt := 0 }

def gesendet : List Schritt :=
  [.neuesLog alarmLog [], .queueLog 0 [.eus] 1 [⟨"+43", "a", 0, 0⟩], .sms (.claim 0 "t" "w" 1 "a"),
    .sms (.prepare ⟨0, 0, 0, 0⟩ "m" 1 "a" "t" true 15), .sms (.eusResult 0 1 "a" "t" .accepted)]

def zweitesLog : List Schritt := [.neuesLog alarmLog [], .queueLog 0 [.eus] 2 [⟨"+43", "b", 0, 0⟩]]

/-- A recipient that is linked to a job after its projection keeps waiting. -/
theorem projektion_neuer_empfaenger :
    ¬ ∀ (schritte : List Schritt) (jobId : String) (beginn : Stand),
      Projiziert id (fun s a =>
        ((schritt id s a).world.db.job? jobId).map (·.status) = (s.world.db.job? jobId).map (·.status)) jobId schritte beginn →
      ∀ row ∈ (run (schritt id) {} schritte).recipients.rows, row.dispatchJobId = some jobId →
        ∃ job, (run (schritt id) {} schritte).world.db.job? jobId = some job ∧ row.dispatchStatus = some job.status ∧
          row.success = (job.status == .sent) := by
  intro law
  let danach : List Schritt := [.runde 0 0 fun _ => none] ++ zweitesLog
  obtain ⟨job, isJob⟩ := Option.isSome_iff_exists.mp
    (by decide +kernel : ((run (schritt id) {} gesendet).world.db.job? "a").isSome = true)
  have org : ∀ job ∈ (run (schritt id) {} gesendet).world.db.job? "a", job.orgId = 1 := by decide +kernel
  have projiziert : Projiziert id (fun s a =>
      ((schritt id s a).world.db.job? "a").map (·.status) = (s.world.db.job? "a").map (·.status)) "a"
      (gesendet ++ .lies 0 1 "a" :: danach) (run (schritt id) {} gesendet) :=
    ⟨0, 1, gesendet, [.runde 0 0 fun _ => none], zweitesLog, job, rfl, rfl, by decide +kernel, isJob, org job isJob, by decide +kernel,
      by decide +kernel⟩
  have rows : ((run (schritt id) {} (gesendet ++ .lies 0 1 "a" :: danach)).recipients.rows.any fun row =>
      row.dispatchJobId == some "a" && !row.success && row.dispatchStatus == some .sent) = true := by decide +kernel
  obtain ⟨row, member, facts⟩ := List.any_eq_true.mp rows
  simp only [Bool.and_eq_true, beq_iff_eq, Bool.not_eq_true'] at facts
  obtain ⟨⟨ofJob, failed⟩, sent⟩ := facts
  obtain ⟨job', -, status, success⟩ := law _ "a" _ projiziert row member ofJob
  rw [sent] at status
  rw [failed, ← Option.some.inj status] at success
  cases success

end Einsatzcockpit.Sms
