import Einsatzcockpit.Sms.Traced

namespace Einsatzcockpit.Sms

theorem Cancelled.refl (rows : List GatewayMessage) : Cancelled rows rows :=
  List.forall₂_same.mpr fun _ _ => Or.inl rfl

variable {old new : List GatewayMessage} {id : String} {db db' : Db} {orgId : Nat} {job : Job}

theorem Cancelled.trans {middle : List GatewayMessage} (first : Cancelled old middle)
    (second : Cancelled middle new) : Cancelled old new := by
  induction first generalizing new with
  | nil => exact second
  | @cons item item' rest rest' head _ ih =>
    obtain ⟨item'', rest'', change, tail, rfl⟩ := List.forall₂_cons_left_iff.mp second
    refine .cons ?_ (ih tail)
    rcases head with rfl | ⟨queued, rfl⟩
    · exact change
    · rcases change with rfl | ⟨waiting, -⟩
      · exact Or.inr ⟨queued, rfl⟩
      · simp at waiting

section

variable (cancelled : Cancelled old new)
include cancelled

theorem Cancelled.ids :
    new.map (·.id) = old.map (·.id) := by
  induction cancelled with
  | nil => rfl
  | @cons item item' _ _ head _ ih => rcases head with rfl | ⟨-, rfl⟩ <;> simp [ih]

theorem Cancelled.filter (jobId : String) :
    Cancelled (old.filter fun item => item.message.jobId == jobId)
      (new.filter fun item => item.message.jobId == jobId) := by
  induction cancelled with
  | nil => exact .nil
  | @cons item item' _ _ head _ ih =>
    have same : item'.message = item.message := by rcases head with rfl | ⟨-, rfl⟩ <;> rfl
    simp only [List.filter_cons, same]
    split
    · exact .cons head ih
    · exact ih

theorem Cancelled.stays_expired {P : GatewayMessage → Prop} (expired : ∀ item ∈ old, P item → item.state = .expired) :
    ∀ item ∈ new, P item → item.state = .expired := by
  intro item' member holds
  obtain ⟨item, inside, rfl | ⟨-, rfl⟩⟩ := Relational.forall₂_right cancelled member
  · exact expired item' inside holds
  · rfl

theorem Cancelled.was_queued
    (queued : ∀ item ∈ new, item.id = id → item.state = .queued) :
    ∀ item ∈ old, item.id = id → item.state = .queued := by
  intro item member same
  obtain ⟨item', inside, rfl | ⟨was, -⟩⟩ := Relational.forall₂_left cancelled member
  · exact queued item' inside same
  · exact was

end

/-- The databases differ by cancelled transport rows and in tables that no
job's life depends on. -/
structure Db.CancelsTo (db db' : Db) : Prop where
  jobs : db'.jobs = db.jobs
  attempts : db'.attempts = db.attempts
  messages : Cancelled db.messages db'.messages

theorem Db.CancelsTo.refl (db : Db) : db.CancelsTo db := ⟨rfl, rfl, .refl _⟩

theorem Db.CancelsTo.trans {db'' : Db} (first : db.CancelsTo db') (second : db'.CancelsTo db'') :
    db.CancelsTo db'' :=
  ⟨second.jobs.trans first.jobs, second.attempts.trans first.attempts, first.messages.trans second.messages⟩

theorem cancelQueued_cancelsTo (orgId : Nat) (routeId : Option String) (db : Db) :
    db.CancelsTo (cancelQueued orgId routeId db).1 := by
  cases routeId with
  | none => exact .refl db
  | some id =>
    refine ⟨rfl, rfl, List.forall₂_map_right_iff.mpr (List.forall₂_same.mpr fun item _ => ?_)⟩
    split
    · next hit =>
      simp only [Bool.and_eq_true, beq_iff_eq] at hit
      exact Or.inr ⟨hit.2, rfl⟩
    · exact Or.inl rfl

theorem same_of_id {rows : List GatewayMessage} (ids : (rows.map (·.id)).Nodup) {item other : GatewayMessage}
    (member : item ∈ rows) (inside : other ∈ rows) (same : item.id = other.id) : item = other :=
  List.inj_on_of_nodup_map ids member inside same

theorem cancelQueued_hit (ids : (db.messages.map (·.id)).Nodup)
    (hit : cancelQueued orgId (some id) db = (db', true)) :
    (∀ item ∈ db.messages, item.id = id → item.state = .queued) ∧
      ∀ item ∈ db'.messages, item.id = id → item.state = .expired := by
  simp only [cancelQueued, Prod.mk.injEq, List.any_eq_true, Bool.and_eq_true, beq_iff_eq] at hit
  obtain ⟨rfl, row, inside, ⟨org, atId⟩, queued⟩ := hit
  have only : ∀ item ∈ db.messages, item.id = id → item = row := fun item member same =>
    same_of_id ids member inside (same.trans atId.symm)
  refine ⟨fun item member same => only item member same ▸ queued, fun item' member same => ?_⟩
  obtain ⟨item, member', rfl⟩ := Relational.mem_update.mp member
  by_cases isRow : item.id = id
  · obtain rfl := only item member' isRow
    simp [org, isRow, queued]
  · simp [isRow] at same

theorem cancelAll_cancelsTo (orgId : Nat) (grants : List GatewayMessage) (db : Db) :
    db.CancelsTo (cancelAll orgId grants db).1 := by
  induction grants generalizing db with
  | nil => exact .refl db
  | cons grant rest ih =>
    have first := cancelQueued_cancelsTo orgId (some grant.id) db
    rw [cancelAll]
    split
    · next cancelled hit =>
      rw [hit] at first
      exact first.trans (ih cancelled)
    · next cancelled hit =>
      rw [hit] at first
      exact first

theorem cancelAll_hit {grants : List GatewayMessage}
    (ids : (db.messages.map (·.id)).Nodup) (hit : cancelAll orgId grants db = (db', true)) :
    ∀ grant ∈ grants, (∀ item ∈ db.messages, item.id = grant.id → item.state = .queued) ∧
      ∀ item ∈ db'.messages, item.id = grant.id → item.state = .expired := by
  induction grants generalizing db with
  | nil => simp
  | cons grant rest ih =>
    rw [cancelAll] at hit
    split at hit
    · next cancelled first =>
      have step := cancelQueued_cancelsTo orgId (some grant.id) db
      have later := cancelAll_cancelsTo orgId rest cancelled
      rw [first] at step
      rw [hit] at later
      have here := cancelQueued_hit ids first
      intro wanted member
      rcases List.mem_cons.mp member with rfl | inside
      · exact ⟨here.1, later.messages.stays_expired here.2⟩
      · have rest_hit := ih (step.messages.ids ▸ ids) hit wanted inside
        exact ⟨step.messages.was_queued rest_hit.1, rest_hit.2⟩
    · simp at hit

theorem linkRecipient_spec {phone : String} {recipientId : Option Nat}
    (linked : linkRecipient orgId phone job recipientId db = .ok db') :
    db'.jobs = db.jobs ∧ db'.attempts = db.attempts ∧ db'.messages = db.messages := by
  unfold linkRecipient at linked
  split at linked
  · obtain rfl : db = db' := by simpa using linked
    exact ⟨rfl, rfl, rfl⟩
  · split at linked
    · simp at linked
    · split at linked
      · simp at linked
      · obtain rfl := Except.ok.inj linked
        exact ⟨rfl, rfl, rfl⟩

theorem closeLegacy_cancelsTo (now : Zeit) (job : Job) (db : Db) :
    (db.setJob (closedLegacy now job)).CancelsTo (closeLegacy now job db) := by
  have folded : ∀ (attempts : List Attempt) (start : Db), start.CancelsTo (attempts.foldl (fun db attempt =>
      (cancelQueued job.orgId attempt.grantRouteId (cancelQueued job.orgId attempt.routeId db).1).1) start) := by
    intro attempts
    induction attempts with
    | nil => exact fun start => .refl start
    | cons attempt rest ih =>
      exact fun start => ((cancelQueued_cancelsTo ..).trans (cancelQueued_cancelsTo ..)).trans (ih _)
  exact folded _ _

/-- What `enqueue_in` can do. -/
theorem enqueueIn_cases {sha256 : String → String} {now finished : Zeit} {uuid : String}
    {jobKey phone text : String} {providers : List Provider} {preferred recipientId : Option Nat}
    {legacy : Bool}
    (done : enqueueIn sha256 now finished uuid orgId jobKey phone text providers preferred recipientId legacy db =
      .ok (id, db')) :
    (∃ hash, (∀ job ∈ db.jobs, job.id ≠ uuid) ∧
      db'.jobs = db.jobs ++ [newJob now uuid orgId jobKey hash phone text providers preferred legacy] ∧
      db'.attempts = db.attempts ∧ db'.messages = db.messages) ∨
    (∃ job ∈ db.jobs, job.status.terminal = false ∧ db'.jobs = (closeLegacy finished job db).jobs ∧
      db'.attempts = (closeLegacy finished job db).attempts ∧
      db'.messages = (closeLegacy finished job db).messages) ∨
    (db'.jobs = db.jobs ∧ db'.attempts = db.attempts ∧ db'.messages = db.messages) := by
  unfold enqueueIn at done
  split at done
  · simp at done
  dsimp only at done
  split at done
  · split at done
    · simp at done
    · next free =>
      cases linked : linkRecipient orgId phone (newJob now uuid orgId jobKey (sha256 (phone ++ "\x00" ++ text)) phone
          text providers preferred legacy) recipientId { db with jobs := db.jobs ++ [newJob now uuid orgId jobKey
            (sha256 (phone ++ "\x00" ++ text)) phone text providers preferred legacy] } with
      | error message => simp [linked] at done
      | ok linkedDb =>
        rw [linked] at done
        obtain ⟨-, rfl⟩ : _ ∧ linkedDb = db' := by simpa using done
        obtain ⟨jobs, attempts, messages⟩ := linkRecipient_spec linked
        refine Or.inl ⟨_, fun job member same => free ?_, jobs, attempts, messages⟩
        exact List.any_eq_true.mpr ⟨job, member, by simpa using same⟩
  · next job found =>
    split at done
    · simp at done
    split at done
    · next pending =>
      cases linked : linkRecipient orgId phone (closedLegacy finished job) recipientId
          (closeLegacy finished job db) with
      | error message => simp [linked] at done
      | ok linkedDb =>
        rw [linked] at done
        obtain ⟨-, rfl⟩ : _ ∧ linkedDb = db' := by simpa using done
        exact Or.inr (Or.inl ⟨job, List.mem_of_find?_eq_some found, by simpa using pending.2,
          linkRecipient_spec linked⟩)
    · cases linked : linkRecipient orgId phone job recipientId db with
      | error message => simp [linked] at done
      | ok linkedDb =>
        rw [linked] at done
        obtain ⟨-, rfl⟩ : _ ∧ linkedDb = db' := by simpa using done
        exact Or.inr (Or.inr (linkRecipient_spec linked))

theorem SameRow.commits {item item' : GatewayMessage} (same : item'.SameRow item) :
    item'.commits job ↔ item.commits job := by
  obtain ⟨-, message, org, kind, gatewayId, -⟩ := same
  simp only [GatewayMessage.commits, message, org, kind, gatewayId]

/-- A successful withdrawal leaves no row of the generation that could still
be delivered, as far as `sweep` knows the generation's rows. -/
theorem withdraw_withdrawn {read : String → Bool} {attempt : Attempt}
    (ids : (db.messages.map (·.id)).Nodup) (safe : withdraw read job attempt db = (db', true)) :
    (job.provider ≠ some .gateway → job.status = .claimed ∨ job.mayHaveSent = false) ∧
      (job.provider = some .gateway → Withdrawn job attempt (db.messagesOf job.id) (db'.messagesOf job.id)) := by
  unfold withdraw at safe
  split at safe
  · next gateway =>
    refine ⟨fun other => absurd gateway other, fun _ => ?_⟩
    split at safe
    · next two =>
      dsimp only at safe
      split at safe
      swap
      · simp at safe
      have hits := cancelAll_hit ids safe
      have listed : ∀ item ∈ db.messages, item.commits job → item.jobKey = some (wireId job.id job.generation) →
          item ∈ grantsOf db job := by
        rintro item member ⟨commit, org, kind, gatewayId, -, -⟩ key
        exact List.mem_filter.mpr ⟨member, by simp [commit, org, kind, gatewayId, key]⟩
      refine ⟨fun one => absurd two (by omega), fun _ => ⟨fun item member commits key => ?_,
        fun item' member commits key => ?_⟩⟩
      · have inside := (List.mem_filter.mp member).1
        exact (hits item (listed item inside commits key)).1 item inside rfl
      · have inside' := (List.mem_filter.mp member).1
        have cancels := cancelAll_cancelsTo job.orgId (grantsOf db job) db
        rw [safe] at cancels
        obtain ⟨item, inside, row, -⟩ := cancels.messages.progressed.from_old item' inside'
        have old := (SameRow.commits row).mp commits
        exact (hits item (listed item inside old (row.2.2.2.2.2 ▸ key))).2 item' inside' row.1
    · next one =>
      refine ⟨fun _ => ?_, fun two => absurd two one⟩
      cases routed : attempt.routeId with
      | none => simp [routed, cancelQueued] at safe
      | some id =>
        rw [routed] at safe
        have hit := cancelQueued_hit ids safe
        refine ⟨fun item member same => ?_, fun item member same => ?_⟩
        · exact hit.1 item (List.mem_filter.mp member).1 (Option.some.inj same).symm
        · exact hit.2 item (List.mem_filter.mp member).1 (Option.some.inj same).symm
  · next other =>
    refine ⟨fun _ => ?_, fun gateway => absurd gateway other⟩
    have decided : (job.status == .claimed || ! job.mayHaveSent) = true := (Prod.mk.inj safe).2
    simpa using decided

theorem withdraw_cancelsTo (read : String → Bool) (job : Job) (attempt : Attempt) (db : Db) :
    db.CancelsTo (withdraw read job attempt db).1 := by
  unfold withdraw
  split
  · split
    · dsimp only
      split
      · exact cancelAll_cancelsTo ..
      · exact .refl db
    · exact cancelQueued_cancelsTo ..
  · exact .refl db

theorem Withdrawn.cancel {attempt : Attempt} {middle : List GatewayMessage}
    (withdrawn : Withdrawn job attempt old middle) (cancelled : Cancelled middle new) :
    Withdrawn job attempt old new := by
  refine ⟨fun one => ⟨(withdrawn.1 one).1, ?_⟩, fun two => ⟨(withdrawn.2 two).1, ?_⟩⟩
  · exact cancelled.stays_expired (withdrawn.1 one).2
  · have both : ∀ item ∈ new, item.commits job ∧ item.jobKey = some (wireId job.id job.generation) →
        item.state = .expired :=
      cancelled.stays_expired fun item member holds => (withdrawn.2 two).2 item member holds.1 holds.2
    exact fun item member commits key => both item member ⟨commits, key⟩

/-- What `sweep` can do to a job. -/
inductive Sweeping (now finished : Zeit) (orgId : Nat) (db : Db) (job : Job) : Db → Prop
  | expire (waiting : job.status = .queued) : Sweeping now finished orgId db job (db.setJob (queueExpired now job))
  | withdraw (attempt : Attempt) (cancelled : Db) (timeout : Bool) (active : job.status.active = true)
      (tried : db.attempt? orgId job.id job.generation = some attempt) (cancels : db.CancelsTo cancelled)
      (elsewhere : job.provider ≠ some .gateway → job.status = .claimed ∨ job.mayHaveSent = false)
      (withdrawn : job.provider = some .gateway →
        Withdrawn job attempt (db.messagesOf job.id) (cancelled.messagesOf job.id)) :
      Sweeping now finished orgId db job
        ((cancelled.setJob (requeued now timeout job attempt).1).setAttempt (requeued now timeout job attempt).2)
  | lapse (attempt : Attempt) (cancelled : Db) (error : Option String) (active : job.status.active = true)
      (tried : db.attempt? orgId job.id job.generation = some attempt) (cancels : db.CancelsTo cancelled) :
      Sweeping now finished orgId db job
        ((cancelled.setJob (complete finished .uncertain error false job attempt).1).setAttempt
          (complete finished .uncertain error false job attempt).2)

theorem Db.CancelsTo.messagesOf (cancels : db.CancelsTo db') (id : String) :
    Cancelled (db.messagesOf id) (db'.messagesOf id) :=
  cancels.messages.filter id

/-- `sweep` changes nothing, or moves one of the organisation's jobs. -/
theorem sweep_cases (now finished : Zeit) (read : String → Bool) (orgId : Nat) (jobId : String) (db : Db)
    (ids : (db.messages.map (·.id)).Nodup) :
    sweep now finished read orgId jobId db = db ∨
      ∃ job, db.job? jobId = some job ∧ job.orgId = orgId ∧
        Sweeping now finished orgId db job (sweep now finished read orgId jobId db) := by
  cases found : (db.job? jobId).filter fun job => job.orgId == orgId with
  | none => exact Or.inl (by simp [sweep, found])
  | some job =>
    obtain ⟨present, org⟩ := Option.filter_eq_some_iff.mp found
    have owner : job.id = jobId := by simpa using List.find?_some present
    simp only [beq_iff_eq] at org
    simp only [sweep, found]
    split
    · exact Or.inl rfl
    next running =>
    split
    · next waiting =>
      split
      · exact Or.inl rfl
      · exact Or.inr ⟨job, present, org, .expire waiting⟩
    next notWaiting =>
    have active : job.status.active = true := by
      cases same : job.status <;> simp_all [JobStatus.active, JobStatus.terminal]
    split
    · exact Or.inl rfl
    next attempt tried =>
    rw [← owner] at tried
    split
    · exact Or.inl rfl
    split
    · next cancelled safe =>
      have first := withdraw_cancelsTo read job attempt db
      rw [safe] at first
      have second := cancelQueued_cancelsTo orgId attempt.routeId cancelled
      obtain ⟨elsewhere, withdrawn⟩ := withdraw_withdrawn ids safe
      exact Or.inr ⟨job, present, org, .withdraw attempt _ _ active tried (first.trans second) elsewhere
        fun gateway => (withdrawn gateway).cancel (second.messagesOf job.id)⟩
    · next cancelled refused =>
      have first := withdraw_cancelsTo read job attempt db
      rw [refused] at first
      split
      · exact Or.inr ⟨job, present, org, .lapse attempt _ _ active tried first⟩
      · exact Or.inl rfl

end Einsatzcockpit.Sms
