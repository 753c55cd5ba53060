import Einsatzcockpit.Sms.World

namespace Einsatzcockpit.Sms

structure Job.Coherent (job : Job) : Prop where
  waiting : job.status = .queued → job.mayHaveSent = false ∧ job.leaseUntil = none ∧ job.claimToken = none
  held : job.status = .claimed → job.mayHaveSent = false ∧ job.provider = none
  routed : awaiting job = true → job.provider = some .gateway ∨
    (job.provider = some .eus ∧ job.mayHaveSent = true ∧ job.status = .dispatched)
  started : job.status.active = true → 1 ≤ job.generation
  index : job.providerIndex < job.providers.length ∨ (job.providers = [] ∧ job.providerIndex = 0)

theorem active_of_awaiting {job : Job} (waits : awaiting job = true) : job.status.active = true := by
  simp only [awaiting, Bool.or_eq_true, beq_iff_eq] at waits
  rcases waits with same | same <;> simp [same, JobStatus.active]

theorem newJob_coherent (now : Zeit) (uuid : String) (orgId : Nat) (jobKey payloadHash phone text : String)
    (providers : List Provider) (preferred : Option Nat) (legacy : Bool) :
    (newJob now uuid orgId jobKey payloadHash phone text providers preferred legacy).Coherent := by
  refine ⟨?_, ?_, ?_, ?_, ?_⟩
  · cases legacy <;> simp [newJob]
  · cases legacy <;> simp [newJob]
  · cases legacy <;> simp [newJob, awaiting]
  · cases legacy <;> simp [newJob, JobStatus.active]
  · cases providers <;> simp [newJob]

namespace Job.Coherent

variable {job : Job} (coherent : job.Coherent)
include coherent

section

variable (now : Zeit)
include now

theorem closedLegacy : (closedLegacy now job).Coherent :=
  ⟨by simp [Sms.closedLegacy], by simp [Sms.closedLegacy], by simp [Sms.closedLegacy, awaiting],
    by simp [Sms.closedLegacy, JobStatus.active], coherent.index⟩

theorem claimed (token worker : String) : (claimed now token worker job).Coherent :=
  ⟨by simp [Sms.claimed], by simp [Sms.claimed], by simp [Sms.claimed, awaiting], by simp [Sms.claimed],
    coherent.index⟩

theorem notSelected (attempt : Attempt) (held : job.status = .claimed) :
    (notSelected now job attempt).1.Coherent :=
  ⟨fun _ => ⟨(coherent.held held).1, rfl, rfl⟩, by simp [Sms.notSelected], by simp [Sms.notSelected, awaiting],
    by simp [Sms.notSelected, JobStatus.active], coherent.index⟩

theorem dispatchedEus {index : Nat} (timeout : Int) (attempt : Attempt)
    (held : job.status = .claimed) (inside : index < job.providers.length) :
    (dispatchedEus now index timeout job attempt).1.Coherent :=
  ⟨by simp [Sms.dispatchedEus], by simp [Sms.dispatchedEus], by simp [Sms.dispatchedEus],
    fun _ => coherent.started (by simp [held, JobStatus.active]), Or.inl inside⟩

theorem dispatchedGateway {index : Nat} (row : SmsGatewayToken) (itemId : String)
    (attempt : Attempt) (held : job.status = .claimed) (inside : index < job.providers.length) :
    (dispatchedGateway now index row itemId job attempt).1.Coherent :=
  ⟨by simp [Sms.dispatchedGateway], by simp [Sms.dispatchedGateway], by simp [Sms.dispatchedGateway],
    fun _ => coherent.started (by simp [held, JobStatus.active]), Or.inl inside⟩

theorem acknowledged (attempt : Attempt) (waits : awaiting job = true)
    (routed : job.provider = some .gateway) : (acknowledged now job attempt).1.Coherent :=
  ⟨by simp [Sms.acknowledged], by simp [Sms.acknowledged], fun _ => Or.inl routed,
    fun _ => coherent.started (active_of_awaiting waits), coherent.index⟩

theorem granted (connection : Connection) (itemId : String) (attempt : Attempt)
    (waits : awaiting job = true) (routed : job.provider = some .gateway) :
    (granted now connection itemId job attempt).1.Coherent :=
  ⟨by simp [Sms.granted, Sms.acknowledged], by simp [Sms.granted, Sms.acknowledged], fun _ => Or.inl routed,
    fun _ => coherent.started (active_of_awaiting waits), coherent.index⟩

end

theorem attempted (moment : Option Zeit) : { job with attemptedAt := moment : Job }.Coherent :=
  ⟨coherent.waiting, coherent.held, coherent.routed, coherent.started, coherent.index⟩

theorem complete (now : Zeit) (outcome : Outcome) (error : Option String) (notSent : Bool)
    (attempt : Attempt) : (complete now outcome error notSent job attempt).1.Coherent := by
  unfold Sms.complete
  split
  · next falls =>
    refine ⟨by simp, by simp, by simp [awaiting], by simp [JobStatus.active], Or.inl ?_⟩
    simp only [fallsBack, Bool.and_eq_true, decide_eq_true_eq] at falls
    exact falls.2
  · refine ⟨?_, ?_, ?_, ?_, coherent.index⟩
    all_goals cases outcome <;> simp [Outcome.status, awaiting, JobStatus.active]

theorem queueExpired (now : Zeit) : (queueExpired now job).Coherent :=
  ⟨by simp [Sms.queueExpired], by simp [Sms.queueExpired], by simp [Sms.queueExpired, awaiting],
    by simp [Sms.queueExpired, JobStatus.active], coherent.index⟩

theorem requeued (now : Zeit) (timeout : Bool) (attempt : Attempt) :
    (requeued now timeout job attempt).1.Coherent :=
  ⟨by simp [Sms.requeued], by simp [Sms.requeued], by simp [Sms.requeued, awaiting],
    by simp [Sms.requeued, JobStatus.active], coherent.index⟩

end Job.Coherent

/-- The job's columns agree and it has exactly the attempts 1 to its
generation, all of its organisation; what is not there has left nothing
behind. -/
structure View.Coherent (v : View) : Prop where
  absent : v.job = none → v.attempts = [] ∧ v.messages = [] ∧ v.released = [] ∧ v.effects = [] ∧ v.unsent = []
  job : ∀ job, v.job = some job → job.Coherent
  generations : ∀ job, v.job = some job → v.attempts.map (·.generation) = List.range' 1 job.generation
  owned : ∀ job, v.job = some job → ∀ attempt ∈ v.attempts, attempt.orgId = job.orgId

theorem put_generations (v : View) (written : Job × Attempt) :
    (v.put written).attempts.map (·.generation) = v.attempts.map (·.generation) := by
  simp only [View.put, Relational.update, List.map_map]
  refine List.map_congr_left fun row _ => ?_
  by_cases same : row.generation = written.2.generation <;> simp [same]

theorem complete_generation (now : Zeit) (outcome : Outcome) (error : Option String) (notSent : Bool)
    (job : Job) (attempt : Attempt) :
    (complete now outcome error notSent job attempt).1.generation = job.generation := by
  unfold complete
  split <;> rfl

/-- A job and its attempt keep their generation and organisation when they are
written back. -/
def Keeps (job : Job) (attempt : Attempt) (written : Job × Attempt) : Prop :=
  written.1.generation = job.generation ∧ written.1.orgId = job.orgId ∧ written.2.orgId = attempt.orgId

theorem complete_keeps (now : Zeit) (outcome : Outcome) (error : Option String) (notSent : Bool) (job : Job)
    (attempt : Attempt) : Keeps job attempt (complete now outcome error notSent job attempt) := by
  unfold complete
  split <;> exact ⟨rfl, rfl, rfl⟩

namespace View.Coherent

variable {v : View} (coherent : v.Coherent)
include coherent

theorem put {job : Job} {attempt : Attempt} (current : v.Current job attempt) {written : Job × Attempt}
    (keeps : Keeps job attempt written) (written_coherent : written.1.Coherent) : (v.put written).Coherent where
  absent none := by simp [View.put] at none
  job new isNew := by
    obtain rfl : written.1 = new := by simpa [View.put] using isNew
    exact written_coherent
  generations new isNew := by
    obtain rfl : written.1 = new := by simpa [View.put] using isNew
    rw [put_generations, coherent.generations job current.1, keeps.1]
  owned new isNew row member := by
    obtain rfl : written.1 = new := by simpa [View.put] using isNew
    rw [keeps.2.1]
    obtain ⟨old, inside, rfl⟩ := Relational.mem_update.mp member
    split
    · exact keeps.2.2.trans (coherent.owned job current.1 attempt current.2.1)
    · exact coherent.owned job current.1 old inside

theorem replace {job new : Job} (present : v.job = some job)
    (same : new.generation = job.generation ∧ new.orgId = job.orgId) (new_coherent : new.Coherent) : { v with job := some new : View }.Coherent where
  absent none := by simp at none
  job new' isNew := by
    obtain rfl : new = new' := by simpa using isNew
    exact new_coherent
  generations new' isNew := by
    obtain rfl : new = new' := by simpa using isNew
    simpa only [same.1] using coherent.generations job present
  owned new' isNew := by
    obtain rfl : new = new' := by simpa using isNew
    simpa only [same.2] using coherent.owned job present

theorem decorate {job : Job} (present : v.job = some job) (messages : List GatewayMessage)
    (released : List String) (effects unsent : List Nat) :
    { v with messages := messages, released := released, effects := effects, unsent := unsent : View }.Coherent
    where
  absent none := by simp [present] at none
  job := coherent.job
  generations := coherent.generations
  owned := coherent.owned

end View.Coherent

variable {promise : Promise} {v v' : View}

theorem Lifecycle.coherent (life : Lifecycle promise v v') (held : v.Coherent) : v'.Coherent := by
  cases life with
  | stay => exact held
  | cancel messages cancelled =>
    refine ⟨fun none => ?_, held.job, held.generations, held.owned⟩
    obtain ⟨attempts, empty, rest⟩ := held.absent none
    rw [empty] at cancelled
    exact ⟨attempts, List.forall₂_nil_left_iff.mp cancelled, rest⟩
  | enqueue now uuid orgId jobKey payloadHash phone text providers preferred legacy absent =>
    refine ⟨by simp, ?_, ?_, by simp [(held.absent absent).1]⟩
    · rintro job ⟨⟩
      exact newJob_coherent ..
    · rintro job ⟨⟩
      simp [(held.absent absent).1, newJob]
  | close job now messages present pending cancelled =>
    have closed := (held.job job present).closedLegacy now
    exact (held.replace present (show _ ∧ (closedLegacy now job).orgId = _ from ⟨rfl, rfl⟩) closed).decorate rfl ..
  | claim job now token worker present waiting fresh =>
    refine ⟨by simp, ?_, ?_, ?_⟩
    · rintro new ⟨⟩
      exact (held.job job present).claimed now token worker
    · rintro new ⟨⟩
      simp only [List.map_append, held.generations job present, claimed, newAttempt, List.map_cons,
        List.map_nil]
      rw [List.range'_1_concat, Nat.add_comm 1]
    · rintro new ⟨⟩ attempt member
      rcases List.mem_append.mp member with old | isNew
      · exact held.owned job present attempt old
      · obtain rfl : attempt = newAttempt now (claimed now token worker job) := by simpa using isNew
        rfl
  | unselected job attempt now current claimed =>
    exact held.put current ⟨rfl, rfl, rfl⟩ ((held.job job current.1).notSelected now attempt claimed)
  | eus job attempt now index timeout token current claimed owned later inside =>
    exact (held.put current ⟨rfl, rfl, rfl⟩
      ((held.job job current.1).dispatchedEus now timeout attempt claimed inside)).decorate rfl ..
  | gateway job attempt now index row item current claimed later inside =>
    exact (held.put current ⟨rfl, rfl, rfl⟩
      ((held.job job current.1).dispatchedGateway now row item.id attempt claimed inside)).decorate rfl ..
  | acknowledge job attempt now current waits routed =>
    exact held.put current ⟨rfl, rfl, rfl⟩ ((held.job job current.1).acknowledged now attempt waits routed)
  | grant job attempt now connection item current waits routed =>
    exact (held.put current ⟨rfl, rfl, rfl⟩
      ((held.job job current.1).granted now connection item.id attempt waits routed)).decorate rfl ..
  | attempted job now present => exact held.replace present ⟨rfl, rfl⟩ ((held.job job present).attempted _)
  | result job attempt now message current =>
    exact (held.put current (complete_keeps ..) ((held.job job current.1).complete ..)).decorate rfl ..
  | eusResult job attempt now token outcome current =>
    exact (held.put current (complete_keeps ..) ((held.job job current.1).complete ..)).decorate rfl ..
  | expire job now present => exact held.replace present ⟨rfl, rfl⟩ ((held.job job present).queueExpired now)
  | withdraw job attempt now timeout messages current =>
    exact (held.put current ⟨rfl, rfl, rfl⟩ ((held.job job current.1).requeued now timeout attempt)).decorate rfl ..
  | lapse job attempt now error messages current =>
    exact (held.put current (complete_keeps ..) ((held.job job current.1).complete ..)).decorate rfl ..
  | send item member =>
    obtain ⟨job, present⟩ : ∃ job, v.job = some job := by
      refine Option.ne_none_iff_exists'.mp fun none => ?_
      simp [(held.absent none).2.1] at member
    exact held.decorate present ..
  | finish messages finished =>
    refine ⟨fun none => ?_, held.job, held.generations, held.owned⟩
    obtain ⟨attempts, empty, rest⟩ := held.absent none
    rw [empty] at finished
    exact ⟨attempts, List.forall₂_nil_left_iff.mp finished, rest⟩

/-- A job keeps its providers and its place among them only grows; it stays in
a terminal status, and becomes 'sent' only by an acceptance. -/
structure Job.Follows (accepts : Job → Prop) (job job' : Job) : Prop where
  terminal : job.status.terminal = true → job'.status = job.status
  index : job.providerIndex ≤ job'.providerIndex
  providers : job'.providers = job.providers
  accepted : job.status ≠ .sent → job'.status = .sent → accepts job

theorem Job.Follows.refl (accepts : Job → Prop) (job : Job) : job.Follows accepts job :=
  ⟨fun _ => rfl, Nat.le_refl _, rfl, fun other same => absurd same other⟩

theorem Job.Follows.of_active {accepts : Job → Prop} {job job' : Job} (active : job.status.terminal = false)
    (index : job.providerIndex ≤ job'.providerIndex) (providers : job'.providers = job.providers)
    (accepted : job'.status = .sent → accepts job) : job.Follows accepts job' :=
  ⟨fun terminal => by simp [active] at terminal, index, providers, fun _ => accepted⟩

theorem not_terminal_of_active {job : Job} (active : job.status.active = true) :
    job.status.terminal = false := by
  cases same : job.status <;> simp_all [JobStatus.active, JobStatus.terminal]

theorem complete_follows {accepts : Job → Prop} {job : Job} (active : job.status.active = true) (now : Zeit)
    (outcome : Outcome) (error : Option String) (notSent : Bool) (attempt : Attempt)
    (accepting : outcome = .sent → accepts job) :
    job.Follows accepts (complete now outcome error notSent job attempt).1 := by
  have running := not_terminal_of_active active
  unfold complete
  split
  · exact .of_active running (Nat.le_succ _) rfl (by simp)
  · refine .of_active running (Nat.le_refl _) rfl fun sent => accepting ?_
    cases outcome <;> simp_all [Outcome.status]

theorem Lifecycle.follows (life : Lifecycle promise v v') {job : Job} (present : v.job = some job) :
    ∃ job', v'.job = some job' ∧ job.Follows promise.accepts job' := by
  have unique {other : Job} (found : v.job = some other) : other = job := by
    simpa [found] using present
  cases life with
  | stay => exact ⟨job, present, .refl _ _⟩
  | cancel => exact ⟨job, present, .refl _ _⟩
  | enqueue _ _ _ _ _ _ _ _ _ _ absent => simp [absent] at present
  | close old now messages found pending =>
    obtain rfl := unique found
    exact ⟨_, rfl, .of_active pending (Nat.le_refl _) rfl (by simp [closedLegacy])⟩
  | claim old now token worker found waiting =>
    obtain rfl := unique found
    exact ⟨_, rfl, .of_active (by simp [waiting, JobStatus.terminal]) (Nat.le_refl _) rfl (by simp [claimed])⟩
  | unselected old attempt now current held =>
    obtain rfl := unique current.1
    exact ⟨_, rfl, .of_active (by simp [held, JobStatus.terminal]) (Nat.le_refl _) rfl (by simp [notSelected])⟩
  | eus old attempt now index timeout token current held owned later =>
    obtain rfl := unique current.1
    exact ⟨_, rfl, .of_active (by simp [held, JobStatus.terminal]) later rfl (by simp [dispatchedEus])⟩
  | gateway old attempt now index row item current held later =>
    obtain rfl := unique current.1
    exact ⟨_, rfl, .of_active (by simp [held, JobStatus.terminal]) later rfl (by simp [dispatchedGateway])⟩
  | acknowledge old attempt now current waits =>
    obtain rfl := unique current.1
    exact ⟨_, rfl, .of_active (not_terminal_of_active (active_of_awaiting waits)) (Nat.le_refl _) rfl
      (by simp [acknowledged])⟩
  | grant old attempt now connection item current waits =>
    obtain rfl := unique current.1
    exact ⟨_, rfl, .of_active (not_terminal_of_active (active_of_awaiting waits)) (Nat.le_refl _) rfl
      (by simp [granted, acknowledged])⟩
  | attempted old now found =>
    obtain rfl := unique found
    exact ⟨_, rfl, fun _ => rfl, Nat.le_refl _, rfl, fun other same => absurd same other⟩
  | result old attempt now message current waits routed clear accepting =>
    obtain rfl := unique current.1
    exact ⟨_, rfl, complete_follows (active_of_awaiting waits) _ _ _ _ _ accepting⟩
  | eusResult old attempt now token outcome current active owned released accepting =>
    obtain rfl := unique current.1
    exact ⟨_, rfl, complete_follows active _ _ _ _ _ accepting⟩
  | expire old now found waiting =>
    obtain rfl := unique found
    exact ⟨_, rfl, .of_active (by simp [waiting, JobStatus.terminal]) (Nat.le_refl _) rfl (by simp [queueExpired])⟩
  | withdraw old attempt now timeout messages current active =>
    obtain rfl := unique current.1
    exact ⟨_, rfl, .of_active (not_terminal_of_active active) (Nat.le_refl _) rfl (by simp [requeued])⟩
  | lapse old attempt now error messages current active =>
    obtain rfl := unique current.1
    exact ⟨_, rfl, complete_follows active _ _ _ _ _ (by simp)⟩
  | send => exact ⟨job, present, .refl _ _⟩
  | finish => exact ⟨job, present, .refl _ _⟩

end Einsatzcockpit.Sms
