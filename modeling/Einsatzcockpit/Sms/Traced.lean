import Einsatzcockpit.Sms.Coherent

namespace Einsatzcockpit.Sms

/-- Nothing of the job can be under way: it waits, is only claimed, or has
failed. -/
def JobStatus.idle : JobStatus → Bool
  | queued | claimed | failed => true
  | _ => false

def View.Open (v : View) (generation : Nat) : Prop :=
  generation ∈ v.effects ∧ generation ∉ v.unsent

def GatewayMessage.SameRow (item other : GatewayMessage) : Prop :=
  item.id = other.id ∧ item.message = other.message ∧ item.orgId = other.orgId ∧
    item.gatewayKind = other.gatewayKind ∧ item.gatewayId = other.gatewayId ∧ item.jobKey = other.jobKey

def GatewayMessage.Started (item : GatewayMessage) : Prop :=
  item.state ≠ .queued ∧ item.state ≠ .expired

/-- What any delivery or cancellation leaves of the transport rows: no row is
queued anew, and none that was given to a socket is taken back. -/
structure Progressed (old new : List GatewayMessage) : Prop where
  from_old : ∀ item' ∈ new, ∃ item ∈ old, item'.SameRow item ∧ (item'.state = .queued → item.state = .queued)
  started : ∀ item ∈ old, item.Started → ∃ item' ∈ new, item'.SameRow item ∧ item'.Started

theorem Cancelled.progressed {old new : List GatewayMessage} (cancelled : Cancelled old new) :
    Progressed old new where
  from_old item' member := by
    obtain ⟨item, inside, rfl | ⟨queued, rfl⟩⟩ := Relational.forall₂_right cancelled member
    · exact ⟨item', inside, ⟨rfl, rfl, rfl, rfl, rfl, rfl⟩, id⟩
    · exact ⟨item, inside, ⟨rfl, rfl, rfl, rfl, rfl, rfl⟩, fun _ => queued⟩
  started item member started := by
    obtain ⟨item', inside, rfl | ⟨queued, -⟩⟩ := Relational.forall₂_left cancelled member
    · exact ⟨item', inside, ⟨rfl, rfl, rfl, rfl, rfl, rfl⟩, started⟩
    · exact absurd queued started.1

theorem Progressed.refl (rows : List GatewayMessage) : Progressed rows rows :=
  ⟨fun item member => ⟨item, member, ⟨rfl, rfl, rfl, rfl, rfl, rfl⟩, id⟩,
    fun item member started => ⟨item, member, ⟨rfl, rfl, rfl, rfl, rfl, rfl⟩, started⟩⟩

theorem Finished.progressed {old new : List GatewayMessage} (finished : Finished old new) :
    Progressed old new where
  from_old item' member := by
    obtain ⟨item, inside, rfl | ⟨sending, state, error, final, rfl⟩⟩ := Relational.forall₂_right finished member
    · exact ⟨item', inside, ⟨rfl, rfl, rfl, rfl, rfl, rfl⟩, id⟩
    · refine ⟨item, inside, ⟨rfl, rfl, rfl, rfl, rfl, rfl⟩, fun queued => ?_⟩
      rcases final with rfl | rfl <;> simp at queued
  started item member started := by
    obtain ⟨item', inside, rfl | ⟨sending, state, error, final, rfl⟩⟩ := Relational.forall₂_left finished member
    · exact ⟨item', inside, ⟨rfl, rfl, rfl, rfl, rfl, rfl⟩, started⟩
    · refine ⟨_, inside, ⟨rfl, rfl, rfl, rfl, rfl, rfl⟩, ?_⟩
      rcases final with rfl | rfl <;> simp [GatewayMessage.Started]

theorem sending_progressed (id : String) (old : List GatewayMessage) :
    Progressed old (Relational.update (fun row => row.id == id) (fun row => { row with state := .sending }) old)
    where
  from_old item' member := by
    obtain ⟨item, inside, rfl⟩ := Relational.mem_update.mp member
    refine ⟨item, inside, ?_⟩
    split <;> simp [GatewayMessage.SameRow]
  started item member started := by
    refine ⟨_, Relational.mem_update.mpr ⟨item, member, rfl⟩, ?_⟩
    split
    · simp [GatewayMessage.SameRow, GatewayMessage.Started]
    · exact ⟨⟨rfl, rfl, rfl, rfl, rfl, rfl⟩, started⟩

/-- Where the effects of a job's generations can be, in a history in which
every acknowledgement names its job canonically. -/
structure View.Traced (v : View) (job : Job) : Prop where
  effects : ∀ generation, v.Open generation → generation = job.generation ∧ job.status.idle = false
  queued : ∀ item ∈ v.messages, effectful item = true → item.state = .queued →
    item.message.generation ∈ v.unsent ∨
      (item.message.generation = job.generation ∧ job.status.idle = false)
  carried : awaiting job = true → v.Open job.generation → job.provider = some .eus ∨
    ∃ item ∈ v.messages, effectful item = true ∧ item.message.generation = job.generation ∧ item.Started
  bound : ∀ item ∈ v.messages, item.message.generation ≤ job.generation
  unspoken : job.status = .claimed ∨ (awaiting job = true ∧ job.provider = some .eus) →
    ∀ item ∈ v.messages, item.message.generation ≠ job.generation
  sends : awaiting job = true → ∀ item ∈ v.messages, item.message.type = .send →
    item.message.generation = job.generation → job.protocol < 2 ∧
      ∀ attempt ∈ v.attempts, attempt.generation = job.generation → attempt.routeId = some item.id
  commits : awaiting job = true → ∀ item ∈ v.messages, item.message.type = .commit →
    item.message.generation = job.generation → 2 ≤ job.protocol ∧ item.commits job ∧
      item.jobKey = some (wireId job.id job.generation)
  released : job.status.active = true → ∀ token ∈ v.released, job.claimToken = some token →
    job.provider = some .eus ∧ job.status = .dispatched

theorem SameRow.effectful {item other : GatewayMessage} (same : item.SameRow other) :
    effectful item = effectful other := by
  simp [Sms.effectful, same.2.1]

namespace View.Traced

variable {v : View} {job : Job} (traced : v.Traced job)
include traced

theorem progress {messages : List GatewayMessage} (progressed : Progressed v.messages messages) :
    { v with messages := messages }.Traced job where
  effects := traced.effects
  queued item' member isEffectful queued := by
    obtain ⟨item, inside, same, was⟩ := progressed.from_old item' member
    rw [same.2.1]
    exact traced.queued item inside (SameRow.effectful same ▸ isEffectful) (was queued)
  carried waits isOpen := by
    rcases traced.carried waits isOpen with eus | ⟨item, inside, isEffectful, at_, started⟩
    · exact Or.inl eus
    · obtain ⟨item', member, same, started'⟩ := progressed.started item inside started
      exact Or.inr ⟨item', member, SameRow.effectful same ▸ isEffectful, same.2.1 ▸ at_, started'⟩
  bound item' member := by
    obtain ⟨item, inside, same, -⟩ := progressed.from_old item' member
    exact same.2.1 ▸ traced.bound item inside
  unspoken when_ item' member := by
    obtain ⟨item, inside, same, -⟩ := progressed.from_old item' member
    exact same.2.1 ▸ traced.unspoken when_ item inside
  sends waits item' member isSend at_ := by
    obtain ⟨item, inside, same, -⟩ := progressed.from_old item' member
    rw [same.2.1] at isSend at_
    rw [same.1]
    exact traced.sends waits item inside isSend at_
  commits waits item' member isCommit at_ := by
    obtain ⟨item, inside, same, -⟩ := progressed.from_old item' member
    rw [same.2.1] at isCommit at_
    obtain ⟨two, commits, key⟩ := traced.commits waits item inside isCommit at_
    obtain ⟨-, message, org, kind, gateway, jobKey⟩ := same
    refine ⟨two, ?_, jobKey.trans key⟩
    simpa only [GatewayMessage.commits, message, org, kind, gateway] using commits
  released := traced.released

theorem nothing_open (idle : job.status.idle = true) (generation : Nat) : ¬ v.Open generation := by
  intro isOpen
  have busy := (traced.effects generation isOpen).2
  simp [idle] at busy

end View.Traced

theorem View.Traced.of_inactive {v : View} {job : Job} (inactive : job.status.active = false)
    (effects : ∀ generation, v.Open generation → generation = job.generation ∧ job.status.idle = false)
    (queued : ∀ item ∈ v.messages, effectful item = true → item.state = .queued →
      item.message.generation ∈ v.unsent ∨
        (item.message.generation = job.generation ∧ job.status.idle = false))
    (bound : ∀ item ∈ v.messages, item.message.generation ≤ job.generation) : v.Traced job := by
  have quiet : awaiting job = false := by
    by_contra waits
    simp [active_of_awaiting (by simpa using waits)] at inactive
  have unclaimed : job.status ≠ .claimed := by
    intro held
    simp [held, JobStatus.active] at inactive
  exact ⟨effects, queued, by simp [quiet], bound, by simp [quiet, unclaimed], by simp [quiet],
    by simp [quiet], by simp [inactive]⟩

theorem put_attempt {v : View} {written : Job × Attempt} {row : Attempt}
    (member : row ∈ (v.put written).attempts) (same : row.generation = written.2.generation) :
    row = written.2 := by
  obtain ⟨old, -, rfl⟩ := Relational.mem_update.mp member
  by_cases hit : old.generation = written.2.generation
  · simp [hit]
  · simp [hit] at same

theorem awaiting_of_active {job : Job} (active : job.status.active = true) (unclaimed : job.status ≠ .claimed) :
    awaiting job = true := by
  cases same : job.status <;> simp_all [awaiting, JobStatus.active]

theorem complete_inactive (now : Zeit) (outcome : Outcome) (error : Option String) (notSent : Bool) (job : Job)
    (attempt : Attempt) : (complete now outcome error notSent job attempt).1.status.active = false := by
  unfold complete
  split
  · rfl
  · cases outcome <;> rfl

theorem complete_busy (now : Zeit) {outcome : Outcome} (error : Option String) (notSent : Bool) (job : Job)
    (attempt : Attempt) (other : outcome ≠ .failed) :
    (complete now outcome error notSent job attempt).1.status.idle = false := by
  have stays : fallsBack job outcome notSent = false := by simp [fallsBack, other]
  cases outcome <;> simp_all [complete, Outcome.status, JobStatus.idle]

theorem effectful_cases {item : GatewayMessage} (isEffectful : effectful item = true) :
    item.message.type = .send ∨ item.message.type = .commit := by
  simpa [effectful] using isEffectful

namespace View.Traced

variable {v v' : View} {job : Job} (traced : v.Traced job)
include traced

theorem rest {job' : Job} (same : job'.generation = job.generation) (inactive : job'.status.active = false)
    (effects : v'.effects = v.effects) (progressed : Progressed v.messages v'.messages)
    (kept : ∀ generation ∈ v.unsent, generation ∈ v'.unsent)
    (settled : job'.status.idle = false ∨ job.generation ∈ v'.unsent ∨ job.status.idle = true ∨
      (¬ v.Open job.generation ∧ ∀ item ∈ v'.messages, effectful item = true →
        item.message.generation = job.generation → item.state ≠ .queued)) : v'.Traced job' := by
  refine .of_inactive inactive (fun generation isOpen => ?_) (fun item' member isEffectful queued => ?_)
    fun item' member => ?_
  · have wasOpen : v.Open generation := ⟨effects ▸ isOpen.1, fun reported => isOpen.2 (kept _ reported)⟩
    obtain ⟨rfl, busy⟩ := traced.effects generation wasOpen
    refine ⟨same.symm, ?_⟩
    rcases settled with visible | reported | idle | ⟨closed, -⟩
    · exact visible
    · exact absurd reported isOpen.2
    · simp [idle] at busy
    · exact absurd wasOpen closed
  · obtain ⟨item, inside, row, was⟩ := progressed.from_old item' member
    have old := traced.queued item inside (SameRow.effectful row ▸ isEffectful) (was queued)
    rw [← row.2.1] at old
    rcases old with reported | ⟨at_, busy⟩
    · exact Or.inl (kept _ reported)
    rcases settled with visible | reported | idle | ⟨-, none⟩
    · exact Or.inr ⟨at_.trans same.symm, visible⟩
    · exact Or.inl (at_ ▸ reported)
    · simp [idle] at busy
    · exact absurd queued (none item' member isEffectful at_)
  · obtain ⟨item, inside, row, -⟩ := progressed.from_old item' member
    rw [row.2.1, same]
    exact traced.bound item inside

theorem withdrawn {attempt : Attempt} {messages : List GatewayMessage} (coherent : job.Coherent)
    (current : v.Current job attempt) (active : job.status.active = true)
    (progressed : Progressed v.messages messages)
    (elsewhere : job.provider ≠ some .gateway → job.status = .claimed ∨ job.mayHaveSent = false)
    (withdrawn : job.provider = some .gateway → Withdrawn job attempt v.messages messages) :
    job.status.idle = true ∨ (¬ v.Open job.generation ∧ ∀ item ∈ messages, effectful item = true →
      item.message.generation = job.generation → item.state ≠ .queued) := by
  by_cases claimed : job.status = .claimed
  · exact Or.inl (by simp [claimed, JobStatus.idle])
  have waits := awaiting_of_active active claimed
  rcases coherent.routed waits with gateway | ⟨eus, may, -⟩
  swap
  · rcases elsewhere (by simp [eus]) with held | never
    · exact absurd held claimed
    · simp [may] at never
  obtain ⟨early, late⟩ := withdrawn gateway
  refine Or.inr ⟨fun isOpen => ?_, fun item' member isEffectful at_ => ?_⟩
  · rcases traced.carried waits isOpen with eus | ⟨item, inside, isEffectful, at_, started⟩
    · simp [gateway] at eus
    rcases effectful_cases isEffectful with send | commit
    · obtain ⟨one, routes⟩ := traced.sends waits item inside send at_
      exact started.1 ((early one).1 item inside (routes attempt current.2.1 current.2.2))
    · obtain ⟨two, commits, key⟩ := traced.commits waits item inside commit at_
      exact started.1 ((late two).1 item inside commits key)
  · obtain ⟨item, inside, row, -⟩ := progressed.from_old item' member
    have expired : item'.state = .expired := by
      rcases effectful_cases isEffectful with send | commit
      · obtain ⟨one, routes⟩ := traced.sends waits item inside (row.2.1 ▸ send) (row.2.1 ▸ at_)
        exact (early one).2 item' member (row.1 ▸ routes attempt current.2.1 current.2.2)
      · obtain ⟨two, commits, key⟩ := traced.commits waits item inside (row.2.1 ▸ commit) (row.2.1 ▸ at_)
        obtain ⟨-, message, org, kind, gateway, jobKey⟩ := row
        refine (late two).2 item' member ?_ (jobKey.trans key)
        simpa only [GatewayMessage.commits, message, org, kind, gateway] using commits
    simp [expired]

theorem completed (now : Zeit) (outcome : Outcome) (error : Option String) (notSent : Bool) (attempt : Attempt)
    (effects : v'.effects = v.effects) (progressed : Progressed v.messages v'.messages)
    (kept : ∀ generation ∈ v.unsent, generation ∈ v'.unsent)
    (reported : outcome = .failed → job.generation ∈ v'.unsent) :
    v'.Traced (complete now outcome error notSent job attempt).1 := by
  refine traced.rest (complete_generation ..) (complete_inactive ..) effects progressed kept ?_
  by_cases failed : outcome = .failed
  · exact Or.inr (Or.inl (reported failed))
  · exact Or.inl (complete_busy now error notSent job attempt failed)

theorem claimed (waiting : job.status = .queued) (now : Zeit) {token : String} (worker : String)
    (fresh : token ∉ v.released) (attempts : List Attempt) :
    { v with job := some (claimed now token worker job), attempts := attempts : View }.Traced
      (Sms.claimed now token worker job) where
  effects generation isOpen := absurd isOpen (traced.nothing_open (by simp [waiting, JobStatus.idle]) _)
  queued item member isEffectful queued := by
    refine Or.inl ((traced.queued item member isEffectful queued).resolve_right fun busy => ?_)
    simp [waiting, JobStatus.idle] at busy
  carried waits := by simp [awaiting, Sms.claimed] at waits
  bound item member := Nat.le_succ_of_le (traced.bound item member)
  unspoken _ item member at_ := by
    have below := traced.bound item member
    simp only [Sms.claimed] at at_
    omega
  sends waits := by simp [awaiting, Sms.claimed] at waits
  commits waits := by simp [awaiting, Sms.claimed] at waits
  released _ token' member owned := by
    obtain rfl : token = token' := by simpa [Sms.claimed] using owned
    exact absurd member fresh

section

variable (held : job.status = .claimed) (attempt : Attempt) (now : Zeit) (index : Nat)
include held attempt now index

theorem eus (timeout : Int)
    (token : String) :
    { v.put (dispatchedEus now index timeout job attempt) with
      released := token :: v.released
      effects := v.effects ++ [job.generation] }.Traced (dispatchedEus now index timeout job attempt).1 where
  effects generation isOpen := by
    obtain ⟨effect, unreported⟩ := isOpen
    rcases List.mem_append.mp effect with old | new
    · exact absurd ⟨old, unreported⟩ (traced.nothing_open (by simp [held, JobStatus.idle]) _)
    · exact ⟨by simpa [dispatchedEus] using new, by simp [dispatchedEus, JobStatus.idle]⟩
  queued item member isEffectful queued := by
    refine Or.inl ((traced.queued item member isEffectful queued).resolve_right fun busy => ?_)
    simp [held, JobStatus.idle] at busy
  carried _ _ := Or.inl rfl
  bound := traced.bound
  unspoken _ item member := traced.unspoken (Or.inl held) item member
  sends _ item member _ at_ := absurd at_ (traced.unspoken (Or.inl held) item member)
  commits _ item member _ at_ := absurd at_ (traced.unspoken (Or.inl held) item member)
  released _ _ _ _ := ⟨rfl, rfl⟩

theorem gateway
    (row : SmsGatewayToken) (item : GatewayMessage)
    (spoken : item.message = wireMessage (dispatchedGateway now index row item.id job attempt).1)
    (at_ : attempt.generation = job.generation) :
    { v.put (dispatchedGateway now index row item.id job attempt) with
      messages := v.messages ++ [item] }.Traced (dispatchedGateway now index row item.id job attempt).1 where
  effects generation isOpen := absurd isOpen (traced.nothing_open (by simp [held, JobStatus.idle]) _)
  queued old member isEffectful queued := by
    rcases List.mem_append.mp member with inside | new
    · refine Or.inl ((traced.queued old inside isEffectful queued).resolve_right fun busy => ?_)
      simp [held, JobStatus.idle] at busy
    · obtain rfl : old = item := by simpa using new
      exact Or.inr ⟨by simp [spoken, wireMessage], by simp [dispatchedGateway, JobStatus.idle]⟩
  carried _ isOpen := absurd isOpen (traced.nothing_open (by simp [held, JobStatus.idle]) _)
  bound old member := by
    rcases List.mem_append.mp member with inside | new
    · exact traced.bound old inside
    · obtain rfl : old = item := by simpa using new
      simp [spoken, wireMessage]
  unspoken when_ := by simp [dispatchedGateway] at when_
  sends _ old member isSend same := by
    rcases List.mem_append.mp member with inside | new
    · exact absurd same (traced.unspoken (Or.inl held) old inside)
    · obtain rfl : old = item := by simpa using new
      refine ⟨?_, fun written inside here => ?_⟩
      · by_contra two
        simp [spoken, wireMessage, Nat.le_of_not_lt two] at isSend
      · rw [put_attempt inside (here.trans at_.symm)]
        simp [dispatchedGateway]
  commits _ old member isCommit same := by
    rcases List.mem_append.mp member with inside | new
    · exact absurd same (traced.unspoken (Or.inl held) old inside)
    · obtain rfl : old = item := by simpa using new
      simp only [spoken, wireMessage] at isCommit
      split at isCommit <;> simp at isCommit
  released _ token member owned := by
    have eus := (traced.released (by simp [held, JobStatus.active]) token member owned).2
    simp [held] at eus

end

theorem acknowledged {attempt : Attempt} (current : v.Current job attempt) (now : Zeit)
    (waits : awaiting job = true) (routed : job.provider = some .gateway) :
    (v.put (Sms.acknowledged now job attempt)).Traced (Sms.acknowledged now job attempt).1 where
  effects generation isOpen := ⟨(traced.effects generation isOpen).1, by simp [Sms.acknowledged, JobStatus.idle]⟩
  queued item member isEffectful queued :=
    (traced.queued item member isEffectful queued).imp_right fun busy =>
      ⟨busy.1, by simp [Sms.acknowledged, JobStatus.idle]⟩
  carried _ isOpen := traced.carried waits isOpen
  bound := traced.bound
  unspoken when_ := by simp [Sms.acknowledged, routed] at when_
  sends _ item member isSend at_ := by
    obtain ⟨one, routes⟩ := traced.sends waits item member isSend at_
    refine ⟨one, fun written inside here => ?_⟩
    rw [put_attempt inside (here.trans current.2.2.symm)]
    exact routes attempt current.2.1 current.2.2
  commits _ := traced.commits waits
  released _ token member owned := by
    have eus := (traced.released (active_of_awaiting waits) token member owned).1
    simp [routed] at eus

theorem granted {attempt : Attempt} (current : v.Current job attempt) (now : Zeit) (connection : Connection)
    (item : GatewayMessage) (waits : awaiting job = true) (routed : job.provider = some .gateway)
    (two : 2 ≤ job.protocol) (commits : item.commits job)
    (named : item.jobKey = some (wireId job.id job.generation)) :
    { v.put (Sms.granted now connection item.id job attempt) with
      messages := v.messages ++ [item] }.Traced (Sms.granted now connection item.id job attempt).1 := by
  have before_ := traced.acknowledged current now waits routed
  refine ⟨before_.effects, fun old member => ?_, fun _ isOpen => ?_, fun old member => ?_,
    fun when_ => by simp [Sms.granted, Sms.acknowledged, routed] at when_,
    fun _ old member isSend at_ => ?_, fun _ old member isCommit at_ => ?_, ?_⟩
  · rcases List.mem_append.mp member with inside | new
    · exact before_.queued old inside
    · obtain rfl : old = item := by simpa using new
      exact fun _ _ => Or.inr ⟨commits.2.2.2.2.2, by simp [Sms.granted, Sms.acknowledged, JobStatus.idle]⟩
  · rcases traced.carried waits isOpen with eus | ⟨old, inside, carries⟩
    · exact Or.inl eus
    · exact Or.inr ⟨old, List.mem_append_left _ inside, carries⟩
  · rcases List.mem_append.mp member with inside | new
    · exact traced.bound old inside
    · obtain rfl : old = item := by simpa using new
      exact commits.2.2.2.2.2.le
  · rcases List.mem_append.mp member with inside | new
    · obtain ⟨one, -⟩ := traced.sends waits old inside isSend at_
      omega
    · obtain rfl : old = item := by simpa using new
      simp [commits.1] at isSend
  · rcases List.mem_append.mp member with inside | new
    · exact traced.commits waits old inside isCommit at_
    · obtain rfl : old = item := by simpa using new
      exact ⟨two, commits, named⟩
  · intro _ token member owned
    have eus := (traced.released (active_of_awaiting waits) token member owned).1
    simp [routed] at eus

theorem sent {item : GatewayMessage} (member : item ∈ v.messages) (queued : item.state = .queued) :
    { v with
      messages := Relational.update (fun row => row.id == item.id)
        (fun row => { row with state := .sending }) v.messages
      effects := v.effects ++ if effectful item then [item.message.generation] else [] }.Traced job := by
  have moved := traced.progress (sending_progressed item.id v.messages)
  refine ⟨fun generation isOpen => ?_, moved.queued, fun waits isOpen => ?_, moved.bound, moved.unspoken,
    moved.sends, moved.commits, moved.released⟩
  · obtain ⟨effect, unreported⟩ := isOpen
    rcases List.mem_append.mp effect with old | new
    · exact traced.effects generation ⟨old, unreported⟩
    · split at new
      · next isEffectful =>
        obtain rfl : generation = item.message.generation := by simpa using new
        exact (traced.queued item member isEffectful queued).resolve_left unreported
      · simp at new
  · obtain ⟨effect, unreported⟩ := isOpen
    rcases List.mem_append.mp effect with old | new
    · exact moved.carried waits ⟨old, unreported⟩
    · split at new
      · next isEffectful =>
        refine Or.inr ⟨_, Relational.mem_update.mpr ⟨item, member, rfl⟩, ?_⟩
        simp only [beq_self_eq_true, if_true, GatewayMessage.Started]
        exact ⟨isEffectful, by simpa [eq_comm] using new, by simp, by simp⟩
      · simp at new

end View.Traced

variable {promise : Promise} {v v' : View}

theorem Lifecycle.traced (life : Lifecycle promise v v') (canonical : promise.canonical) (coherent : v.Coherent)
    (held : ∀ job, v.job = some job → v.Traced job) : ∀ job, v'.job = some job → v'.Traced job := by
  cases life with
  | stay => exact held
  | cancel messages cancelled => exact fun job present => (held job present).progress cancelled.progressed
  | finish messages finished => exact fun job present => (held job present).progress finished.progressed
  | enqueue now uuid orgId jobKey payloadHash phone text providers preferred legacy absent =>
    obtain ⟨-, messages, -, effects, -⟩ := coherent.absent absent
    rintro job ⟨⟩
    refine .of_inactive ?_ (by simp [View.Open, effects]) (by simp [messages]) (by simp [messages])
    cases legacy <;> simp [newJob, JobStatus.active]
  | close job now messages present pending cancelled =>
    rintro new ⟨⟩
    exact (held job present).rest rfl (by simp [closedLegacy, JobStatus.active]) rfl cancelled.progressed
      (fun _ reported => reported) (Or.inl (by simp [closedLegacy, JobStatus.idle]))
  | claim job now token worker present waiting fresh =>
    rintro new ⟨⟩
    exact (held job present).claimed waiting now worker fresh _
  | unselected job attempt now current claimed =>
    rintro new ⟨⟩
    exact (held job current.1).rest rfl (by simp [notSelected, JobStatus.active]) rfl
      (Progressed.refl _) (fun _ reported => reported)
      (Or.inr (Or.inr (Or.inl (by simp [claimed, JobStatus.idle]))))
  | eus job attempt now index timeout token current claimed =>
    rintro new ⟨⟩
    exact (held job current.1).eus claimed attempt now index timeout token
  | gateway job attempt now index row item current claimed later inside spoken =>
    rintro new ⟨⟩
    exact (held job current.1).gateway claimed attempt now index row item spoken current.2.2
  | acknowledge job attempt now current waits routed =>
    rintro new ⟨⟩
    exact (held job current.1).acknowledged current now waits routed
  | grant job attempt now connection item current waits routed two commits queued fresh named =>
    rintro new ⟨⟩
    exact (held job current.1).granted current now connection item waits routed two commits (named canonical)
  | attempted job now present =>
    rintro new ⟨⟩
    obtain ⟨effects, queued, carried, bound, unspoken, sends, commits, released⟩ := held job present
    exact ⟨effects, queued, carried, bound, unspoken, sends, commits, released⟩
  | result job attempt now message current waits =>
    rintro new ⟨⟩
    exact (held job current.1).completed _ _ _ _ _ rfl (Progressed.refl _)
      (fun _ reported => List.mem_append_left _ reported) fun failed => by simp [failed]
  | eusResult job attempt now token outcome current active =>
    rintro new ⟨⟩
    refine (held job current.1).completed _ _ _ _ _ rfl (Progressed.refl _)
      (fun _ reported => List.mem_append_left _ reported) fun failed => ?_
    have safe : outcome.result.2.2 = true := by
      cases outcome with
      | rejected safe => cases safe <;> simp_all [EusOutcome.result]
      | _ => simp_all [EusOutcome.result]
    simp [safe]
  | expire job now present waiting =>
    rintro new ⟨⟩
    exact (held job present).rest rfl (by simp [queueExpired, JobStatus.active]) rfl
      (Progressed.refl _) (fun _ reported => reported)
      (Or.inr (Or.inr (Or.inl (by simp [waiting, JobStatus.idle]))))
  | withdraw job attempt now timeout messages current active cancelled elsewhere withdrawn =>
    rintro new ⟨⟩
    have traced := held job current.1
    exact traced.rest rfl (by simp [requeued, JobStatus.active]) rfl cancelled.progressed
      (fun _ reported => reported) (Or.inr (Or.inr (traced.withdrawn (coherent.job job current.1) current active
        cancelled.progressed elsewhere withdrawn)))
  | lapse job attempt now error messages current active cancelled =>
    rintro new ⟨⟩
    exact (held job current.1).completed _ _ _ _ _ rfl cancelled.progressed (fun _ reported => reported) (by simp)
  | send item member queued =>
    exact fun job present => (held job present).sent member queued

end Einsatzcockpit.Sms
