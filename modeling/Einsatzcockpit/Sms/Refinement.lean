import Einsatzcockpit.Sms.View

namespace Einsatzcockpit.Sms

/-- An acknowledgement that releases a send names its job by the wire id that
the message to the phone carried. -/
def NamesCanonically (db : Db) (clocks : Clocks) (connection : Connection) (tokenHash : String)
    (message : Meldung) (reconcile : Bool) : Prop :=
  ∀ target, eventTarget clocks connection tokenHash message db = .ok target →
    kindOf message target.job = .ack → grants connection reconcile target.job = true →
      target.wire = wireId target.jobId target.generation

/-- No report of 'not sent' that makes the job fall back to its next provider
leaves a released send behind that is still queued. -/
def LeavesNoRelease (db : Db) (clocks : Clocks) (connection : Connection) (tokenHash : String)
    (message : Meldung) : Prop :=
  ∀ target, unsentReport clocks connection tokenHash message db = some target →
    fallsBack target.job .failed true = true → ∀ item ∈ db.messagesOf target.jobId,
      item.message.type = .commit → item.message.generation = target.generation → item.state ≠ .queued

/-- The action reports that the provider accepted the job's current
generation. -/
def Accepts : Action → Job → Prop
  | .event _ _ _ _ message _, job => parseWire message = some (job.id, job.generation) ∧
      message.get "type" = some (.text "sms.result") ∧ acceptedReport job message = true
  | .eusResult _ _ jobId token outcome, job =>
      outcome = .accepted ∧ job.id = jobId ∧ job.claimToken = some token
  | _, _ => False

def AcksCanonically (w : World) : Action → Prop
  | .event clocks _ connection tokenHash message reconcile =>
    NamesCanonically w.db clocks connection tokenHash message reconcile
  | _ => True

def FallsBackSettled (w : World) : Action → Prop
  | .event clocks _ connection tokenHash message _ => LeavesNoRelease w.db clocks connection tokenHash message
  | _ => True

def promise (w : World) (action : Action) : Promise where
  canonical := AcksCanonically w action
  settled := FallsBackSettled w action
  accepts := Accepts action

/-- The primary keys are unique, and the tokens of released EUS calls were
drawn before. -/
structure World.Sound (w : World) : Prop where
  messageIds : (w.db.messages.map (·.id)).Nodup
  jobIds : (w.db.jobs.map (·.id)).Nodup
  issued : ∀ entry ∈ w.released, entry.2 ∈ w.tokens

variable {db : Db} {job : Job} {jobId : String}

theorem Db.job?_of_mem (ids : (db.jobs.map (·.id)).Nodup) (member : job ∈ db.jobs) :
    db.job? job.id = some job := by
  have some : (db.job? job.id).isSome := by simpa [Db.job?] using ⟨job, member, rfl⟩
  obtain ⟨found, isFound⟩ := Option.isSome_iff_exists.mp some
  have same := List.inj_on_of_nodup_map ids (List.mem_of_find?_eq_some isFound) member (Db.job?_id isFound)
  exact same ▸ isFound

theorem eventTarget_spec {clocks : Clocks} {connection : Connection} {tokenHash : String} {message : Meldung} {target : Target} (accepted : eventTarget clocks connection tokenHash message db = .ok target) :
    parseWire message = some (target.jobId, target.generation) ∧
      eventJob db connection target.jobId target.generation = some target.job ∧
      target.job.status.terminal = false ∧
      db.attempt? connection.orgId target.jobId target.generation = some target.attempt := by
  unfold eventTarget at accepted
  split at accepted
  · next jobId generation wire parsed isText =>
    split at accepted
    · simp at accepted
    split at accepted
    · simp at accepted
    next job found =>
    split at accepted
    · simp at accepted
    next running =>
    split at accepted
    · simp at accepted
    next attempt tried =>
    obtain rfl := Except.ok.inj accepted
    exact ⟨parsed, found, by simpa using running, tried⟩
  · simp at accepted

theorem eventJob_spec {connection : Connection} {generation : Nat}
    (found : eventJob db connection jobId generation = some job) :
    db.job? jobId = some job ∧ job.orgId = connection.orgId ∧ job.generation = generation ∧
      job.gatewayId = some connection.gatewayId ∧ job.provider = some .gateway := by
  obtain ⟨present, guard⟩ := Option.filter_eq_some_iff.mp found
  simp only [Bool.and_eq_true, beq_iff_eq] at guard
  exact ⟨present, guard.1.1.1, guard.1.1.2, guard.1.2, guard.2⟩

theorem eusTarget_spec {orgId : Nat} {token : String} {attempt : Attempt}
    (found : eusTarget orgId jobId token db = some (job, attempt)) :
    db.job? jobId = some job ∧ job.claimToken = some token ∧ job.status.active = true ∧
      db.attempt? orgId jobId job.generation = some attempt := by
  unfold eusTarget at found
  split at found
  · simp at found
  · next job' isFound =>
    obtain ⟨present, guard⟩ := Option.filter_eq_some_iff.mp isFound
    simp only [Bool.and_eq_true, beq_iff_eq] at guard
    obtain ⟨attempt', tried, same⟩ := Option.map_eq_some_iff.mp found
    obtain ⟨rfl, rfl⟩ := Prod.mk.inj same
    exact ⟨present, guard.1.2, guard.2, tried⟩

theorem current_of_found (w : World) {orgId : Nat} {attempt : Attempt}
    (present : w.db.job? jobId = some job)
    (tried : w.db.attempt? orgId jobId job.generation = some attempt) : (w.view jobId).Current job attempt := by
  obtain ⟨member, at_, -⟩ := Db.attempt?_spec tried
  exact ⟨present, member, at_⟩

variable {sha256 : String → String} {w : World} (id : String)

theorem enqueue_refines (now finished : Zeit) (uuid : String) (orgId : Nat) (jobKey phone text : String)
    (providers : List Provider) (preferred recipientId : Option Nat) (legacy : Bool) (p : Promise)
    (sound : w.Sound) : Lifecycle p (w.view id) ((step sha256 w
      (.enqueue now finished uuid orgId jobKey phone text providers preferred recipientId legacy)).view id) := by
  simp only [step]
  split
  · exact .stay _
  next jobId db done =>
  rcases enqueueIn_cases done with ⟨hash, free, jobs, attempts, messages⟩ |
    ⟨job, member, pending, jobs, attempts, messages⟩ | ⟨jobs, attempts, messages⟩
  · by_cases same : uuid = id
    · subst same
      have absent : w.db.job? uuid = none := by simpa [Db.job?] using free
      have view : { w with db := db : World }.view uuid = { w.view uuid with
          job := some (newJob now uuid orgId jobKey hash phone text providers preferred legacy) } := by
        simp only [Db.job?] at absent
        simp [World.view, Db.job?, Db.attemptsOf, Db.messagesOf, jobs, attempts, messages, List.find?_append, absent,
          newJob]
      rw [view]
      exact .enqueue _ _ _ _ _ _ _ _ _ _ _ absent
    · have view : { w with db := db : World }.view id = w.view id := by
        simp [World.view, Db.job?, Db.attemptsOf, Db.messagesOf, jobs, attempts, messages, List.find?_append,
          newJob, same]
      rw [view]
      exact .stay _
  · have present := Db.job?_of_mem sound.jobIds member
    have closed : { w with db := db : World }.view id =
        { w with db := closeLegacy finished job w.db : World }.view id := by
      simp only [World.view, Db.job?, Db.attemptsOf, Db.messagesOf, jobs, attempts, messages]
    obtain ⟨rows, cancelled, view⟩ := view_cancelsTo w (closeLegacy_cancelsTo finished job w.db) id
    rw [closed, view]
    have owned : (closedLegacy finished job).id = job.id := rfl
    by_cases same : job.id = id
    · subst same
      rw [view_setJob w w.db _ (by rw [present]; rfl) owned]
      exact .close _ job finished rows present pending cancelled
    · rw [view_setJob_other w w.db _ (Ne.symm same) owned]
      exact .cancel _ rows cancelled
  · have view : { w with db := db : World }.view id = w.view id := by
      simp only [World.view, Db.job?, Db.attemptsOf, Db.messagesOf, jobs, attempts, messages]
    rw [view]
    exact .stay _

theorem claim_refines (now : Zeit) (token worker : String) (orgId : Nat) (jobId : String) (p : Promise)
    (sound : w.Sound) :
    Lifecycle p (w.view id) ((step sha256 w (.claim now token worker orgId jobId)).view id) := by
  simp only [step]
  split
  · exact .stay _
  next drawn =>
  have unreleased : token ∉ (w.view id).released := by
    intro member
    obtain ⟨entry, inside, same⟩ := List.mem_filterMap.mp member
    dsimp only at same
    split at same
    · exact drawn (Option.some.inj same ▸ sound.issued entry inside)
    · simp at same
  cases found : (w.db.job? jobId).filter fun job => job.orgId == orgId && job.status == .queued &&
      job.nextAttemptAt ≤ now && now < job.expiresAt with
  | none =>
    simp only [claim, found]
    exact .stay _
  | some job =>
    obtain ⟨present, guard⟩ := Option.filter_eq_some_iff.mp found
    simp only [Bool.and_eq_true, beq_iff_eq] at guard
    have loaded := Db.job?_id present
    have owner : (claimed now token worker job).id = jobId := loaded
    simp only [claim, found]
    split
    · exact .stay _
    by_cases same : jobId = id
    · subst same
      have jobs : (w.db.setJob (claimed now token worker job)).job? jobId =
          some (claimed now token worker job) := by
        rw [Db.job?_setJob, if_pos owner.symm, present]
        rfl
      have view : { w with
            db := { w.db.setJob (claimed now token worker job) with
              attempts := w.db.attempts ++ [newAttempt now (claimed now token worker job)] }
            tokens := token :: w.tokens : World }.view jobId =
          { w.view jobId with
            job := some (claimed now token worker job)
            attempts := (w.view jobId).attempts ++ [newAttempt now (claimed now token worker job)] } := by
        simp only [World.view, Db.job?, Db.attemptsOf, Db.messagesOf, List.filter_append] at jobs ⊢
        rw [jobs]
        simp [newAttempt, owner, Db.setJob]
      rw [view]
      exact .claim _ job now token worker present guard.1.1.2 unreleased
    · have jobs : (w.db.setJob (claimed now token worker job)).job? id = w.db.job? id := by
        rw [Db.job?_setJob, if_neg fun here => same (owner.symm.trans here.symm)]
      have view : { w with
            db := { w.db.setJob (claimed now token worker job) with
              attempts := w.db.attempts ++ [newAttempt now (claimed now token worker job)] }
            tokens := token :: w.tokens : World }.view id = w.view id := by
        simp only [World.view, Db.job?, Db.attemptsOf, Db.messagesOf, List.filter_append] at jobs ⊢
        rw [jobs]
        simp [newAttempt, owner, Db.setJob, same]
      rw [view]
      exact .stay _

theorem prepare_refines (clocks : Clocks) (itemId : String) (orgId : Nat) (jobId token : String)
    (eusAvailable : Bool) (eusTimeout : Int) (p : Promise) :
    Lifecycle p (w.view id)
      ((step sha256 w (.prepare clocks itemId orgId jobId token eusAvailable eusTimeout)).view id) := by
  simp only [step]
  split
  · exact .stay _
  rcases prepare_cases clocks itemId orgId jobId token eusAvailable eusTimeout w.db with
    nothing | ⟨job, attempt, present, org, held, owned, tried, prepared⟩
  · rw [nothing]
    exact .stay _
  have loaded := Db.job?_id present
  have current := current_of_found w present tried
  have jobOf := (Db.attempt?_spec tried).2.2
  generalize prepare clocks itemId orgId jobId token eusAvailable eusTimeout w.db = result at prepared ⊢
  cases prepared with
  | unselected opened jobs attempts messages =>
    dsimp only
    by_cases same : id = jobId
    · subst same
      rw [view_put w opened (notSelected clocks.now job attempt) (Db.isSome_job? jobs present) loaded jobOf,
        view_tables w jobs attempts messages]
      exact .unselected _ job attempt clocks.now current held
    · rw [view_put_other w opened (notSelected clocks.now job attempt) same loaded jobOf,
        view_tables w jobs attempts messages]
      exact .stay _
  | eus opened index jobs attempts messages later inside =>
    simp only [present, Option.map_some, Option.toList_some]
    let w' : World := { w with released := (jobId, token) :: w.released, log := w.log ++ [.effect jobId job.generation] }
    by_cases same : id = jobId
    · subst same
      have put := view_put w' opened (dispatchedEus clocks.now index eusTimeout job attempt)
        (Db.isSome_job? jobs present) loaded jobOf
      rw [view_tables w' jobs attempts messages] at put
      have marked : w'.view id = { w.view id with
          released := token :: (w.view id).released, effects := (w.view id).effects ++ [job.generation] } := by
        simp [w', World.view, Entry.effectOf, Entry.unsentOf]
      rw [put, marked]
      exact .eus _ job attempt clocks.now index eusTimeout token current held owned later inside
    · have put := view_put_other w' opened (dispatchedEus clocks.now index eusTimeout job attempt) same loaded jobOf
      rw [view_tables w' jobs attempts messages] at put
      have marked : w'.view id = w.view id := by
        simp [w', World.view, Entry.effectOf, Entry.unsentOf, Ne.symm same]
      rw [put, marked]
      exact .stay _
  | gateway turned routed index row connection jobs attempts messages later inside org' isRouted =>
    dsimp only
    obtain ⟨item, rfl, spoken, queued, -, -, -, -, fresh, isItem⟩ := route_spec isRouted
    have speaks : item.message.jobId = jobId := by rw [spoken]; exact loaded
    rw [view_put_routed w jobs attempts messages isItem (dispatchedGateway clocks.now index row item.id job attempt)
      present loaded jobOf speaks]
    split
    · next same =>
      subst same
      refine .gateway _ job attempt clocks.now index row item current held later inside spoken queued fun old member => ?_
      exact fresh old (messages ▸ (List.mem_filter.mp member).1)
    · exact .stay _

end Einsatzcockpit.Sms

namespace Einsatzcockpit.Sms

variable {sha256 : String → String} {w : World} (id : String)

theorem kindOf_awaiting (message : Meldung) (job : Job) (heard : kindOf message job ≠ .ignored) :
    awaiting job = true := by
  by_contra quiet
  exact heard (by simp [kindOf, quiet])

variable {message : Meldung}

theorem kindOf_result {job : Job} (result : kindOf message job = .result) :
    message.get "type" = some (.text "sms.result") := by
  unfold kindOf at result
  split at result
  · simp at result
  · split at result
    · simp at result
    · split at result <;> simp at result
    · assumption
    · simp at result

theorem resultOutcome_sent {job : Job} (sent : (resultOutcome job message).1 = .sent) :
    acceptedReport job message = true := by
  unfold resultOutcome at sent
  split at sent
  · assumption
  · split at sent <;> simp at sent

section

variable (now : Zeit) (outcome : Outcome) (error : Option String) (notSent : Bool) (job : Job) (attempt : Attempt)
include now outcome error notSent job attempt

theorem complete_id : (complete now outcome error notSent job attempt).1.id = job.id := by
  unfold complete
  split <;> rfl

theorem complete_attempt_jobId : (complete now outcome error notSent job attempt).2.jobId = attempt.jobId := by
  unfold complete
  split <;> rfl

end

theorem event_error {clocks : Clocks} {itemId : String} {connection : Connection} {tokenHash : String} {reconcile : Bool} {result : EventResult}
    (rejected : eventTarget clocks connection tokenHash message w.db = .error result) :
    step sha256 w (.event clocks itemId connection tokenHash message reconcile) = w := by
  simp [step, event, unsentReport, rejected]

theorem event_refines (clocks : Clocks) (itemId : String) (connection : Connection) (tokenHash : String)
    (message : Meldung) (reconcile : Bool) :
    Lifecycle (promise w (.event clocks itemId connection tokenHash message reconcile)) (w.view id)
      ((step sha256 w (.event clocks itemId connection tokenHash message reconcile)).view id) := by
  cases accepted : eventTarget clocks connection tokenHash message w.db with
  | error result =>
    rw [event_error accepted]
    exact .stay _
  | ok target =>
  obtain ⟨parsed, isJob, running, tried⟩ := eventTarget_spec accepted
  obtain ⟨present, org, atGeneration, atGateway, routed⟩ := eventJob_spec isJob
  have loaded := Db.job?_id present
  rw [← atGeneration] at tried
  have current := current_of_found w present tried
  have jobOf := (Db.attempt?_spec tried).2.2
  have unreported (other : kindOf message target.job ≠ .result) :
      unsentReport clocks connection tokenHash message w.db = none := by
    simp [unsentReport, accepted, other]
  cases kind : kindOf message target.job with
  | ignored =>
    have unchanged : step sha256 w (.event clocks itemId connection tokenHash message reconcile) = w := by
      simp [step, event, accepted, kind, unreported]
    rw [unchanged]
    exact .stay _
  | attempt =>
    let heard : Job := { target.job with attemptedAt := some (target.job.attemptedAt.getD clocks.now) }
    have after : step sha256 w (.event clocks itemId connection tokenHash message reconcile) =
        { w with db := w.db.setJob heard } := by
      simp [step, event, accepted, kind, unreported, heard]
    rw [after]
    by_cases same : id = target.jobId
    · subst same
      rw [view_setJob w w.db heard (by rw [present]; rfl) loaded]
      exact .attempted _ target.job clocks.now present
    · rw [view_setJob_other w w.db heard same loaded]
      exact .stay _
  | ack =>
    have waits := kindOf_awaiting message target.job (by simp [kind])
    by_cases releases : grants connection reconcile target.job = true
    · cases sent : route clocks.route itemId connection (commitMessage target.wire target.jobId target.generation)
          (some target.wire) w.db with
      | none =>
        have unchanged : step sha256 w (.event clocks itemId connection tokenHash message reconcile) = w := by
          simp [step, event, accepted, kind, unreported, releases, sent]
        rw [unchanged]
        exact .stay _
      | some sentDb =>
        have after : step sha256 w (.event clocks itemId connection tokenHash message reconcile) =
            { w with
              db := (sentDb.setJob (granted clocks.now connection itemId target.job target.attempt).1).setAttempt
                (granted clocks.now connection itemId target.job target.attempt).2 } := by
          simp [step, event, accepted, kind, unreported, releases, sent]
        obtain ⟨item, rfl, spoken, queued, itemOrg, itemKind, itemGateway, key, fresh, isItem⟩ := route_spec sent
        have speaks : item.message.jobId = target.jobId := by rw [spoken]; rfl
        rw [after, view_put_routed w rfl rfl rfl isItem
          (granted clocks.now connection item.id target.job target.attempt) present loaded jobOf speaks]
        split
        · next same =>
          subst same
          have two : 2 ≤ target.job.protocol := by
            simp only [grants, Bool.and_eq_true, decide_eq_true_eq] at releases
            exact releases.1
          have commits : item.commits target.job := by
            refine ⟨by rw [spoken]; rfl, itemOrg.trans org.symm, itemKind, by rw [itemGateway, atGateway],
              speaks.trans loaded.symm, ?_⟩
            rw [spoken, atGeneration]
            rfl
          refine .grant _ target.job target.attempt clocks.now connection item current waits routed two commits queued
            (fun old member => fresh old (List.mem_filter.mp member).1) fun canonical => ?_
          have named : target.wire = wireId target.jobId target.generation :=
            canonical target accepted kind releases
          rw [key, named, loaded, atGeneration]
        · exact .stay _
    · have after : step sha256 w (.event clocks itemId connection tokenHash message reconcile) =
          { w with
            db := (w.db.setJob (acknowledged clocks.now target.job target.attempt).1).setAttempt
              (acknowledged clocks.now target.job target.attempt).2 } := by
        simp [step, event, accepted, kind, unreported, releases]
      rw [after]
      by_cases same : id = target.jobId
      · subst same
        rw [view_put w w.db (acknowledged clocks.now target.job target.attempt) (by rw [present]; rfl) loaded jobOf]
        exact .acknowledge _ target.job target.attempt clocks.now current waits routed
      · rw [view_put_other w w.db (acknowledged clocks.now target.job target.attempt) same loaded jobOf]
        exact .stay _
  | result =>
    have waits := kindOf_awaiting message target.job (by simp [kind])
    let reported : List Entry :=
      if (resultOutcome target.job message).1 = .failed then [.notSent target.jobId target.generation] else []
    let written := complete clocks.complete (resultOutcome target.job message).1 (resultOutcome target.job message).2.1
      (resultOutcome target.job message).2.2 target.job target.attempt
    let w' : World := { w with log := w.log ++ reported }
    have after : step sha256 w (.event clocks itemId connection tokenHash message reconcile) =
        { w' with db := (w.db.setJob written.1).setAttempt written.2 } := by
      by_cases failed : (resultOutcome target.job message).1 = .failed <;>
        simp [step, event, accepted, kind, unsentReport, failed, w', reported, written]
    have owner : written.1.id = target.jobId := (complete_id ..).trans loaded
    have attemptOwner : written.2.jobId = target.jobId := (complete_attempt_jobId ..).trans jobOf
    rw [after]
    by_cases same : id = target.jobId
    · subst same
      have logged : w'.view target.jobId = { w.view target.jobId with
          unsent := (w.view target.jobId).unsent ++
            if (resultOutcome target.job message).1 = .failed then [target.job.generation] else [] } := by
        by_cases failed : (resultOutcome target.job message).1 = .failed <;>
          simp [w', reported, World.view, failed, Entry.effectOf, Entry.unsentOf, atGeneration]
      rw [view_put w' w.db written (by rw [present]; rfl) owner attemptOwner,
        view_tables w' rfl rfl rfl, logged]
      refine .result _ target.job target.attempt clocks.complete message current waits routed
        (fun settled failed falls item member commit at_ => ?_) fun sent => ?_
      · have report : unsentReport clocks connection tokenHash message w.db = some target := by
          simp [unsentReport, accepted, kind, failed]
        exact settled target report falls item member commit (at_.trans atGeneration)
      · refine ⟨?_, kindOf_result kind, resultOutcome_sent sent⟩
        rw [parsed, loaded, atGeneration]
    · have logged : w'.view id = w.view id := by
        by_cases failed : (resultOutcome target.job message).1 = .failed <;>
          simp [w', reported, World.view, failed, Entry.effectOf, Entry.unsentOf, Ne.symm same]
      rw [view_put_other w' w.db written same owner attemptOwner, view_tables w' rfl rfl rfl, logged]
      exact .stay _

end Einsatzcockpit.Sms
