import Einsatzcockpit.Sms.Refinement

namespace Einsatzcockpit.Sms

variable {sha256 : String → String} {w : World} (id : String)

theorem eusResult_refines (now : Zeit) (orgId : Nat) (jobId token : String) (outcome : EusOutcome) :
    Lifecycle (promise w (.eusResult now orgId jobId token outcome)) (w.view id)
      ((step sha256 w (.eusResult now orgId jobId token outcome)).view id) := by
  by_cases released : (jobId, token) ∈ w.released
  swap
  · simp only [step, released, not_false_eq_true, if_true]
    exact .stay _
  cases found : eusTarget orgId jobId token w.db with
  | none =>
    have unchanged : step sha256 w (.eusResult now orgId jobId token outcome) = w := by
      simp [step, released, found, eusResult]
    rw [unchanged]
    exact .stay _
  | some loadedPair =>
  obtain ⟨job, attempt⟩ := loadedPair
  obtain ⟨present, owned, active, tried⟩ := eusTarget_spec found
  have loaded := Db.job?_id present
  have current := current_of_found w present tried
  have jobOf := (Db.attempt?_spec tried).2.2
  let reported : List Entry := if outcome.result.2.2 then [.notSent jobId job.generation] else []
  let written := complete now outcome.result.1 outcome.result.2.1 outcome.result.2.2 job attempt
  let w' : World := { w with log := w.log ++ reported }
  have after : step sha256 w (.eusResult now orgId jobId token outcome) =
      { w' with db := (w.db.setJob written.1).setAttempt written.2 } := by
    simp [step, released, found, eusResult, w', reported, written]
  have owner : written.1.id = jobId := (complete_id ..).trans loaded
  have attemptOwner : written.2.jobId = jobId := (complete_attempt_jobId ..).trans jobOf
  rw [after]
  by_cases same : id = jobId
  · subst same
    have logged : w'.view id = { w.view id with
        unsent := (w.view id).unsent ++ if outcome.result.2.2 then [job.generation] else [] } := by
      cases safe : outcome.result.2.2 <;> simp [w', reported, World.view, safe, Entry.effectOf, Entry.unsentOf]
    have isReleased : token ∈ (w.view id).released :=
      List.mem_filterMap.mpr ⟨(id, token), released, by simp⟩
    rw [view_put w' w.db written (by rw [present]; rfl) owner attemptOwner, view_tables w' rfl rfl rfl, logged]
    refine .eusResult _ job attempt now token outcome current active owned isReleased fun sent => ?_
    refine ⟨?_, loaded, owned⟩
    cases outcome with
    | rejected safe => cases safe <;> simp [EusOutcome.result] at sent
    | _ => simp_all [EusOutcome.result]
  · have logged : w'.view id = w.view id := by
      cases safe : outcome.result.2.2 <;>
        simp [w', reported, World.view, safe, Entry.effectOf, Entry.unsentOf, Ne.symm same]
    rw [view_put_other w' w.db written same owner attemptOwner, view_tables w' rfl rfl rfl, logged]
    exact .stay _

theorem sweep_refines (now finished : Zeit) (read : String → Bool) (orgId : Nat) (jobId : String) (p : Promise)
    (sound : w.Sound) :
    Lifecycle p (w.view id) ((step sha256 w (.sweep now finished read orgId jobId)).view id) := by
  simp only [step]
  rcases sweep_cases now finished read orgId jobId w.db sound.messageIds with unchanged | ⟨job, present, org, swept⟩
  · rw [unchanged]
    exact .stay _
  have loaded := Db.job?_id present
  generalize sweep now finished read orgId jobId w.db = result at swept ⊢
  cases swept with
  | expire waiting =>
    by_cases same : id = jobId
    · subst same
      rw [view_setJob w w.db (queueExpired now job) (by rw [present]; rfl) loaded]
      exact .expire _ job now present waiting
    · rw [view_setJob_other w w.db (queueExpired now job) same loaded]
      exact .stay _
  | withdraw attempt cancelled timeout active tried cancels elsewhere withdrawn =>
    rw [loaded] at tried withdrawn
    have current := current_of_found w present tried
    have jobOf := (Db.attempt?_spec tried).2.2
    obtain ⟨rows, isCancelled, carried⟩ := view_cancelsTo w cancels id
    by_cases same : id = jobId
    · subst same
      rw [view_put w cancelled (requeued now timeout job attempt) (Db.isSome_job? cancels.jobs present) loaded jobOf,
        carried]
      have rowsAre : rows = cancelled.messagesOf id := (congrArg View.messages carried).symm
      exact .withdraw _ job attempt now timeout rows current active isCancelled elsewhere
        (rowsAre ▸ withdrawn)
    · rw [view_put_other w cancelled (requeued now timeout job attempt) same loaded jobOf, carried]
      exact .cancel _ rows isCancelled
  | lapse attempt cancelled error active tried cancels =>
    rw [loaded] at tried
    have current := current_of_found w present tried
    have jobOf := (Db.attempt?_spec tried).2.2
    have owner := (complete_id finished .uncertain error false job attempt).trans loaded
    have attemptOwner := (complete_attempt_jobId finished .uncertain error false job attempt).trans jobOf
    obtain ⟨rows, isCancelled, carried⟩ := view_cancelsTo w cancels id
    by_cases same : id = jobId
    · subst same
      rw [view_put w cancelled _ (Db.isSome_job? cancels.jobs present) owner attemptOwner, carried]
      exact .lapse _ job attempt finished error rows current active isCancelled
    · rw [view_put_other w cancelled _ same owner attemptOwner, carried]
      exact .cancel _ rows isCancelled

section

variable (clocks : Clocks) (worker : String) (sockets : List LocalSocket) (itemId : String) (address : Option Address)
include clocks worker sockets itemId address

/-- What `_claim` of a delivery can do. -/
theorem claimDelivery_cases (db : Db) (ids : (db.messages.map (·.id)).Nodup) :
    (∃ db', db.CancelsTo db' ∧ claimDelivery clocks worker sockets itemId address db = (db', none)) ∨
      ∃ socket, ∃ item ∈ db.messages, item.id = itemId ∧ item.state = .queued ∧
        claimDelivery clocks worker sockets itemId address db =
          ({ db with
              messages := Relational.update (fun row => row.id == item.id)
                (fun row => { row with state := .sending }) db.messages },
            some (socket, item)) := by
  cases found : (db.messages.find? fun item => item.id == itemId).filter fun item =>
      item.workerId == worker && item.state == .queued with
  | none => exact Or.inl ⟨db, .refl db, by simp [claimDelivery, found]⟩
  | some item =>
    obtain ⟨isItem, guard⟩ := Option.filter_eq_some_iff.mp found
    have inside := List.mem_of_find?_eq_some isItem
    have itemAt : item.id = itemId := by simpa using List.find?_some isItem
    simp only [Bool.and_eq_true, beq_iff_eq] at guard
    cases wrong : misaddressed address item with
    | true => exact Or.inl ⟨db, .refl db, by simp [claimDelivery, found, wrong]⟩
    | false =>
    cases attached : socketOf sockets item with
    | none => exact Or.inl ⟨db, .refl db, by simp [claimDelivery, found, wrong, attached]⟩
    | some socket =>
      cases valid : deliverable clocks socket item db with
      | false =>
        let rows := Relational.update (claims itemId socket.connection) (fun row => { row with state := .expired })
          db.messages
        refine Or.inl ⟨{ db with messages := rows }, ⟨rfl, rfl, ?_⟩,
          by simp [claimDelivery, found, wrong, attached, valid, rows]⟩
        refine List.forall₂_map_right_iff.mpr (List.forall₂_same.mpr fun row _ => ?_)
        split
        · next hit =>
          simp only [claims, Bool.and_eq_true, beq_iff_eq] at hit
          exact Or.inr ⟨hit.1.1.2, rfl⟩
        · exact Or.inl rfl
      | true =>
        have mine : ∀ row ∈ db.messages, claims itemId socket.connection row = true → row = item := by
          intro row member hit
          simp only [claims, Bool.and_eq_true, beq_iff_eq] at hit
          exact same_of_id ids member inside (hit.1.1.1.1.trans itemAt.symm)
        cases hit : claims itemId socket.connection item with
        | false =>
          have missed : ∀ row ∈ db.messages, claims itemId socket.connection row = false := by
            intro row member
            by_contra hits
            have isItem' := mine row member (by simpa using hits)
            simp [isItem', hit] at hits
          refine Or.inl ⟨db, .refl db, ?_⟩
          have unchanged : db.messages.any (claims itemId socket.connection) = false := by simpa using missed
          simp only [claimDelivery, found, wrong, attached, valid, unchanged, Relational.update_eq_self missed]
          simp
        | true =>
          refine Or.inr ⟨socket, item, inside, itemAt, guard.2, ?_⟩
          have changed : db.messages.any (claims itemId socket.connection) = true :=
            List.any_eq_true.mpr ⟨item, inside, hit⟩
          have rows : Relational.update (claims itemId socket.connection)
              (fun row => { row with state := .sending }) db.messages =
              Relational.update (fun row => row.id == item.id) (fun row => { row with state := .sending })
                db.messages := by
            refine List.map_congr_left fun row member => ?_
            by_cases same : row.id = item.id
            · obtain rfl := same_of_id ids member inside same
              simp [hit]
            · have other : claims itemId socket.connection row = false := by
                by_contra hits
                exact same (congrArg GatewayMessage.id (mine row member (by simpa using hits)))
              simp [same, other]
          simp [claimDelivery, found, wrong, attached, valid, changed, rows]

theorem deliver_refines (p : Promise) (sound : w.Sound) :
    Lifecycle p (w.view id) ((step sha256 w (.deliver clocks worker sockets itemId address)).view id) := by
  simp only [step]
  rcases claimDelivery_cases clocks worker sockets itemId address w.db sound.messageIds with
    ⟨db, cancels, silent⟩ | ⟨socket, item, inside, itemAt, queued, written⟩
  · rw [silent]
    obtain ⟨rows, cancelled, carried⟩ := view_cancelsTo w cancels id
    dsimp only
    rw [carried]
    exact .cancel _ rows cancelled
  · rw [written]
    dsimp only
    let moved := Relational.update (fun row : GatewayMessage => row.id == item.id)
      (fun row => { row with state := .sending }) w.db.messages
    have rows : moved.filter (fun row => row.message.jobId == id) =
        Relational.update (fun row => row.id == item.id) (fun row => { row with state := .sending })
          (w.db.messagesOf id) :=
      Relational.filter_update _ _ _ _ fun row _ => rfl
    by_cases same : item.message.jobId = id
    · have view : { w with
            db := { w.db with messages := moved }
            log := w.log ++ if effectful item then [.effect item.message.jobId item.message.generation] else []
            : World }.view id =
          { w.view id with
            messages := Relational.update (fun row => row.id == item.id) (fun row => { row with state := .sending })
              (w.view id).messages
            effects := (w.view id).effects ++ if effectful item then [item.message.generation] else [] } := by
        cases isEffectful : effectful item <;>
          simp [World.view, Db.job?, Db.attemptsOf, Db.messagesOf, rows, Entry.effectOf, Entry.unsentOf, same]
      rw [view]
      refine .send _ item (List.mem_filter.mpr ⟨inside, by simpa using same⟩) queued fun other member sameId => ?_
      exact same_of_id sound.messageIds (List.mem_filter.mp member).1 inside sameId
    · have untouched : moved.filter (fun row => row.message.jobId == id) = w.db.messagesOf id := by
        refine rows.trans (Relational.update_eq_self fun row member => ?_)
        by_contra hit
        have isItem := same_of_id sound.messageIds (List.mem_filter.mp member).1 inside (by simpa using hit)
        have speaks : row.message.jobId = id := by simpa using (List.mem_filter.mp member).2
        exact same (isItem ▸ speaks)
      have view : { w with
            db := { w.db with messages := moved }
            log := w.log ++ if effectful item then [.effect item.message.jobId item.message.generation] else []
            : World }.view id = w.view id := by
        cases isEffectful : effectful item <;>
          simp [World.view, Db.job?, Db.attemptsOf, Db.messagesOf, untouched, Entry.effectOf, Entry.unsentOf, same]
      rw [view]
      exact .stay _

end

theorem finish_refines (worker itemId : String) (orgId : Nat) (delivered : Bool) (p : Promise) :
    Lifecycle p (w.view id) ((step sha256 w (.finish worker itemId orgId delivered)).view id) := by
  let hit : GatewayMessage → Bool := fun row =>
    row.id == itemId && row.orgId == orgId && row.workerId == worker && row.state == .sending
  let close : GatewayMessage → GatewayMessage := fun row => { row with
    state := if delivered then .delivered else .failed
    error := if delivered then none else some "socket_send_failed" }
  have rows : (Relational.update hit close w.db.messages).filter (fun row => row.message.jobId == id) =
      Relational.update hit close (w.db.messagesOf id) :=
    Relational.filter_update _ _ _ _ fun row _ => rfl
  have finished : Finished (w.db.messagesOf id) (Relational.update hit close (w.db.messagesOf id)) := by
    refine List.forall₂_map_right_iff.mpr (List.forall₂_same.mpr fun row _ => ?_)
    split
    · next isHit =>
      simp only [hit, Bool.and_eq_true, beq_iff_eq] at isHit
      refine Or.inr ⟨isHit.2, _, _, ?_, rfl⟩
      cases delivered <;> simp
    · exact Or.inl rfl
  rw [← rows] at finished
  exact .finish _ _ finished

variable (sha256) in
theorem step_refines (sound : w.Sound) (action : Action) :
    Lifecycle (promise w action) (w.view id) ((step sha256 w action).view id) := by
  cases action with
  | enqueue now finished uuid orgId jobKey phone text providers preferred recipientId legacy =>
    exact enqueue_refines id now finished uuid orgId jobKey phone text providers preferred recipientId legacy _ sound
  | claim now token worker orgId jobId => exact claim_refines id now token worker orgId jobId _ sound
  | prepare clocks itemId orgId jobId token eusAvailable eusTimeout =>
    exact prepare_refines id clocks itemId orgId jobId token eusAvailable eusTimeout _
  | event clocks itemId connection tokenHash message reconcile =>
    exact event_refines id clocks itemId connection tokenHash message reconcile
  | eusResult now orgId jobId token outcome => exact eusResult_refines id now orgId jobId token outcome
  | sweep now finished read orgId jobId => exact sweep_refines id now finished read orgId jobId _ sound
  | deliver clocks worker sockets itemId address =>
    exact deliver_refines id clocks worker sockets itemId address _ sound
  | finish worker itemId orgId delivered => exact finish_refines id worker itemId orgId delivered _
  | presence gateways => exact .stay _

end Einsatzcockpit.Sms

namespace Einsatzcockpit.Sms

structure Db.Keyed (db : Db) : Prop where
  messageIds : (db.messages.map (·.id)).Nodup
  jobIds : (db.jobs.map (·.id)).Nodup

namespace Db.Keyed

variable {db db' : Db} (keyed : db.Keyed)
include keyed

theorem setJob (job : Job) : (db.setJob job).Keyed := by
  refine ⟨keyed.messageIds, ?_⟩
  have same : (db.setJob job).jobs.map (·.id) = db.jobs.map (·.id) := by
    simp only [Db.setJob, Relational.update, List.map_map]
    refine List.map_congr_left fun row _ => ?_
    by_cases hit : row.id = job.id <;> simp [hit]
  exact same ▸ keyed.jobIds

theorem put (written : Job × Attempt) : ((db.setJob written.1).setAttempt written.2).Keyed := by
  obtain ⟨messages, jobs⟩ := keyed.setJob written.1
  exact ⟨messages, jobs⟩

theorem cancelsTo (cancels : db.CancelsTo db') : db'.Keyed :=
  ⟨cancels.messages.ids ▸ keyed.messageIds, cancels.jobs ▸ keyed.jobIds⟩

theorem tables (jobs : db'.jobs = db.jobs) (messages : db'.messages = db.messages) : db'.Keyed :=
  ⟨messages ▸ keyed.messageIds, jobs ▸ keyed.jobIds⟩

theorem route {now : Zeit} {itemId : String} {connection : Connection} {message : Message}
    {jobKey : Option String} (routed : route now itemId connection message jobKey db = some db') : db'.Keyed := by
  obtain ⟨item, rfl, -, -, -, -, -, -, fresh, rfl⟩ := route_spec routed
  refine ⟨?_, keyed.jobIds⟩
  rw [List.map_append, List.nodup_append]
  refine ⟨keyed.messageIds, by simp, fun id member id' single => ?_⟩
  obtain ⟨old, inside, rfl⟩ := List.mem_map.mp member
  obtain rfl : id' = item.id := by simpa using single
  exact fresh old inside

theorem updateMessages {p : GatewayMessage → Bool} {f : GatewayMessage → GatewayMessage}
    (sameId : ∀ row, (f row).id = row.id) :
    ({ db with messages := Relational.update p f db.messages } : Db).Keyed := by
  refine ⟨?_, keyed.jobIds⟩
  have same : (Relational.update p f db.messages).map (·.id) = db.messages.map (·.id) := by
    simp only [Relational.update, List.map_map]
    refine List.map_congr_left fun row _ => ?_
    by_cases hit : p row = true <;> simp [hit, sameId]
  exact same ▸ keyed.messageIds

theorem claim (now : Zeit) (token worker : String) (orgId : Nat) (jobId : String) :
    (claim now token worker orgId jobId db).1.Keyed := by
  unfold Sms.claim
  split
  · exact keyed
  · dsimp only
    split
    · exact keyed
    · exact (keyed.setJob _).tables rfl rfl

theorem prepare (clocks : Clocks) (itemId : String) (orgId : Nat) (jobId token : String) (eusAvailable : Bool)
    (eusTimeout : Int) : (prepare clocks itemId orgId jobId token eusAvailable eusTimeout db).1.Keyed := by
  rcases prepare_cases clocks itemId orgId jobId token eusAvailable eusTimeout db with
    nothing | ⟨job, attempt, -, -, -, -, -, prepared⟩
  · rw [nothing]
    exact keyed
  generalize Sms.prepare clocks itemId orgId jobId token eusAvailable eusTimeout db = result at prepared ⊢
  cases prepared with
  | unselected opened jobs attempts messages => exact (keyed.tables jobs messages).put (notSelected ..)
  | eus opened index jobs attempts messages => exact (keyed.tables jobs messages).put (dispatchedEus ..)
  | gateway turned routed index row connection jobs attempts messages later inside org isRouted =>
    exact ((keyed.tables jobs messages).route isRouted).put (dispatchedGateway ..)

theorem event (clocks : Clocks) (itemId : String) (connection : Connection) (tokenHash : String)
    (message : Meldung) (reconcile : Bool) :
    (event clocks itemId connection tokenHash message reconcile db).1.Keyed := by
  unfold Sms.event
  split
  · exact keyed
  · next target _ =>
    dsimp only
    split
    · split
      · split
        · exact keyed
        · next routed isRouted => exact (keyed.route isRouted).put (granted ..)
      · exact keyed.put (acknowledged ..)
    · exact keyed.setJob _
    · exact keyed.put (complete ..)
    · exact keyed

theorem eusResult (now : Zeit) (orgId : Nat) (jobId token : String) (outcome : Outcome) (error : Option String)
    (safe : Bool) : (eusResult now orgId jobId token outcome error safe db).Keyed := by
  unfold Sms.eusResult
  split
  · exact keyed
  · exact keyed.put (complete ..)

theorem sweep (now finished : Zeit) (read : String → Bool) (orgId : Nat) (jobId : String) :
    (sweep now finished read orgId jobId db).Keyed := by
  rcases sweep_cases now finished read orgId jobId db keyed.messageIds with unchanged | ⟨job, -, -, swept⟩
  · rw [unchanged]
    exact keyed
  generalize Sms.sweep now finished read orgId jobId db = result at swept ⊢
  cases swept with
  | expire => exact keyed.setJob _
  | withdraw attempt cancelled timeout active tried cancels => exact (keyed.cancelsTo cancels).put (requeued ..)
  | lapse attempt cancelled error active tried cancels => exact (keyed.cancelsTo cancels).put (complete ..)

theorem enqueueIn {sha256 : String → String} {now finished : Zeit} {uuid : String} {orgId : Nat}
    {jobKey phone text : String} {providers : List Provider} {preferred recipientId : Option Nat}
    {legacy : Bool} {id : String}
    (done : enqueueIn sha256 now finished uuid orgId jobKey phone text providers preferred recipientId legacy db =
      .ok (id, db')) : db'.Keyed := by
  rcases enqueueIn_cases done with ⟨hash, free, jobs, -, messages⟩ | ⟨job, -, -, jobs, -, messages⟩ |
    ⟨jobs, -, messages⟩
  · refine ⟨messages ▸ keyed.messageIds, ?_⟩
    rw [jobs, List.map_append, List.nodup_append]
    refine ⟨keyed.jobIds, by simp, fun id member id' single => ?_⟩
    obtain ⟨old, inside, rfl⟩ := List.mem_map.mp member
    obtain rfl : id' = uuid := by simpa [newJob] using single
    exact free old inside
  · exact ((keyed.setJob _).cancelsTo (closeLegacy_cancelsTo finished job db)).tables jobs messages
  · exact keyed.tables jobs messages

end Db.Keyed

theorem step_sound (sha256 : String → String) (w : World) (action : Action) (sound : w.Sound) :
    (step sha256 w action).Sound := by
  have keyed : w.db.Keyed := ⟨sound.messageIds, sound.jobIds⟩
  have of_keyed {w' : World} (keys : w'.db.Keyed) (issued : ∀ entry ∈ w'.released, entry.2 ∈ w'.tokens) : w'.Sound :=
    ⟨keys.messageIds, keys.jobIds, issued⟩
  cases action with
  | enqueue =>
    simp only [step]
    split
    · exact sound
    · next done => exact of_keyed (keyed.enqueueIn done) sound.issued
  | claim =>
    simp only [step]
    split
    · exact sound
    · exact of_keyed (keyed.claim ..) fun entry member => List.mem_cons_of_mem _ (sound.issued entry member)
  | prepare clocks itemId orgId jobId token eusAvailable eusTimeout =>
    have keys := keyed.prepare clocks itemId orgId jobId token eusAvailable eusTimeout
    simp only [step]
    split
    · exact sound
    next drawn =>
    split
    · next db prepared =>
      rw [prepared] at keys
      refine of_keyed keys fun entry member => ?_
      rcases List.mem_cons.mp member with rfl | old
      · simpa using drawn
      · exact sound.issued entry old
    · next db _ _ prepared =>
      rw [prepared] at keys
      exact of_keyed keys sound.issued
  | event => exact of_keyed (keyed.event ..) sound.issued
  | eusResult =>
    simp only [step]
    split
    · exact sound
    · exact of_keyed (keyed.eusResult ..) sound.issued
  | sweep => exact of_keyed (keyed.sweep ..) sound.issued
  | deliver clocks worker sockets itemId address =>
    simp only [step]
    rcases claimDelivery_cases clocks worker sockets itemId address w.db sound.messageIds with
      ⟨db, cancels, silent⟩ | ⟨socket, item, inside, itemAt, queued, written⟩
    · rw [silent]
      exact of_keyed (keyed.cancelsTo cancels) sound.issued
    · rw [written]
      exact of_keyed (keyed.updateMessages fun _ => rfl) sound.issued
  | finish => exact of_keyed (keyed.updateMessages fun _ => rfl) sound.issued
  | presence => exact of_keyed (keyed.tables rfl rfl) sound.issued

end Einsatzcockpit.Sms
