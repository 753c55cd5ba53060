import Mathlib.Data.List.DropRight
import Mathlib.Data.List.Pairwise
import Einsatzcockpit.Mailing.Order

namespace Einsatzcockpit.Mailing

open Relational Transition Workers

variable {letters : Lowering}

/-- What the account of every recipient rests on: no worker crashes with an
item in work, and an item that is queued again has not been taken since. -/
def admitted (w : World) : Step → Bool
  | .crash worker => (w.workers[worker]?).all fun phase => phase == .idle
  | .retryWrite request =>
    match w.retries[request]? with
    | some (some (_, _, ids)) => ids.all fun id => (w.items.get? id).all fun item => item.status == .failed || item.status == .queued
    | _ => true
  | _ => true

section Steps

variable {w w' : World}

section

variable (ordered : Ordered letters w)
include ordered

theorem Ordered.suppress (orgId : Nat) (email reason : String) :
    Ordered letters (w.suppress letters orgId email reason) := by
  unfold World.suppress
  simp only
  split
  · refine ordered.aside rfl rfl rfl fun entry member => ?_
    obtain ⟨old, isOld, rfl⟩ := List.mem_map.mp member
    split <;> exact ordered.listed old isOld
  · refine ordered.aside rfl rfl rfl fun entry member => ?_
    rcases List.mem_append.mp member with old | new
    · exact ordered.listed entry old
    · rw [List.mem_singleton.mp new]
      exact letters.clean_clean email

theorem Ordered.report {item : MailingQueueItem} (isItem : item ∈ w.items.rows)
    (has : item.resendMessageId.isSome = true) {status : ItemStatus} (reported : status = .delivered ∨ status = .bounced) :
    Ordered letters (w.setItemStatus item.id status) := by
  have atItem : w.items.get? item.id = some item := Keyed.get?_of_mem isItem
  have good := ordered.good item.id item atItem
  have nobody : ∀ phase ∈ w.workers, item.id ∉ phase.items := fun phase member holds =>
    absurd (good.sending.mpr ⟨phase, member, holds⟩) (good.message has).2.1
  have kept : status ≠ .queued ∧ status ≠ .sending ∧ status ≠ .failed := by
    rcases reported with rfl | rfl <;> decide
  refine ordered.one (get?_setItemStatus atItem status) atItem (fun _ _ _ => Iff.rfl) ordered.separate ordered.result
    none (List.append_nil _).symm nofun nofun ordered.listed
    ⟨?_, fun _ => ?_, fun _ => kept, good.email⟩
  · exact ⟨fun is => absurd is kept.2.1, fun ⟨phase, member, holds⟩ => absurd holds (nobody phase member)⟩
  · exact ⟨kept.1, kept.2.2, fun phase member holds => absurd holds (nobody phase member)⟩

theorem Ordered.webhook (orgId : Nat) (eventType : String) (messageId : Option String) (soft : Bool)
    (svixId : String) : Ordered letters (w.processResendWebhookEvent letters orgId eventType messageId soft svixId) := by
  unfold World.processResendWebhookEvent
  split
  · exact ordered
  · simp only
    split
    · exact ordered.aside rfl rfl rfl ordered.listed
    · next item hit =>
      obtain ⟨message, -, hit⟩ := Option.bind_eq_some_iff.mp hit
      split at hit
      · cases hit
      · have isItem := List.mem_of_find?_eq_some hit
        have has : item.resendMessageId.isSome = true := by
          have same := List.find?_some hit
          rw [Bool.and_eq_true, beq_iff_eq, beq_iff_eq] at same
          rw [same.2]
          rfl
        have noted (event : MailingWebhookEvent) : Ordered letters { w with events := w.events ++ [event] } :=
          ordered.aside rfl rfl rfl ordered.listed
        split
        · exact (noted _).report isItem has (Or.inl rfl)
        · split
          · have bounced (event : MailingWebhookEvent) := (noted event).report isItem has (Or.inr rfl)
            split
            · exact bounced _
            · exact (bounced _).suppress orgId item.email "hard_bounce"
          · split
            · exact (noted _).suppress orgId item.email "complaint"
            · exact noted _

theorem Ordered.requeue {campaignId : Nat} {now : Zeit} {ids : List Nat}
    (failed : ∀ id ∈ ids, ∀ item, w.items.get? id = some item → item.status = .failed ∨ item.status = .queued) :
    Ordered letters (w.requeue campaignId now ids) := by
  have reads (id : Nat) : (w.requeue campaignId now ids).items.get? id = (w.items.get? id).map fun item =>
      if item.id ∈ ids then
        { item with status := .queued, attemptCount := 0, nextAttemptAt := some now, errorMessage := none }
      else item := by
    rw [World.requeue, Keyed.get?_map]
  have exists_ (id : Nat) (was : ∃ item, w.items.get? id = some item) :
      ∃ item, (w.requeue campaignId now ids).items.get? id = some item := by
    obtain ⟨item, atItem⟩ := was
    exact ⟨_, by rw [reads, atItem, Option.map_some]⟩
  refine ⟨ordered.separate, fun phase member id has => exists_ id (ordered.known phase member id has), ordered.result,
    fun id item found => ?_, fun event member => exists_ _ (ordered.past event member), ordered.listed, ordered.history⟩
  rw [reads] at found
  obtain ⟨old, atOld, rfl⟩ := Option.map_eq_some_iff.mp found
  have good := ordered.good id old atOld
  have key : old.id = id := Keyed.key_of_get? atOld
  split
  · next chosen =>
    have status := failed id (key ▸ chosen) old atOld
    have nobody : ∀ phase ∈ w.workers, old.id ∉ phase.items := fun phase member holds => by
      rw [good.sending.mpr ⟨phase, member, holds⟩] at status
      rcases status with is | is <;> cases is
    refine ⟨⟨nofun, fun ⟨phase, member, holds⟩ => absurd holds (nobody phase member)⟩, fun isFinal => ?_, fun has => ?_, good.email⟩
    · exact absurd status (not_or.mpr ⟨(good.final isFinal).2.1, (good.final isFinal).1⟩)
    · exact absurd status (not_or.mpr ⟨(good.message has).2.2, (good.message has).1⟩)
  · exact good.congr (fun _ => Iff.rfl) fun isFinal => isFinal

theorem Ordered.insert {new : Nat → MailingQueueItem} {numbered : ∀ id, (new id).id = id}
    (items : w'.items = w.items.insert new numbered) (workers : w'.workers = w.workers) (history : w'.history = w.history)
    (suppressions : w'.suppressions = w.suppressions) (fresh : ∀ id, (new id).status = .queued ∧ (new id).resendMessageId = none)
    (email : ∀ id, letters.clean (new id).email = (new id).email) : Ordered letters w' := by
  have exists_ (id : Nat) (was : ∃ item, w.items.get? id = some item) : ∃ item, w'.items.get? id = some item := by
    obtain ⟨item, atItem⟩ := was
    exact ⟨item, by rw [items, Keyed.get?_insert_of_some atItem]⟩
  have unknown : w.items.get? (w.items.last + 1) = none := by
    cases found : w.items.get? (w.items.last + 1) with
    | none => rfl
    | some item =>
      have bound := w.items.fresh item (Keyed.mem_of_get? found)
      rw [Keyed.key_of_get? found] at bound
      exact absurd bound (Nat.not_succ_le_self _)
  refine ⟨workers ▸ ordered.separate, fun phase member id has => ?_, workers ▸ ordered.result, fun id item found => ?_,
    fun event member => exists_ _ (ordered.past event (history ▸ member)), suppressions ▸ ordered.listed, history ▸ ordered.history⟩
  · exact exists_ id (ordered.known phase (workers ▸ member) id has)
  · rw [items] at found
    rcases Keyed.get?_insert_cases found with old | ⟨isNew, rfl⟩
    · refine (ordered.good id item old).congr (fun phase => by rw [workers]) fun isFinal => ?_
      rwa [World.Final, history] at isFinal
    · have nobody : ∀ phase ∈ w'.workers, (new (w.items.last + 1)).id ∉ phase.items := fun phase member has => by
        rw [numbered] at has
        obtain ⟨item, atItem⟩ := ordered.known phase (workers ▸ member) _ has
        rw [unknown] at atItem
        cases atItem
      have notFinal : ¬ w'.Final (new (w.items.last + 1)).id := by
        rintro ⟨event, member, -, about⟩
        obtain ⟨item, atItem⟩ := ordered.past event (history ▸ member)
        rw [about, numbered, unknown] at atItem
        cases atItem
      refine ⟨⟨fun is => ?_, fun held => ?_⟩, fun isFinal => absurd isFinal notFinal, fun has => ?_, email _⟩
      · rw [(fresh _).1] at is
        cases is
      · obtain ⟨phase, member, has⟩ := held
        exact absurd has (nobody phase member)
      · rw [(fresh _).2] at has
        cases has

theorem Ordered.addItems (campaign : MailingCampaign) {recipients : List String}
    (clean : ∀ email ∈ recipients, letters.clean email = email) : Ordered letters (w.addItems campaign recipients) := by
  induction recipients generalizing w with
  | nil => exact ordered
  | cons email rest ih =>
    refine ih ?_ fun other member => clean other (List.mem_cons_of_mem _ member)
    exact @Ordered.insert letters w _ ordered (World.queueItem campaign email w.now) (fun _ => rfl) rfl rfl rfl rfl
      (fun _ => ⟨rfl, rfl⟩) fun _ => clean email (List.mem_cons_self ..)

end

end Steps

section Run

theorem mem_recipients {rows : List String} {email : String} (seen : List String)
    (member : email ∈ rows.foldl (fun seen email => if email ∈ seen then seen else seen ++ [email]) seen) :
    email ∈ seen ∨ email ∈ rows := by
  induction rows generalizing seen with
  | nil => exact Or.inl member
  | cons first rest ih =>
    rcases ih _ member with early | late
    · dsimp only at early
      split at early
      · exact Or.inl early
      · rcases List.mem_append.mp early with old | new
        · exact Or.inl old
        · exact Or.inr (List.mem_singleton.mp new ▸ List.mem_cons_self ..)
    · exact Or.inr (List.mem_cons_of_mem _ late)

theorem clean_of_mem_recipients (rows : List String) : ∀ email ∈ World.recipients letters rows, letters.clean email = email := by
  intro email member
  rcases mem_recipients [] member with early | late
  · cases early
  · obtain ⟨row, -, rfl⟩ := List.mem_map.mp late
    exact letters.clean_clean row

theorem Ordered.queueCampaign {w : World} (ordered : Ordered letters w) (campaignId : Nat) (rows : List String) :
    Ordered letters (w.queueCampaign letters campaignId rows) := by
  unfold World.queueCampaign
  split
  · exact ordered
  · next campaign _ =>
    split
    · have added := ordered.addItems campaign (clean_of_mem_recipients rows)
      exact added.aside rfl rfl rfl added.listed
    · exact ordered

theorem set_idle {workers : List Phase} {worker : Nat} (idle : ∀ phase, workers[worker]? = some phase → phase = .idle) :
    workers.set worker .idle = workers := by
  cases found : workers[worker]? with
  | none => exact List.set_eq_of_length_le (List.getElem?_eq_none_iff.mp found)
  | some phase =>
    obtain ⟨inside, at_⟩ := List.getElem?_eq_some_iff.mp found
    rw [← idle phase found, ← at_, List.set_getElem_self]

theorem Ordered.stepped {w : World} (ordered : Ordered letters w) {a : Step} (ok : admitted w a = true) :
    Ordered letters (step letters w a) := by
  cases a with
  | wait duration | createCampaign orgId maxAttemptsOverride | reconcile campaignId | retryRead request campaignId =>
    exact ordered.aside rfl rfl rfl ordered.listed
  | queueCampaign campaignId rows => exact ordered.queueCampaign campaignId rows
  | suppressionAdd orgId email => exact ordered.suppress orgId email "manual"
  | suppressionDelete orgId email =>
    exact ordered.aside rfl rfl rfl fun entry member => ordered.listed entry (List.mem_of_mem_filter member)
  | prepare worker locked =>
    simp only [Mailing.step]
    split
    · next idle => exact ordered.prepare idle locked
    · exact ordered
  | build worker outcome =>
    simp only [Mailing.step]
    split
    · next id prepared =>
      cases outcome with
      | ok transport => exact ordered.build prepared rfl fun _ _ _ is => by cases is
      | error exc => exact ordered.build prepared rfl fun _ _ _ is => by cases is; rfl
    · exact ordered
  | send worker answer =>
    simp only [Mailing.step]
    split
    · next phase found => exact ordered.send found answer
    · exact ordered
  | finish worker =>
    simp only [Mailing.step]
    split
    · next id resendId error fallback found => exact ordered.finish found
    · exact ordered
  | crash worker =>
    have idle : ∀ phase, w.workers[worker]? = some phase → phase = .idle := fun phase found => by
      simpa [admitted, found] using ok
    exact ordered.aside rfl (set_idle idle) rfl ordered.listed
  | webhook orgId eventType messageId soft svixId => exact ordered.webhook orgId eventType messageId soft svixId
  | retryWrite request =>
    simp only [Mailing.step]
    split
    · next campaignId now ids read =>
      simp only [admitted, read, List.all_eq_true] at ok
      have failed : ∀ id ∈ ids, ∀ item, w.items.get? id = some item → item.status = .failed ∨ item.status = .queued :=
        fun id chosen item found => by simpa [found] using ok id chosen
      exact (@Ordered.requeue letters w ordered campaignId now ids failed).aside rfl rfl rfl ordered.listed
    · exact ordered

theorem start_ordered (workers requests : Nat) : Ordered letters (start workers requests) where
  separate := by
    have none : (List.replicate workers Phase.idle).flatMap Phase.items = [] :=
      List.flatMap_eq_nil_iff.mpr fun phase member => by rw [List.eq_of_mem_replicate member]; rfl
    unfold Separate
    rw [start, none]
    exact List.nodup_nil
  known := fun phase member id has => by
    rw [List.eq_of_mem_replicate member] at has
    cases has
  result := fun id resendId error fallback member => by cases List.eq_of_mem_replicate member
  good := nofun
  past := nofun
  listed := nofun
  history := List.Pairwise.nil

end Run

def Step.worker? : Step → Option Nat
  | prepare worker _ | build worker _ | send worker _ | finish worker | crash worker => some worker
  | _ => none

def ItemStatus.final : ItemStatus → Bool
  | queued | sending => false
  | sent | failed | suppressed | delivered | bounced => true

namespace World

/-- The item that `_prepare_item_sync` selects when no row is locked. -/
def next (w : World) : Option MailingQueueItem := w.items.rows.find? fun item => item.due w.now

/-- After `n` more selections -/
def drain (w : World) : Nat → World
  | 0 => w
  | n + 1 =>
    match w.next with
    | some item => (w.claimItem item.id).drain n
    | none => w

end World

section Drain

variable {w : World} {item : MailingQueueItem}

theorem due_claimItem (chosen : w.next = some item) :
    (w.claimItem item.id).items.rows.filter (fun item => item.due w.now) =
      (w.items.rows.filter fun item => item.due w.now).tail := by
  obtain ⟨due, before, after, split, undue⟩ := List.find?_eq_some_iff_append.mp chosen
  have nodup := w.items.nodup
  rw [split, List.map_append, List.map_cons, List.nodup_append, List.nodup_cons] at nodup
  have kept : ∀ other ∈ before ++ after, other.id ≠ item.id := fun other member same => by
    rcases List.mem_append.mp member with early | late
    · exact nodup.2.2 other.id (List.mem_map_of_mem early) item.id (List.mem_cons_self ..) same
    · exact nodup.2.1.1 (same ▸ List.mem_map_of_mem late)
  have old : w.items.rows.filter (fun item => item.due w.now) = item :: after.filter fun item => item.due w.now := by
    have none : before.filter (fun item => item.due w.now) = [] :=
      List.filter_eq_nil_iff.mpr fun other member => by simpa using undue other member
    rw [split, List.filter_append, none, List.nil_append, List.filter_cons, if_pos due]
  have new : (w.claimItem item.id).items.rows =
      before ++ { item with status := .sending, attemptCount := item.attemptCount + 1 } :: after := by
    have same (part : List MailingQueueItem) (inside : ∀ other ∈ part, other ∈ before ++ after) :
        part.map (fun row => if row.id = item.id then { row with status := .sending, attemptCount := row.attemptCount + 1 } else row) =
          part :=
      (List.map_congr_left fun other member => if_neg (kept other (inside other member))).trans (List.map_id' _)
    rw [World.claimItem, Keyed.modify, Keyed.map]
    simp only [split, List.map_append, List.map_cons, if_true]
    rw [same before fun _ => List.mem_append_left _, same after fun _ => List.mem_append_right _]
  rw [old, List.tail_cons, new, List.filter_append, List.filter_cons, if_neg (by simp [MailingQueueItem.due])]
  have none : before.filter (fun item => item.due w.now) = [] :=
    List.filter_eq_nil_iff.mpr fun other member => by simpa using undue other member
  rw [none, List.nil_append]

theorem next_eq_head? : w.next = (w.items.rows.filter fun item => item.due w.now).head? :=
  List.head?_filter.symm

theorem exists_drain (isItem : item ∈ w.items.rows) (due : item.due w.now = true) : ∃ n, (w.drain n).next = some item := by
  have member : item ∈ w.items.rows.filter fun item => item.due w.now := List.mem_filter.mpr ⟨isItem, due⟩
  generalize rows : (w.items.rows.filter fun item => item.due w.now) = dues at member
  clear isItem due
  induction dues generalizing w with
  | nil => cases member
  | cons first rest ih =>
    have chosen : w.next = some first := by rw [next_eq_head?, rows, List.head?_cons]
    rcases List.mem_cons.mp member with rfl | later
    · exact ⟨0, chosen⟩
    · have tail : (w.claimItem first.id).items.rows.filter (fun item => item.due (w.claimItem first.id).now) = rest :=
        (due_claimItem chosen).trans (by rw [rows, List.tail_cons])
      obtain ⟨n, selected⟩ := ih tail later
      exact ⟨n + 1, by rw [World.drain, chosen]; exact selected⟩

end Drain

section Results

variable {w : World}

theorem Ordered.reported (ordered : Ordered letters w) {a : Step} (who : a.worker?.isSome = true) {id : Nat}
    {item : MailingQueueItem} (atItem : w.items.get? id = some item) (reported : item.status = .delivered ∨ item.status = .bounced) :
    (step letters w a).items.get? id = some item := by
  cases a with
  | wait duration | createCampaign orgId maxAttemptsOverride | queueCampaign campaignId rows | suppressionAdd orgId email
  | suppressionDelete orgId email | reconcile campaignId | webhook orgId eventType messageId soft svixId
  | retryRead request campaignId | retryWrite request => cases who
  | crash worker => exact atItem
  | build worker outcome =>
    simp only [step]
    split
    · cases outcome <;> exact atItem
    · exact atItem
  | send worker answer =>
    simp only [step]
    split
    · next phase _ =>
      unfold Mailing.send
      split
      · split
        · cases answer <;> exact atItem
        · split
          · cases answer <;> exact atItem
          · exact atItem
      · cases answer <;> exact atItem
      · exact atItem
    · exact atItem
  | prepare worker locked =>
    simp only [step]
    split
    · unfold World.prepareItem
      split
      · exact atItem
      · next chosen found =>
        have isChosen : w.items.get? chosen.id = some chosen := Keyed.get?_of_mem (List.mem_of_find?_eq_some found)
        have differs : id ≠ chosen.id := fun same => by
          subst same
          have due := List.find?_some found
          simp only [MailingQueueItem.due, Bool.and_eq_true, beq_iff_eq] at due
          rw [← Option.some.inj (atItem.symm.trans isChosen)] at due
          rcases reported with is | is <;> rw [is] at due <;> cases due.1.1
        split
        · exact (get?_suppressItem isChosen _ id).trans ((if_neg differs).trans atItem)
        · exact (get?_claimItem isChosen id).trans ((if_neg differs).trans atItem)
    · exact atItem
  | finish worker =>
    simp only [step]
    split
    · next held resendId error fallback found =>
      obtain ⟨sending, atSending⟩ := ordered.known _ (List.mem_of_getElem? found) held (List.mem_singleton_self held)
      have key : sending.id = held := Keyed.key_of_get? atSending
      have status := (ordered.good held sending atSending).sending.mpr ⟨_, List.mem_of_getElem? found, List.mem_singleton.mpr key⟩
      have differs : id ≠ held := fun same => by
        subst same
        rw [← Option.some.inj (atItem.symm.trans atSending)] at status
        rcases reported with is | is <;> rw [is] at status <;> cases status
      exact (get?_finishItem atSending resendId error fallback id).trans ((if_neg differs).trans atItem)
    · exact atItem

theorem Ordered.settled (ordered : Ordered letters w) (idle : ∀ phase ∈ w.workers, phase = .idle) {item : MailingQueueItem}
    (isItem : item ∈ w.items.rows) : item.status.final = true ∨ item.status = .queued := by
  have good := ordered.good item.id item (Keyed.get?_of_mem isItem)
  cases status : item.status with
  | sent | failed | suppressed | delivered | bounced => exact Or.inl rfl
  | queued => exact Or.inr rfl
  | sending =>
    obtain ⟨phase, member, has⟩ := good.sending.mp status
    rw [idle phase member] at has
    cases has

theorem Ordered.final_once (ordered : Ordered letters w) {one other : Event} (first : one ∈ w.history) (second : other ∈ w.history)
    (differs : one ≠ other) (finals : one.final = true ∧ other.final = true) : one.item ≠ other.item := by
  have apart : w.history.Pairwise fun one other => one.final = true ∧ other.final = true → one.item ≠ other.item :=
    ordered.history.imp fun follows finals same => follows finals.1 same.symm
  have : Std.Symm fun one other : Event => one.final = true ∧ other.final = true → one.item ≠ other.item :=
    ⟨fun _ _ apart finals same => apart finals.symm same.symm⟩
  exact apart.forall first second differs finals

end Results

variable (letters)

/-- Over every run in which no worker crashes with an item in work and no item
that has been taken since is queued again. -/
theorem mailing_account (workers requests : Nat) (steps : List Step)
    (ok : Meets (step letters) (fun w a => admitted w a = true) (start workers requests) steps) :
    let w := run (step letters) (start workers requests) steps
    (w.history.Pairwise fun earlier later => ∀ id accepted,
        earlier = .handed id true ∨ earlier = .prepared id true → later ≠ .handed id accepted) ∧
      (∀ id, .prepared id true ∈ w.history → .handed id true ∉ w.history) ∧
      (∀ first a rest, steps = first ++ a :: rest → a.worker?.isSome = true →
        ∀ id item, (run (step letters) (start workers requests) first).items.get? id = some item →
          item.status = .delivered ∨ item.status = .bounced →
          (run (step letters) (start workers requests) (first ++ [a])).items.get? id = some item) ∧
      ((∀ phase ∈ w.workers, phase = .idle) → ∀ item ∈ w.items.rows, item.status.final = true ∨
        ∀ now, (∀ next ∈ item.nextAttemptAt, next ≤ now) → ∃ n, (World.drain { w with now } n).next = some item) := by
  intro w
  have preserved : ∀ w a, Ordered letters w → admitted w a = true → Ordered letters (step letters w a) :=
    fun w a ordered ok => ordered.stepped ok
  have ordered : Ordered letters w := run_induction (Ordered letters) preserved (start_ordered workers requests) ok
  refine ⟨?_, fun id listed accepted => ?_, fun first a rest split who id item atItem reported => ?_, fun idle item isItem => ?_⟩
  · refine ordered.history.imp fun {earlier later} follows id accepted isFinal again => ?_
    subst again
    rcases isFinal with rfl | rfl <;> exact follows rfl rfl
  · exact ordered.final_once listed accepted nofun ⟨rfl, rfl⟩ rfl
  · subst split
    have before : Ordered letters (run (step letters) (start workers requests) first) :=
      run_induction (Ordered letters) preserved (start_ordered workers requests) (meets_append.mp ok).1
    rw [run_append]
    exact before.reported who atItem reported
  · refine (ordered.settled idle isItem).imp_right fun queued now passed => ?_
    refine exists_drain isItem ?_
    rw [MailingQueueItem.due, queued, beq_self_eq_true, Bool.true_and, Option.all_eq_true]
    exact fun next is => decide_eq_true (passed next is)

theorem strip_strip (s : String) : strip (strip s) = strip s := by
  have same (text : List Char) : (List.rdropWhile isSpace (text.dropWhile isSpace)).dropWhile isSpace =
      List.rdropWhile isSpace (text.dropWhile isSpace) := by
    obtain ⟨rest, is⟩ := List.rdropWhile_prefix isSpace (text.dropWhile isSpace)
    cases kept : List.rdropWhile isSpace (text.dropWhile isSpace) with
    | nil => rfl
    | cons c more =>
      rw [kept, List.cons_append] at is
      have head := List.head?_dropWhile_not isSpace text
      rw [← is] at head
      rw [List.dropWhile_cons, if_neg (by rw [show isSpace c = false from head]; nofun)]
  have strips (s : String) : strip s = String.ofList (List.rdropWhile isSpace (s.toList.dropWhile isSpace)) := rfl
  rw [strips (strip s), strips s, String.toList_ofList, same, List.rdropWhile_idempotent]

def small : Lowering where
  lower := id
  lower_lower := fun _ => rfl
  strip_lower := strip_strip

def queued : List Step := [.createCampaign 1 none, .queueCampaign 1 ["a@x.at"], .prepare 0 []]

def delivered : List Step :=
  queued ++ [.build 0 (.ok { resend := true, smtp := false }), .send 0 (.accepted (some "m")), .finish 0,
    .webhook 1 "email.delivered" (some "m") false "evt"]

theorem mailing_account_delivered :
    (run (step small) (start 1 0) delivered).history = [.prepared 1 false, .handed 1 true] ∧
      .prepared 1 true ∉ (run (step small) (start 1 0) delivered).history := by
  have ok : Meets (step small) (fun w a => admitted w a = true) (start 1 0) delivered := by decide +kernel
  refine ⟨by decide +kernel, fun listed => ?_⟩
  exact (mailing_account small 1 0 delivered ok).2.1 1 listed (by decide +kernel)

/-- A worker that crashes after the commit leaves its item in `sending`: no one
selects it again. -/
theorem mailing_abandoned :
    ¬ ∀ (workers requests : Nat) (steps : List Step),
      let w := run (step small) (start workers requests) steps
      (∀ phase ∈ w.workers, phase = .idle) → ∀ item ∈ w.items.rows, item.status.final = true ∨
        ∀ now, (∀ next ∈ item.nextAttemptAt, next ≤ now) → ∃ n, (World.drain { w with now } n).next = some item := by
  intro law
  let w := run (step small) (start 1 0) (queued ++ [.crash 0])
  have idle : ∀ phase ∈ w.workers, phase = .idle := by decide +kernel
  obtain ⟨item, only⟩ : ∃ item, w.items.rows = [item] := List.length_eq_one_iff.mp (by decide +kernel)
  have status : ∀ item ∈ w.items.rows, item.status = .sending ∧ item.nextAttemptAt = some 0 := by decide +kernel
  have isItem : item ∈ w.items.rows := only ▸ List.mem_singleton_self item
  rcases law 1 0 _ idle item isItem with final | selected
  · rw [(status item isItem).1] at final
    cases final
  · obtain ⟨n, next⟩ := selected 0 fun next is => by
      rw [(status item isItem).2] at is
      exact le_of_eq (Option.some.inj is).symm
    have nothing : (World.drain { w with now := 0 } n).next = none := by
      have none : World.next { w with now := 0 } = none := by decide +kernel
      cases n with
      | zero => exact none
      | succ n => rw [World.drain, none]; exact none
    exact absurd (nothing.symm.trans next) nofun

end Einsatzcockpit.Mailing
