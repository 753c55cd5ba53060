import Einsatzcockpit.Lib.Custody
import Einsatzcockpit.Mailing.Queue

namespace Einsatzcockpit.Mailing

open Relational Transition Workers

variable {letters : Lowering}

def Event.final : Event → Bool
  | prepared _ listed => listed
  | handed _ accepted => accepted

def World.Final (w : World) (id : Nat) : Prop := ∃ event ∈ w.history, event.final = true ∧ event.item = id

/-- What holds of an item, together with the worker that has it in work. -/
structure Good (letters : Lowering) (w : World) (item : MailingQueueItem) : Prop where
  sending : item.status = .sending ↔ ∃ phase ∈ w.workers, item.id ∈ phase.items
  final : w.Final item.id → item.status ≠ .queued ∧ item.status ≠ .failed ∧
    ∀ phase ∈ w.workers, item.id ∈ phase.items → ∃ resendId fallback, phase = .result item.id resendId none fallback
  message : item.resendMessageId.isSome = true → item.status ≠ .queued ∧ item.status ≠ .sending ∧ item.status ≠ .failed
  email : letters.clean item.email = item.email

structure Ordered (letters : Lowering) (w : World) : Prop where
  separate : Separate Phase.items w.workers
  known : ∀ phase ∈ w.workers, ∀ id ∈ phase.items, ∃ item, w.items.get? id = some item
  result : ∀ id resendId error fallback, .result id resendId error fallback ∈ w.workers →
    resendId.isSome = true → error = none
  good : ∀ id item, w.items.get? id = some item → Good letters w item
  past : ∀ event ∈ w.history, ∃ item, w.items.get? event.item = some item
  listed : ∀ entry ∈ w.suppressions, letters.clean entry.email = entry.email
  history : w.history.Pairwise fun earlier later => earlier.final = true → later.item ≠ earlier.item

theorem Lowering.clean_clean (letters : Lowering) (email : String) : letters.clean (letters.clean email) = letters.clean email := by
  unfold Lowering.clean
  rw [letters.strip_lower, letters.lower_lower]

theorem Lowering.lower_clean (letters : Lowering) (email : String) : letters.lower (letters.clean email) = letters.clean email :=
  letters.lower_lower _

section Items

variable {w : World} {id : Nat} {item : MailingQueueItem}

section

variable (found : w.items.get? id = some item)
include found

theorem get?_suppressItem (reason : String) (other : Nat) :
    (w.suppressItem id reason).items.get? other =
      if other = id then
        some { item with status := .suppressed, errorMessage := some s!"Unterdrückt (Sperrliste, Grund: {reason})" }
      else w.items.get? other := by
  rw [World.suppressItem, Keyed.get?_modify_of_some found]

theorem get?_claimItem (other : Nat) :
    (w.claimItem id).items.get? other =
      if other = id then some { item with status := .sending, attemptCount := item.attemptCount + 1 }
      else w.items.get? other := by
  rw [World.claimItem, Keyed.get?_modify_of_some found]

theorem get?_setItemStatus (status : ItemStatus) (other : Nat) :
    (w.setItemStatus id status).items.get? other = if other = id then some { item with status } else w.items.get? other := by
  rw [World.setItemStatus, Keyed.get?_modify_of_some found]

theorem get?_finishItem (resendId error fallback : Option String) (other : Nat) :
    (w.finishItem id resendId error fallback).items.get? other =
      if other = id then some (World.finished w.now resendId error fallback item) else w.items.get? other := by
  rw [World.finishItem, found]
  exact Keyed.get?_modify_of_some found _ (fun _ => World.finished_id ..) other

end

end Items

section Steps

variable {w w' : World} {worker : Nat} {phase next : Phase}

theorem Good.congr {item : MailingQueueItem} (good : Good letters w item)
    (holds : ∀ phase, phase ∈ w'.workers ∧ item.id ∈ phase.items ↔ phase ∈ w.workers ∧ item.id ∈ phase.items)
    (final : w'.Final item.id → w.Final item.id) : Good letters w' item where
  sending := good.sending.trans (exists_congr fun phase => (holds phase).symm)
  final := fun isFinal => by
    obtain ⟨notQueued, notFailed, worker⟩ := good.final (final isFinal)
    exact ⟨notQueued, notFailed, fun phase member has =>
      have old := (holds phase).mp ⟨member, has⟩
      worker phase old.1 old.2⟩
  message := good.message
  email := good.email

section

variable (ordered : Ordered letters w)
include ordered

theorem Ordered.one {id : Nat} {item item' : MailingQueueItem}
    (reads : ∀ other, w'.items.get? other = if other = id then some item' else w.items.get? other)
    (found : w.items.get? id = some item)
    (holds : ∀ other ≠ id, ∀ phase, phase ∈ w'.workers ∧ other ∈ phase.items ↔ phase ∈ w.workers ∧ other ∈ phase.items)
    (separate : Separate Phase.items w'.workers)
    (result : ∀ id resendId error fallback, .result id resendId error fallback ∈ w'.workers → resendId.isSome = true → error = none)
    (news : Option Event) (history : w'.history = w.history ++ news.toList) (about : ∀ event ∈ news, event.item = id)
    (fresh : news.isSome = true → ¬ w.Final id)
    (listed : ∀ entry ∈ w'.suppressions, letters.clean entry.email = entry.email)
    (good : Good letters w' item') : Ordered letters w' := by
  have exists_ (other : Nat) (was : ∃ item, w.items.get? other = some item) : ∃ item, w'.items.get? other = some item := by
    obtain ⟨old, atOld⟩ := was
    rw [reads]
    split
    · exact ⟨item', rfl⟩
    · exact ⟨old, atOld⟩
  refine ⟨separate, fun phase member other has => ?_, result, fun other old atOther => ?_, fun event member => ?_, listed, ?_⟩
  · by_cases same : other = id
    · exact exists_ other ⟨item, same ▸ found⟩
    · have before := (holds other same phase).mp ⟨member, has⟩
      exact exists_ other (ordered.known phase before.1 other before.2)
  · rw [reads] at atOther
    split at atOther
    · rw [← Option.some.inj atOther]
      exact good
    · next differs =>
      have isOther : old.id = other := Keyed.key_of_get? atOther
      refine (ordered.good other old atOther).congr (fun phase => isOther ▸ holds other differs phase) ?_
      rintro ⟨event, member, isFinal, same⟩
      rw [history] at member
      rcases List.mem_append.mp member with old' | new
      · exact ⟨event, old', isFinal, same⟩
      · have isId := about event (Option.mem_toList.mp new)
        exact absurd (isOther.symm.trans (same.symm.trans isId)) differs
  · rw [history] at member
    rcases List.mem_append.mp member with old | new
    · exact exists_ _ (ordered.past event old)
    · rw [about event (Option.mem_toList.mp new)]
      exact exists_ id ⟨item, found⟩
  · rw [history]
    cases news with
    | none => simpa using ordered.history
    | some event =>
      have isId := about event rfl
      refine List.pairwise_append.mpr ⟨ordered.history, List.pairwise_singleton .., fun earlier member later new isFinal same => ?_⟩
      rw [Option.toList_some, List.mem_singleton] at new
      subst new
      exact fresh rfl ⟨earlier, member, isFinal, same.symm.trans isId⟩

theorem Ordered.aside (items : w'.items = w.items) (workers : w'.workers = w.workers)
    (history : w'.history = w.history) (listed : ∀ entry ∈ w'.suppressions, letters.clean entry.email = entry.email) :
    Ordered letters w' where
  separate := workers ▸ ordered.separate
  known := by rw [workers, items]; exact ordered.known
  result := workers ▸ ordered.result
  good := fun id item found => by
    rw [items] at found
    refine (ordered.good id item found).congr (fun phase => by rw [workers]) fun isFinal => ?_
    rwa [World.Final, history] at isFinal
  past := by rw [history, items]; exact ordered.past
  listed := listed
  history := history ▸ ordered.history

theorem Ordered.moves {id : Nat} (found : w.workers[worker]? = some phase)
    (mine : phase.items = [id]) (same : next.items = [id]) (working : ∀ resendId fallback, phase ≠ .result id resendId none fallback)
    (result : ∀ resendId error fallback, next = .result id resendId error fallback → resendId.isSome = true → error = none)
    (items : w'.items = w.items) (workers : w'.workers = w.workers.set worker next) (suppressions : w'.suppressions = w.suppressions)
    (news : Option Event) (history : w'.history = w.history ++ news.toList) (about : ∀ event ∈ news, event.item = id)
    (accepted : ∀ event ∈ news, event.final = true → ∃ resendId fallback, next = .result id resendId none fallback) :
    Ordered letters w' := by
  have isPhase := List.mem_of_getElem? found
  have has : id ∈ phase.items := mine ▸ List.mem_singleton_self id
  obtain ⟨item, atItem⟩ := ordered.known phase isPhase id has
  have key : item.id = id := Keyed.key_of_get? atItem
  have good := ordered.good id item atItem
  have fresh : ¬ w.Final id := fun isFinal => by
    obtain ⟨-, -, worker⟩ := good.final (key.symm ▸ isFinal)
    obtain ⟨resendId, fallback, is⟩ := worker phase isPhase (key.symm ▸ has)
    exact working resendId fallback (key ▸ is)
  have separate : Separate Phase.items w'.workers := by
    rw [workers]
    exact ordered.separate.set_sublist found (by rw [same, mine])
  have inside : next ∈ w'.workers := workers ▸ mem_set_self found
  refine ordered.one (fun other => ?_) atItem (fun other differs phase => ?_) separate (fun id' resendId error fallback member => ?_)
    news history about (fun _ => fresh) (suppressions ▸ ordered.listed) ⟨?_, fun isFinal => ?_, good.message, good.email⟩
  · rw [items]
    split
    · next isId => rw [isId, atItem]
    · rfl
  · have apart : other ∉ [id] := fun member => differs (List.mem_singleton.mp member)
    rw [workers]
    exact mem_set_iff found (mine ▸ apart) (same ▸ apart) phase
  · rw [workers] at member
    rcases List.mem_or_eq_of_mem_set member with old | is
    · exact ordered.result id' resendId error fallback old
    · have isId : id' = id := by simpa [← is, Phase.items] using same
      subst isId
      exact result resendId error fallback is.symm
  · exact ⟨fun _ => ⟨next, inside, by rw [same, key]; exact List.mem_singleton_self id⟩,
      fun _ => good.sending.mpr ⟨phase, isPhase, key.symm ▸ has⟩⟩
  · have status := good.sending.mpr ⟨phase, isPhase, key.symm ▸ has⟩
    refine ⟨by rw [status]; nofun, by rw [status]; nofun, fun other member holds => ?_⟩
    have only : other = next := by
      rw [workers] at member
      rcases ordered.separate.of_mem_set found member with is | ⟨-, apart⟩
      · exact is
      · exact absurd (key ▸ holds) (apart id has)
    obtain ⟨event, member', final, about'⟩ := isFinal
    rw [history] at member'
    rcases List.mem_append.mp member' with old | new
    · exact absurd ⟨event, old, final, about'.trans key⟩ fresh
    · rw [only, key]
      exact accepted event (Option.mem_toList.mp new) final

theorem Ordered.prepare (found : w.workers[worker]? = some .idle) (locked : List Nat) :
    Ordered letters (w.prepareItem letters worker locked) := by
  unfold World.prepareItem
  split
  · exact ordered
  · next item chosen =>
    have isItem := List.mem_of_find?_eq_some chosen
    have queued : item.status = .queued := by
      have due := List.find?_some chosen
      simp only [MailingQueueItem.due, Bool.and_eq_true, beq_iff_eq] at due
      exact due.1.1
    have atItem : w.items.get? item.id = some item := Keyed.get?_of_mem isItem
    have good := ordered.good item.id item atItem
    have nobody : ∀ phase ∈ w.workers, item.id ∉ phase.items := fun phase member has =>
      absurd (queued.symm.trans (good.sending.mpr ⟨phase, member, has⟩)) nofun
    have fresh : ¬ w.Final item.id := fun isFinal => (good.final isFinal).1 queued
    have clean : letters.clean item.email = letters.lower item.email := by
      rw [← letters.lower_clean, good.email]
    split
    · next entry hit =>
      refine ordered.one (get?_suppressItem atItem entry.reason) atItem (fun _ _ _ => Iff.rfl) ordered.separate ordered.result
        (some (.prepared item.id (w.listed letters item))) rfl (fun event is => by cases is; rfl)
        (fun _ => fresh) ordered.listed ⟨?_, fun _ => ?_, fun has => ?_, good.email⟩
      · exact ⟨nofun, fun ⟨phase, member, has⟩ => absurd has (nobody phase member)⟩
      · exact ⟨nofun, nofun, fun phase member has => absurd has (nobody phase member)⟩
      · exact ⟨nofun, nofun, nofun⟩
    · next clear =>
      have unlisted : w.listed letters item = false := by
        rw [World.listed, Bool.eq_false_iff]
        intro some_
        obtain ⟨entry, isEntry, same⟩ := List.any_eq_true.mp some_
        rw [ordered.listed entry isEntry, clean] at same
        exact List.find?_eq_none.mp clear entry isEntry same
      have inside : Phase.prepared item.id ∈ w.workers.set worker (.prepared item.id) := mem_set_self found
      refine ordered.one (get?_claimItem atItem) atItem (fun other differs phase => ?_)
        (ordered.separate.set_free found (List.nodup_singleton _) ?_) (fun id resendId error fallback member => ?_)
        (some (.prepared item.id (w.listed letters item))) rfl (fun event is => by cases is; rfl)
        (fun _ => fresh) ordered.listed ⟨?_, fun isFinal => ?_, fun has => ?_, good.email⟩
      · exact mem_set_iff found List.not_mem_nil (fun member => differs (List.mem_singleton.mp member)) phase
      · intro other member id mine
        rw [List.mem_singleton.mp mine]
        exact nobody other member
      · rcases List.mem_or_eq_of_mem_set member with old | is
        · exact ordered.result id resendId error fallback old
        · cases is
      · exact ⟨fun _ => ⟨_, inside, List.mem_singleton_self _⟩, fun _ => rfl⟩
      · obtain ⟨event, member, final, about⟩ := isFinal
        rcases List.mem_append.mp member with old | new
        · exact absurd ⟨event, old, final, about⟩ fresh
        · rw [List.mem_singleton.mp new, unlisted] at final
          cases final
      · exact absurd queued (good.message has).1

theorem Ordered.send (found : w.workers[worker]? = some phase) (answer : Answer) :
    Ordered letters (send w worker phase answer) := by
  cases phase with
  | idle | prepared id | result id resendId error fallback => exact ordered
  | ready id transport =>
    simp only [Mailing.send]
    split
    · cases answer with
      | accepted resendId =>
        exact ordered.moves found rfl rfl nofun (fun _ _ _ is _ => by cases is; rfl) rfl rfl rfl (some (.handed id true)) rfl
          (fun _ is => by cases is; rfl) (fun _ _ _ => ⟨resendId, none, rfl⟩)
      | raised exc mailError =>
        refine ordered.moves found rfl ?_ nofun ?_ rfl rfl rfl (some (.handed id false)) rfl
          (fun _ is => by cases is; rfl) (fun _ is final => by cases is; cases final)
        · split <;> rfl
        · intro resendId error fallback is some_
          split at is <;> cases is
          cases some_
    · split
      · cases answer with
        | accepted resendId =>
          exact ordered.moves found rfl rfl nofun (fun _ _ _ is _ => by cases is; rfl) rfl rfl rfl (some (.handed id true)) rfl
            (fun _ is => by cases is; rfl) (fun _ _ _ => ⟨none, none, rfl⟩)
        | raised exc mailError =>
          exact ordered.moves found rfl rfl nofun (fun _ _ _ is some_ => by cases is; cases some_) rfl rfl rfl
            (some (.handed id false)) rfl (fun _ is => by cases is; rfl) (fun _ is final => by cases is; cases final)
      · exact ordered.moves found rfl rfl nofun (fun _ _ _ is some_ => by cases is; cases some_) rfl rfl rfl
          none (List.append_nil _).symm nofun nofun
  | fallback id exc =>
    cases answer with
    | accepted resendId =>
      exact ordered.moves found rfl rfl nofun (fun _ _ _ is _ => by cases is; rfl) rfl rfl rfl (some (.handed id true)) rfl
        (fun _ is => by cases is; rfl) (fun _ _ _ => ⟨none, _, rfl⟩)
    | raised smtpExc mailError =>
      exact ordered.moves found rfl rfl nofun (fun _ _ _ is some_ => by cases is; cases some_) rfl rfl rfl
        (some (.handed id false)) rfl (fun _ is => by cases is; rfl) (fun _ is final => by cases is; cases final)

theorem Ordered.build {id : Nat} (found : w.workers[worker]? = some (.prepared id))
    (same : next.items = [id]) (result : ∀ resendId error fallback, next = .result id resendId error fallback → resendId = none) :
    Ordered letters (w.setPhase worker next) :=
  ordered.moves found rfl same nofun (fun resendId error fallback is some_ => by rw [result _ _ _ is] at some_; cases some_)
    rfl rfl rfl none (List.append_nil _).symm nofun nofun

end

section Finished

variable (now : Zeit) (resendId error fallback : Option String) (item : MailingQueueItem)

theorem finished_sent : (World.finished now resendId none fallback item).status = .sent := rfl

theorem finished_status : (World.finished now resendId error fallback item).status ≠ .sending := by
  intro same
  cases error with
  | none => cases same
  | some error =>
    simp only [World.finished] at same
    split at same <;> cases same

theorem finished_email : (World.finished now resendId error fallback item).email = item.email := by
  cases error with
  | none => rfl
  | some error =>
    simp only [World.finished]
    split <;> rfl

theorem finished_message :
    (World.finished now resendId error fallback item).resendMessageId = resendId.or item.resendMessageId := by
  cases error with
  | none => rfl
  | some error =>
    simp only [World.finished]
    split <;> rfl

end Finished

theorem Ordered.finish (ordered : Ordered letters w) {id : Nat} {resendId error fallback : Option String}
    (found : w.workers[worker]? = some (.result id resendId error fallback)) :
    Ordered letters ((w.finishItem id resendId error fallback).setPhase worker .idle) := by
  have isPhase := List.mem_of_getElem? found
  obtain ⟨item, atItem⟩ := ordered.known _ isPhase id (List.mem_singleton_self id)
  have key : item.id = id := Keyed.key_of_get? atItem
  have good := ordered.good id item atItem
  have sending : item.status = .sending := good.sending.mpr ⟨_, isPhase, List.mem_singleton.mpr key⟩
  have workers : ((w.finishItem id resendId error fallback).setPhase worker .idle).workers = w.workers.set worker .idle := by
    simp only [World.finishItem, atItem, World.setPhase, World.updateCampaignCounts]
  have history : ((w.finishItem id resendId error fallback).setPhase worker .idle).history = w.history := by
    simp only [World.finishItem, atItem, World.setPhase, World.updateCampaignCounts]
  have suppressions : ((w.finishItem id resendId error fallback).setPhase worker .idle).suppressions = w.suppressions := by
    simp only [World.finishItem, atItem, World.setPhase, World.updateCampaignCounts]
  have released : ∀ phase ∈ w.workers.set worker .idle, id ∉ phase.items := fun phase member => by
    rcases ordered.separate.of_mem_set found member with rfl | ⟨-, apart⟩
    · exact List.not_mem_nil
    · exact apart id (List.mem_singleton_self id)
  have still : (World.finished w.now resendId error fallback item).id = id := (World.finished_id ..).trans key
  refine ordered.one (get?_finishItem atItem resendId error fallback) atItem (fun other differs phase => ?_) ?_
    (fun id' resendId' error' fallback' member => ?_) none (history.trans (List.append_nil _).symm) nofun nofun
    (suppressions ▸ ordered.listed) ⟨?_, fun isFinal => ?_, fun has => ?_, ?_⟩
  · rw [workers]
    exact mem_set_iff found (fun member => differs (List.mem_singleton.mp member)) List.not_mem_nil phase
  · rw [workers]
    exact ordered.separate.set_sublist found (List.nil_sublist _)
  · rw [workers] at member
    rcases List.mem_or_eq_of_mem_set member with old | is
    · exact ordered.result id' resendId' error' fallback' old
    · cases is
  · refine ⟨fun is => absurd is (finished_status _ _ _ _ _), fun ⟨phase, member, has⟩ => ?_⟩
    rw [workers] at member
    exact absurd (still ▸ has) (released phase member)
  · obtain ⟨-, -, worker⟩ := good.final (by rw [World.Final, history, still, ← key] at isFinal; exact isFinal)
    obtain ⟨resendId', fallback', is⟩ := worker _ isPhase (List.mem_singleton.mpr key)
    cases is
    rw [finished_sent]
    refine ⟨nofun, nofun, fun phase member has => ?_⟩
    rw [workers] at member
    exact absurd (still ▸ has) (released phase member)
  · cases resendId with
    | some message =>
      rw [ordered.result id (some message) error fallback isPhase rfl, finished_sent]
      exact ⟨nofun, nofun, nofun⟩
    | none =>
      rw [finished_message, Option.none_or] at has
      exact absurd sending (good.message has).2.1
  · rw [finished_email]
    exact good.email

end Steps

end Einsatzcockpit.Mailing
