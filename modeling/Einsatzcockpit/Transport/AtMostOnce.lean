import Einsatzcockpit.Transport.Tables

namespace Einsatzcockpit.Transport

/-- What a call knows of the row it has read: the row of this key still has the
columns that were read, `state` and `error` apart. -/
structure Reads (messages : List Message) (itemIds : List String) (delivery : Delivery) (item : Message) : Prop where
  id : item.id = delivery.itemId
  worker : item.workerId = delivery.worker
  known : item.id ∈ itemIds
  same : ∀ row ∈ messages, row.id = item.id → row.origin = item.origin

/-- What a positive check under the row lock vouches for until the commit. -/
structure Checked (gateways : List Gateway) (item : Message) (socket : LocalSocket) (checked now : Zeit) : Prop where
  unexpired : now < item.expiresAt
  current : ∃ row ∈ gateways, Presence.Current socket.connection socket.tokenHash row ∧
    Presence.online checked row = true

def Delivery.Sound (w : World) (delivery : Delivery) : Prop :=
  match delivery.phase with
  | .read item => Reads w.messages w.itemIds delivery item
  | .found item socket | .claimed item socket | .sent item socket =>
    Reads w.messages w.itemIds delivery item ∧ socket.connection.socketKey = item.socketKey
  | .locked item socket held checked now valid =>
    (Reads w.messages w.itemIds delivery item ∧ socket.connection.socketKey = item.socketKey) ∧
      (valid = true → held = true ∧ Checked w.gateways item socket checked now)
  | .called _ | .failed _ | .ended _ | .done => True

/-- Every call is sound, the primary keys are unique and every uuid in use was drawn. -/
structure World.Sound (w : World) : Prop where
  keys : (w.gateways.map Gateway.key).Nodup
  ids : (w.messages.map Message.id).Nodup
  known : ∀ row ∈ w.messages, row.id ∈ w.itemIds
  named : ∀ row ∈ w.gateways, ∀ id, row.connectionId = some id → id ∈ w.drawn
  calls : ∀ delivery ∈ w.deliveries, delivery.Sound w

variable {w w' : World} {delivery : Delivery} {item : Message}

theorem Reads.grow (reads : Reads w.messages w.itemIds delivery item) (moved : MessagesStep w w'.messages w'.itemIds) :
    Reads w'.messages w'.itemIds delivery item where
  id := reads.id
  worker := reads.worker
  known := moved.grows reads.known
  same := by
    intro row member same
    rcases moved.row member with ⟨old, inside, origin, -⟩ | fresh
    · have ids : old.id = item.id := (id_of_origin origin).trans same
      exact origin.symm.trans (reads.same old inside ids)
    · exact absurd (same ▸ reads.known) fresh

theorem Reads.phase {messages : List Message} {itemIds : List String} (reads : Reads messages itemIds delivery item)
    (phase : Phase) : Reads messages itemIds { delivery with phase := phase } item :=
  ⟨reads.id, reads.worker, reads.known, reads.same⟩

theorem locked_of_mem (member : delivery ∈ w.deliveries) {key : Key} (holds : delivery.phase.lock = some key) :
    w.locked key = true :=
  List.any_eq_true.mpr ⟨delivery, member, beq_iff_eq.mpr holds⟩

theorem Delivery.Sound.grow (sound : delivery.Sound w) (member : delivery ∈ w.deliveries)
    (messages : MessagesStep w w'.messages w'.itemIds)
    (gateways : ∀ row ∈ w.gateways, w.locked row.key = true → row ∈ w'.gateways) : delivery.Sound w' := by
  unfold Delivery.Sound at sound ⊢
  cases phase : delivery.phase with
  | read item =>
    rw [phase] at sound
    exact sound.grow messages
  | found item socket | claimed item socket | sent item socket =>
    rw [phase] at sound
    exact ⟨sound.1.grow messages, sound.2⟩
  | locked item socket held checked now valid =>
    rw [phase] at sound
    refine ⟨⟨sound.1.1.grow messages, sound.1.2⟩, fun isValid => ?_⟩
    obtain ⟨isHeld, unexpired, row, inside, current, online⟩ := sound.2 isValid
    subst isHeld
    have holds : delivery.phase.lock = some row.key := by
      rw [phase, Presence.key_of_addressed current.addressed]
      rfl
    exact ⟨rfl, unexpired, row, gateways row inside (locked_of_mem member holds), current, online⟩
  | called | failed | ended | done => trivial

theorem readQueued_spec {worker itemId : String} (queued : readQueued worker itemId w.messages = some item) :
    item ∈ w.messages ∧ item.id = itemId ∧ item.workerId = worker ∧ item.state = .queued := by
  have hit := List.find?_some queued
  simp only [Bool.and_eq_true, beq_iff_eq] at hit
  exact ⟨List.mem_of_find?_eq_some queued, hit.1.1, hit.1.2, hit.2⟩

theorem socket?_spec {worker : String} {socket : LocalSocket} (attached : w.socket? worker item = some socket) :
    socket.connection.socketKey = item.socketKey := by
  obtain ⟨⟨owner, other⟩, found, rfl⟩ := Option.map_eq_some_iff.mp attached
  have hit := List.find?_some found
  simp only [Bool.and_eq_true, beq_iff_eq] at hit
  exact hit.2

theorem World.Sound.reads (sound : w.Sound) {worker itemId : String} {phase : Phase}
    (queued : readQueued worker itemId w.messages = some item) :
    Reads w.messages w.itemIds ⟨worker, itemId, phase⟩ item := by
  obtain ⟨member, id, owner, -⟩ := readQueued_spec queued
  refine ⟨id, owner, sound.known item member, fun row inside same => ?_⟩
  rw [List.inj_on_of_nodup_map sound.ids inside member same]

theorem Advance.sound {outcome : Outcome} {phase : Phase} (moved : Advance outcome delivery w w' phase)
    (sound : w.Sound) (member : delivery ∈ w.deliveries) : ({ delivery with phase := phase } : Delivery).Sound w' := by
  have messages := moved.messages
  have own := sound.calls delivery member
  unfold Delivery.Sound at own
  cases moved with
  | read called queued => exact sound.reads queued
  | found read attached =>
    rw [read] at own
    exact ⟨own.phase _, socket?_spec attached⟩
  | @locked item socket c found connection free =>
    rw [found] at own
    refine ⟨⟨own.1.phase _, own.2⟩, fun valid => ?_⟩
    simp only [Bool.and_eq_true, beq_iff_eq, decide_eq_true_eq] at valid
    obtain ⟨row, read, inside, addressed, authenticated, token, named, online⟩ := Presence.state_connected valid.1
    subst connection
    exact ⟨by rw [read]; rfl, valid.2, row, inside, ⟨addressed, authenticated, token, named⟩, online⟩
  | @changed item socket held valid checked now phase locked next =>
    rw [locked] at own
    by_cases hit : (w.messages.any (claims delivery.itemId socket.connection) && valid) = true
    · rw [if_pos hit] at next
      subst next
      exact ⟨(own.1.1.grow messages).phase _, own.1.2⟩
    · rw [if_neg hit] at next
      subst next
      trivial
  | sent claimed =>
    rw [claimed] at own
    exact ⟨(own.1.grow messages).phase _, own.2⟩
  | finished sent result next => rcases next with rfl | rfl <;> trivial
  | stopped | ended | detached => trivial

theorem step_delivery (action : Action) {after : Delivery} (member : after ∈ (step w action).deliveries) :
    after ∈ w.deliveries ∨ (∃ address, after.phase = .called address) ∨ after.phase = .done ∨
      ∃ call outcome before w', action = .advance call outcome ∧ before ∈ w.deliveries ∧
        Advance outcome before w w' after.phase ∧ after = { before with phase := after.phase } ∧
        step w action = { w' with deliveries := (step w action).deliveries } := by
  cases action with
  | «begin» | create | enqueue =>
    simp only [step] at member
    split at member <;> exact .inl member
  | touch | «end» | administer | remove =>
    simp only [step, World.setPresence] at member
    split at member <;> exact .inl member
  | attach | detach | cancel | purge => exact .inl member
  | deliver worker itemId address =>
    rcases List.mem_append.mp member with old | new
    · exact .inl old
    · rw [List.mem_singleton.mp new]
      exact .inr (.inl ⟨address, rfl⟩)
  | advance call outcome =>
    simp only [step] at member ⊢
    split at member
    · exact .inl member
    · next before found =>
      split at member
      · exact .inl member
      · next w' phase moved =>
        have cases := advance_cases moved
        rcases List.mem_or_eq_of_mem_set member with old | new
        · exact .inl (cases.deliveries ▸ old)
        · refine .inr (.inr (.inr ⟨call, outcome, before, w', rfl, List.mem_of_getElem? found, ?_, ?_, ?_⟩))
          · rw [new]
            exact cases
          · rw [new]
          · rfl
  | drop call =>
    simp only [step] at member
    split at member
    · exact .inl member
    · rcases List.mem_or_eq_of_mem_set member with old | new
      · exact .inl old
      · exact .inr (.inr (.inl (by rw [new])))
  | die worker =>
    obtain ⟨before, inside, rfl⟩ := List.mem_map.mp member
    split
    · exact .inr (.inr (.inl rfl))
    · exact .inl inside

theorem Delivery.sound_called {address : Option Address} (called : delivery.phase = .called address) : delivery.Sound w := by
  rw [Delivery.Sound, called]
  trivial

theorem Delivery.sound_done (done : delivery.phase = .done) : delivery.Sound w := by
  rw [Delivery.Sound, done]
  trivial

theorem World.Sound.step (sound : w.Sound) (action : Action) : (step w action).Sound where
  keys := (step_gateways action).keys sound.keys
  ids := (step_messages action).ids sound.ids sound.known
  known := (step_messages action).known sound.known
  named := by
    intro row member id named
    have moved : GatewaysStep w (Transport.step w action).gateways (Transport.step w action).drawn := step_gateways action
    rcases moved.named member named with ⟨old, inside, -, before⟩ | ⟨-, drawn⟩
    · exact moved.grows (sound.named old inside id before)
    · exact drawn
  calls := by
    intro after member
    rcases step_delivery action member with old | ⟨address, called⟩ | done |
      ⟨call, outcome, before, w', rfl, inside, moved, same, world⟩
    · exact (sound.calls after old).grow old (step_messages action) fun row => step_locked_row action
    · exact Delivery.sound_called called
    · exact Delivery.sound_done done
    · rw [world, same]
      exact moved.sound sound inside

theorem World.Sound.run (sound : w.Sound) (actions : List Action) : (run w actions).Sound :=
  Transition.run_invariant World.Sound (fun _ action held => held.step action) sound actions

end Einsatzcockpit.Transport

namespace Einsatzcockpit.Transport

def Phase.claim : Phase → Option String
  | .claimed item _ => some item.id
  | _ => none

section

variable (item : Message) (socket : LocalSocket)
include item socket

@[simp] theorem Phase.claim_claimed :
    (Phase.claimed item socket).claim = some item.id := rfl

@[simp] theorem Phase.claim_sent : (Phase.sent item socket).claim = none := rfl

@[simp] theorem Phase.claim_locked (held : Bool) (checked now : Zeit)
    (valid : Bool) : (Phase.locked item socket held checked now valid).claim = none := rfl

end

def World.spent (w : World) (id : String) : Nat :=
  w.written.countP (·.item.id == id) + w.deliveries.countP (·.phase.claim == some id)

def World.Left (w : World) (id : String) : Prop :=
  id ∈ w.itemIds ∧ ∀ row ∈ w.messages, row.id = id → row.state ≠ .queued

def World.Once (w : World) : Prop :=
  ∀ id, w.spent id ≤ 1 ∧ (0 < w.spent id → w.Left id)

variable {w w' : World} {delivery : Delivery} {item : Message} {socket : LocalSocket}

def World.Takes (w w' : World) (id : String) : Prop :=
  (∃ row ∈ w.messages, row.id = id ∧ row.state = .queued) ∧ ∀ row ∈ w'.messages, row.id = id → row.state ≠ .queued

theorem claims_reads (reads : Reads w.messages w.itemIds delivery item) {c : Connection} {row other : Message}
    (member : row ∈ w.messages) (inside : other ∈ w.messages) (hit : claims delivery.itemId c row = true)
    (same : other.id = item.id) (queued : other.state = .queued) : claims delivery.itemId c other = true := by
  simp only [claims, Bool.and_eq_true, beq_iff_eq] at hit ⊢
  obtain ⟨⟨⟨⟨id, org⟩, -⟩, worker⟩, connection⟩ := hit
  have origin : other.origin = row.origin :=
    (reads.same other inside same).trans (reads.same row member (id.trans reads.id.symm)).symm
  have orgs : other.origin.orgId = row.origin.orgId := by rw [origin]
  have workers : other.origin.workerId = row.origin.workerId := by rw [origin]
  have connections : other.origin.connectionId = row.origin.connectionId := by rw [origin]
  exact ⟨⟨⟨⟨same.trans reads.id, orgs.trans org⟩, queued⟩, workers.trans worker⟩, connections.trans connection⟩

theorem takes_of_changed (reads : Reads w.messages w.itemIds delivery item) {c : Connection} {state : MessageState}
    (left : state ≠ .queued) (any : w.messages.any (claims delivery.itemId c) = true) :
    w.Takes { w with
      messages := Relational.update (claims delivery.itemId c) (fun row => { row with state := state }) w.messages }
      item.id := by
  obtain ⟨row, member, hit⟩ := List.any_eq_true.mp any
  have columns := hit
  simp only [claims, Bool.and_eq_true, beq_iff_eq] at columns
  refine ⟨⟨row, member, columns.1.1.1.1.trans reads.id.symm, columns.1.1.2⟩, ?_⟩
  intro after inside same queued
  obtain ⟨before, old, rfl⟩ := Relational.mem_update.mp inside
  split at queued
  · exact left queued
  · next missed =>
    rw [if_neg missed] at same
    exact missed (claims_reads reads member old hit same queued)

theorem spent_unclaimed {phase : Phase} {call : Nat} (found : w.deliveries[call]? = some delivery)
    (written : w'.written = w.written) (deliveries : w'.deliveries = w.deliveries) (unclaimed : phase.claim = none)
    (id : String) :
    World.spent { w' with deliveries := w'.deliveries.set call { delivery with phase := phase } } id ≤ w.spent id := by
  have counted : (w.deliveries.set call { delivery with phase := phase }).countP (·.phase.claim == some id) +
      (if delivery.phase.claim == some id then 1 else 0) =
      w.deliveries.countP (·.phase.claim == some id) + (if phase.claim == some id then 1 else 0) :=
    Relational.countP_set found
  simp only [unclaimed, Option.none_beq_some, Bool.false_eq_true, if_false] at counted
  simp only [World.spent, written, deliveries]
  omega

theorem Advance.spent {outcome : Outcome} {phase : Phase} {call : Nat} {after : World}
    (moved : Advance outcome delivery w w' phase) (found : w.deliveries[call]? = some delivery)
    (sound : delivery.Sound w)
    (next : after = { w' with deliveries := w'.deliveries.set call { delivery with phase := phase } }) (id : String) :
    after.spent id ≤ w.spent id ∨ after.spent id = w.spent id + 1 ∧ w.Takes after id := by
  subst next
  have counted : (w.deliveries.set call { delivery with phase := phase }).countP (·.phase.claim == some id) +
      (if delivery.phase.claim == some id then 1 else 0) =
      w.deliveries.countP (·.phase.claim == some id) + (if phase.claim == some id then 1 else 0) :=
    Relational.countP_set found
  cases moved with
  | @changed item socket held valid checked now _ locked next =>
    by_cases hit : (w.messages.any (claims delivery.itemId socket.connection) && valid) = true
    · rw [if_pos hit] at next
      subst next
      simp only [locked, Phase.claim_locked, Phase.claim_claimed, Option.none_beq_some, Bool.false_eq_true, if_false] at counted
      by_cases own : item.id = id
      · refine .inr ⟨?_, ?_⟩
        · simp only [own, beq_self_eq_true, if_true] at counted
          simp only [World.spent]
          omega
        · unfold Delivery.Sound at sound
          rw [locked] at sound
          obtain ⟨any, isValid⟩ := Bool.and_eq_true_iff.mp hit
          subst own isValid
          exact takes_of_changed sound.1.1 (by simp) any
      · have other : (some item.id == some id) = false := by simpa using own
        simp only [other, Bool.false_eq_true, if_false] at counted
        refine .inl ?_
        simp only [World.spent]
        omega
    · rw [if_neg hit] at next
      subst next
      exact .inl (spent_unclaimed found rfl rfl rfl id)
  | @sent item socket claimed =>
    refine .inl ?_
    simp only [claimed, Phase.claim_claimed, Phase.claim_sent, Option.none_beq_some, Option.some_beq_some,
      Bool.false_eq_true, if_false] at counted
    simp only [World.spent, List.countP_append, List.countP_singleton]
    omega
  | finished sent result next =>
    rcases next with rfl | rfl
    · exact .inl (spent_unclaimed found rfl rfl rfl id)
    · exact .inl (spent_unclaimed found rfl rfl rfl id)
  | stopped | read | found | locked | ended | detached => exact .inl (spent_unclaimed found rfl rfl rfl id)

theorem spent_congr (written : w'.written = w.written) (deliveries : w'.deliveries = w.deliveries) (id : String) :
    w'.spent id = w.spent id := by
  rw [World.spent, World.spent, written, deliveries]

theorem step_spent (sound : w.Sound) (action : Action) (id : String) :
    (step w action).spent id ≤ w.spent id ∨
      (step w action).spent id = w.spent id + 1 ∧ w.Takes (step w action) id := by
  cases action with
  | «begin» | create | enqueue =>
    simp only [step]
    split <;> exact .inl (le_of_eq (spent_congr rfl rfl id))
  | touch | «end» | administer | remove =>
    simp only [step, World.setPresence]
    split <;> exact .inl (le_of_eq (spent_congr rfl rfl id))
  | attach | detach | cancel | purge => exact .inl (le_of_eq (spent_congr rfl rfl id))
  | deliver worker itemId address =>
    refine .inl (le_of_eq ?_)
    simp [step, World.spent, Phase.claim]
  | advance call outcome =>
    simp only [step]
    split
    · exact .inl le_rfl
    · next delivery found =>
      split
      · exact .inl le_rfl
      · next moved =>
        exact (advance_cases moved).spent found (sound.calls delivery (List.mem_of_getElem? found)) rfl id
  | drop call =>
    simp only [step]
    split
    · exact .inl le_rfl
    · next delivery found => exact .inl (spent_unclaimed found rfl rfl rfl id)
  | die worker =>
    refine .inl (Nat.add_le_add_left ?_ _)
    simp only [step, List.countP_map]
    refine List.countP_mono_left fun delivery _ claimed => ?_
    simp only [Function.comp_apply] at claimed
    split at claimed
    · cases claimed
    · exact claimed

theorem World.Left.step {id : String} (left : w.Left id) (action : Action) : (step w action).Left id := by
  have moved : MessagesStep w (Transport.step w action).messages (Transport.step w action).itemIds := step_messages action
  obtain ⟨known, unqueued⟩ := left
  refine ⟨moved.grows known, fun row member same queued => ?_⟩
  rcases moved.row member with ⟨old, inside, origin, before⟩ | fresh
  · exact unqueued old inside ((id_of_origin origin).trans same) (before queued)
  · exact fresh (same ▸ known)

theorem World.Left.run {id : String} (left : w.Left id) (actions : List Action) : (run w actions).Left id :=
  Transition.run_invariant (World.Left · id) (fun _ action held => World.Left.step held action) left actions

theorem World.Once.step (once : w.Once) (sound : w.Sound) (action : Action) : (step w action).Once := by
  intro id
  obtain ⟨atMost, left⟩ := once id
  rcases step_spent sound action id with fewer | ⟨more, ⟨row, member, same, queued⟩, gone⟩
  · exact ⟨fewer.trans atMost, fun positive => (left (by omega)).step action⟩
  · -- the row was queued, so nobody had taken it
    have unspent : w.spent id = 0 := by
      by_contra spent
      exact (left (Nat.pos_of_ne_zero spent)).2 row member same queued
    exact ⟨by omega, fun _ => ⟨(step_messages action).grows (same ▸ sound.known row member), gone⟩⟩

end Einsatzcockpit.Transport
