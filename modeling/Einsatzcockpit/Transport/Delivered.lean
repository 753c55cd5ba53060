import Einsatzcockpit.Transport.AtMostOnce

namespace Einsatzcockpit.Transport

def World.gateway? (w : World) (key : Key) : Option Gateway :=
  w.gateways.find? fun row => row.key == key

def World.Took (w : World) (entry : Write) : Prop :=
  entry ∈ w.written ∨ ∃ delivery ∈ w.deliveries, delivery.worker = entry.worker ∧ delivery.phase = .claimed entry.item entry.socket

/-- The step in which a row leaves 'queued' for a socket. The call of the
socket's worker holds the row of the gateway, which it found to be online; in
this row, before and after the step, the socket's connection and token are the
gateway's own, and they are those the transport row is addressed to. -/
structure LeavesQueue (w w' : World) (entry : Write) : Prop where
  queued : ∃ row ∈ w.messages, row.origin = entry.item.origin ∧ row.state = .queued
  sending : ∃ row ∈ w'.messages, row.origin = entry.item.origin ∧ row.state = .sending
  addressed : entry.socket.connection.socketKey = entry.item.socketKey
  owner : entry.item.workerId = entry.worker ∧ entry.socket.connection.workerId = entry.worker
  current : ∃ row checked now,
    (⟨entry.worker, entry.item.id, .locked entry.item entry.socket true checked now true⟩ : Delivery) ∈ w.deliveries ∧
    w.gateway? (keyOf entry.item.gatewayKind entry.item.gatewayId) = some row ∧
    w'.gateway? (keyOf entry.item.gatewayKind entry.item.gatewayId) = some row ∧
    Presence.Current entry.socket.connection entry.socket.tokenHash row ∧ Presence.online checked row = true ∧
    now < entry.item.expiresAt

variable {w w' : World} {entry : Write}

theorem Advance.written {outcome : Outcome} {delivery : Delivery} {phase : Phase}
    (moved : Advance outcome delivery w w' phase) (member : entry ∈ w'.written) :
    entry ∈ w.written ∨ delivery.worker = entry.worker ∧ delivery.phase = .claimed entry.item entry.socket := by
  cases moved with
  | sent claimed =>
    rcases List.mem_append.mp member with old | new
    · exact .inl old
    · rw [List.mem_singleton.mp new]
      exact .inr ⟨rfl, claimed⟩
  | stopped | read | found | locked | changed | finished | ended | detached => exact .inl member

theorem step_written (action : Action) (member : entry ∈ (step w action).written) : w.Took entry := by
  cases action with
  | «begin» | create | enqueue | drop =>
    simp only [step] at member
    split at member <;> exact .inl member
  | touch | «end» | administer | remove =>
    simp only [step, World.setPresence] at member
    split at member <;> exact .inl member
  | attach | detach | cancel | purge | deliver | die => exact .inl member
  | advance call outcome =>
    simp only [step] at member
    split at member
    · exact .inl member
    · next delivery found =>
      split at member
      · exact .inl member
      · next moved =>
        rcases (advance_cases moved).written member with old | ⟨worker, claimed⟩
        · exact .inl old
        · exact .inr ⟨delivery, List.mem_of_getElem? found, worker, claimed⟩

theorem Advance.leavesQueue {outcome : Outcome} {delivery : Delivery} {phase : Phase} {item : Message}
    {socket : LocalSocket} (moved : Advance outcome delivery w w' phase) (claimed : phase = .claimed item socket)
    (sound : w.Sound) (member : delivery ∈ w.deliveries) : LeavesQueue w w' ⟨delivery.worker, socket, item⟩ := by
  have own := sound.calls delivery member
  unfold Delivery.Sound at own
  cases moved with
  | @changed item' socket' held valid checked now _ locked next =>
    by_cases hit : (w.messages.any (claims delivery.itemId socket'.connection) && valid) = true
    · rw [if_pos hit, claimed] at next
      cases next
      rw [locked] at own
      obtain ⟨⟨reads, addressed⟩, vouched⟩ := own
      obtain ⟨any, rfl⟩ := Bool.and_eq_true_iff.mp hit
      obtain ⟨rfl, unexpired, gateway, inside, current, online⟩ := vouched rfl
      obtain ⟨row, queued, columns⟩ := List.any_eq_true.mp any
      have hits := columns
      simp only [claims, Bool.and_eq_true, beq_iff_eq] at columns
      have origin := reads.same row queued (columns.1.1.1.1.trans reads.id.symm)
      have workers : row.origin.workerId = item.origin.workerId := by rw [origin]
      have key : keyOf item.gatewayKind item.gatewayId = gateway.key := by
        rw [Presence.key_of_addressed current.addressed]
        exact congrArg (fun key : SocketKey => keyOf key.kind key.gatewayId) addressed.symm
      have found : w.gateway? (keyOf item.gatewayKind item.gatewayId) = some gateway := by
        rw [key]
        exact Relational.find?_key Gateway.key sound.keys inside
      exact
        { queued := ⟨row, queued, origin, columns.1.1.2⟩
          sending := ⟨_, Relational.mem_update.mpr ⟨row, queued, if_pos hits⟩, origin, rfl⟩
          addressed := addressed
          owner := ⟨reads.worker, columns.1.2.symm.trans (workers.trans reads.worker)⟩
          current := ⟨gateway, checked, now, by rw [reads.id, ← locked]; exact member, found, found, current, online,
            unexpired⟩ }
    · rw [if_neg hit, claimed] at next
      cases next
  | finished _ _ next =>
    rw [claimed] at next
    rcases next with next | next <;> cases next
  | stopped | read | found | locked | sent | ended | detached => cases claimed

theorem step_took (sound : w.Sound) (action : Action) (took : (step w action).Took entry) :
    w.Took entry ∨ LeavesQueue w (step w action) entry := by
  rcases took with written | ⟨after, member, worker, claimed⟩
  · exact .inl (step_written action written)
  · rcases step_delivery action member with old | ⟨address, called⟩ | done |
      ⟨call, outcome, before, w', rfl, inside, moved, same, world⟩
    · exact .inl (.inr ⟨after, old, worker, claimed⟩)
    · rw [called] at claimed
      cases claimed
    · rw [done] at claimed
      cases claimed
    · have owner : before.worker = entry.worker := by
        rw [same] at worker
        exact worker
      have leaves := moved.leavesQueue claimed sound inside
      rw [owner] at leaves
      rw [world]
      exact .inr ⟨leaves.queued, leaves.sending, leaves.addressed, leaves.owner, leaves.current⟩

/-- Before any call of `deliver`: tables with their primary keys, and the uuids
in them drawn. -/
structure World.Initial (w : World) : Prop where
  idle : w.deliveries = []
  unwritten : w.written = []
  keys : (w.gateways.map Gateway.key).Nodup
  ids : (w.messages.map Message.id).Nodup
  known : ∀ row ∈ w.messages, row.id ∈ w.itemIds
  named : ∀ row ∈ w.gateways, ∀ id, row.connectionId = some id → id ∈ w.drawn

namespace World.Initial

variable (initial : w.Initial)

include initial

theorem sound : w.Sound where
  keys := initial.keys
  ids := initial.ids
  known := initial.known
  named := initial.named
  calls := by
    rw [initial.idle]
    exact fun delivery none => absurd none List.not_mem_nil

theorem unspent (id : String) : w.spent id = 0 := by
  rw [World.spent, initial.idle, initial.unwritten]
  rfl

theorem once : w.Once := fun id =>
  ⟨(initial.unspent id).trans_le (Nat.zero_le 1), fun positive => absurd (initial.unspent id) positive.ne'⟩

theorem took_nothing (entry : Write) : ¬ w.Took entry := by
  rintro (written | ⟨delivery, member, -⟩)
  · rw [initial.unwritten] at written
    cases written
  · rw [initial.idle] at member
    cases member

end World.Initial

theorem run_once (initial : w.Initial) (actions : List Action) : (run w actions).Once := by
  have both : (run w actions).Sound ∧ (run w actions).Once :=
    Transition.run_invariant (fun later : World => later.Sound ∧ later.Once)
      (fun _ action held => ⟨held.1.step action, held.2.step held.1 action⟩) ⟨initial.sound, initial.once⟩ actions
  exact both.2

theorem run_leavesQueue (initial : w.Initial) {actions : List Action} (member : entry ∈ (run w actions).written) :
    ∃ before action after, actions = before ++ action :: after ∧
      LeavesQueue (run w before) (run w (before ++ [action])) entry := by
  obtain ⟨before, action, after, split, untaken, took⟩ :=
    Transition.exists_becomes (World.Took · entry) (initial.took_nothing entry) (.inl member)
  refine ⟨before, action, after, split, ?_⟩
  rcases step_took (initial.sound.run before) action took with taken | leaves
  · exact absurd taken untaken
  · rw [run, Transition.run_append]
    exact leaves

theorem LeavesQueue.left (leaves : LeavesQueue w w' entry) (sound : w'.Sound) : w'.Left entry.item.id := by
  obtain ⟨row, member, origin, sending⟩ := leaves.sending
  have id : row.id = entry.item.id := id_of_origin origin
  refine ⟨id ▸ sound.known row member, fun other inside same queued => ?_⟩
  rw [List.inj_on_of_nodup_map sound.ids inside member (same.trans id.symm), sending] at queued
  cases queued

/-- A transport row is written once at most, to the socket of the connection
that was the gateway's own when the row left the queue, for good; and from the
moment on in which the row of a gateway has ceased to name a connection, no
`touch` and no `end` of this connection writes anything. -/
theorem transport_at_most_once (initial : w.Initial) (actions : List Action) :
    ((run w actions).written.map (·.item.id)).Nodup ∧
    (∀ entry ∈ (run w actions).written, ∃ before action after, actions = before ++ action :: after ∧
      LeavesQueue (run w before) (run w (before ++ [action])) entry ∧
      ∀ later rest, after = later ++ rest → (run w (before ++ action :: later)).Left entry.item.id) ∧
    ∀ before middle after, actions = before ++ middle ++ after → ∀ kind gatewayId connectionId,
      (run w before).Names (keyOf kind gatewayId) connectionId →
      ¬ (run w (before ++ middle)).Names (keyOf kind gatewayId) connectionId →
      ∀ now heartbeat orgId tokenHash expiredBefore,
        Presence.touch now heartbeat kind orgId gatewayId tokenHash connectionId (run w actions).gateways =
            (false, (run w actions).gateways) ∧
          Presence.«end» kind orgId gatewayId connectionId expiredBefore (run w actions).gateways =
            (false, (run w actions).gateways) := by
  refine ⟨?_, ?_, ?_⟩
  · refine List.nodup_iff_count_le_one.mpr fun id => ?_
    have spent := (run_once initial actions id).1
    rw [List.count, List.countP_map]
    exact (Nat.le_add_right ..).trans spent
  · intro entry member
    obtain ⟨before, action, after, split, leaves⟩ := run_leavesQueue initial member
    refine ⟨before, action, after, split, leaves, fun later rest _ => ?_⟩
    have left := (leaves.left (initial.sound.run _)).run later
    rw [run, ← Transition.run_append, List.append_assoc] at left
    exact left
  · intro before middle after split kind gatewayId connectionId names gone now heartbeat orgId tokenHash expiredBefore
    obtain ⟨row, member, -, named⟩ := names
    have retired : (run w (before ++ middle)).Retired (keyOf kind gatewayId) connectionId := by
      refine ⟨?_, gone⟩
      rw [run, Transition.run_append]
      exact run_drawn (run w before) middle ((initial.sound.run before).named row member connectionId named)
    have still : (run w actions).Retired (keyOf kind gatewayId) connectionId := by
      rw [split, run, Transition.run_append]
      exact retired.run after
    exact still.writes_nothing now heartbeat orgId tokenHash expiredBefore

namespace Reconnect

def world : World where
  gateways := [{ kind := .linux, id := 7, orgId := some 1, tokenHash := some "t" }]

def connection (id : String) : Connection where
  kind := .linux
  orgId := 1
  gatewayId := 7
  connectionId := id
  workerId := "w"
  expiresAt := sekunden 90

def outcome : Outcome := { checked := 1, now := 1, delivered := true }

def connected : List Action :=
  [.begin 0 .linux 1 7 "t" "c1" "w", .attach "w" ⟨connection "c1", "t", 0⟩,
    .enqueue 0 "m1" (connection "c1") "config_sync" 30 none]

/-- Two calls for the row take turns, and a second connection replaces the first. -/
def delivered : List Action :=
  [.deliver "w" "m1" none, .deliver "w" "m1" none] ++
    [0, 1, 0, 1, 0, 0, 1, 1, 0, 0].map (.advance · outcome) ++ [.begin 2 .linux 1 7 "t" "c2" "w"]

theorem initial : world.Initial where
  idle := rfl
  unwritten := rfl
  keys := List.nodup_singleton _
  ids := List.nodup_nil
  known := fun _ none => absurd none List.not_mem_nil
  named := by
    intro row member id named
    rw [List.mem_singleton.mp member] at named
    cases named

theorem names : (run world connected).Names (keyOf .linux 7) "c1" := by
  unfold World.Names
  decide +kernel

theorem replaced : ¬ (run world (connected ++ delivered)).Names (keyOf .linux 7) "c1" := by
  unfold World.Names
  decide +kernel

end Reconnect

theorem transport_at_most_once_reconnect :
    (run Reconnect.world (Reconnect.connected ++ Reconnect.delivered)).written.map (·.item.id) = ["m1"] ∧
    ((run Reconnect.world (Reconnect.connected ++ Reconnect.delivered)).written.map (·.item.id)).Nodup ∧
    Presence.«end» .linux 1 7 "c1" none (run Reconnect.world (Reconnect.connected ++ Reconnect.delivered)).gateways =
      (false, (run Reconnect.world (Reconnect.connected ++ Reconnect.delivered)).gateways) := by
  have all := transport_at_most_once Reconnect.initial (Reconnect.connected ++ Reconnect.delivered)
  have superseded := all.2.2 Reconnect.connected Reconnect.delivered [] (List.append_nil _).symm .linux 7 "c1"
    Reconnect.names Reconnect.replaced 3 true 1 "t" none
  exact ⟨by decide +kernel, all.1, superseded.2⟩

/-- A row that is there in both states says the same, and waits in the second only if it did in the first. -/
def World.Keeps (w w' : World) : Prop :=
  ∀ row ∈ w.messages, ∀ row' ∈ w'.messages, row'.id = row.id →
    row'.origin = row.origin ∧ (row'.state = .queued → row.state = .queued)

theorem transport_unveraendert (initial : w.Initial) (before after : List Action) :
    (run w before).Keeps (run w (before ++ after)) := by
  have sound := initial.sound.run before
  intro row member
  rw [run, Transition.run_append]
  refine (Transition.run_invariant (fun later : World => row.id ∈ later.itemIds ∧ ∀ row' ∈ later.messages,
    row'.id = row.id → row'.origin = row.origin ∧ (row'.state = .queued → row.state = .queued))
    (fun later action held => ⟨(step_messages action).grows held.1, fun row' inside same => ?_⟩)
    ⟨sound.known row member, fun row' inside same => ?_⟩ after).2
  · rcases (step_messages action).row inside with ⟨old, was, origin, waits⟩ | fresh
    · obtain ⟨kept, left⟩ := held.2 old was ((id_of_origin origin).trans same)
      exact ⟨origin.symm.trans kept, left ∘ waits⟩
    · exact absurd (same ▸ held.1) fresh
  · cases List.inj_on_of_nodup_map sound.ids inside member same
    exact ⟨rfl, id⟩

theorem transport_unveraendert_reconnect :
    (run Reconnect.world Reconnect.connected).Keeps (run Reconnect.world (Reconnect.connected ++ Reconnect.delivered)) :=
  transport_unveraendert Reconnect.initial Reconnect.connected Reconnect.delivered

end Einsatzcockpit.Transport
