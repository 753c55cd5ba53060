import Einsatzcockpit.Transport.Routing

namespace Einsatzcockpit.Transport

namespace Presence

variable {kind : Kind} {orgId gatewayId : Nat} {tokenHash connectionId : String} {now : Zeit} {gateways : List Gateway}

theorem key_of_addressed {row : Gateway} (hit : addressed kind orgId gatewayId row = true) :
    row.key = keyOf kind gatewayId := by
  simp only [addressed, Bool.and_eq_true, beq_iff_eq] at hit
  rw [Gateway.key, hit.1.1, hit.2]

theorem missed_of_key {row : Gateway} (other : row.key ≠ keyOf kind gatewayId) :
    addressed kind orgId gatewayId row = false := by
  cases hit : addressed kind orgId gatewayId row with
  | false => rfl
  | true => exact absurd (key_of_addressed hit) other

@[simp] theorem begun_key (owner : String) (row : Gateway) :
    (begun now tokenHash connectionId owner row).key = row.key := by
  cases kind : row.kind <;> simp [begun, Gateway.key, kind]

@[simp] theorem touched_key (heartbeat : Bool) (row : Gateway) : (touched now heartbeat row).key = row.key := by
  cases kind : row.kind <;> cases heartbeat <;> simp [touched, Gateway.key, kind]

@[simp] theorem touched_connectionId (heartbeat : Bool) (row : Gateway) :
    (touched now heartbeat row).connectionId = row.connectionId := by
  cases kind : row.kind <;> cases heartbeat <;> simp [touched, kind]

@[simp] theorem ended_key (row : Gateway) : (ended row).key = row.key := by
  cases kind : row.kind <;> simp [ended, Gateway.key, kind]

@[simp] theorem ended_connectionId (row : Gateway) : (ended row).connectionId = none := by
  cases kind : row.kind <;> simp [ended, kind]

@[simp] theorem administered_key (change : Administration) (row : Gateway) :
    (administered change row).key = row.key := by
  cases kind : row.kind <;> cases change <;> simp only [administered, Gateway.key, kind]
  all_goals split <;> simp

theorem administered_connectionId (change : Administration) (row : Gateway) :
    (administered change row).connectionId = row.connectionId ∨ (administered change row).connectionId = none := by
  cases kind : row.kind <;> cases change with
  | revoke _ => simp [administered, kind]
  | token _ clears => cases clears <;> simp [administered, kind]

/-- What 'connected' vouches for, in the row that `state` has read. -/
theorem state_connected (connected : state now kind orgId gatewayId tokenHash connectionId gateways = .connected) :
    ∃ row, stateRow kind orgId gatewayId tokenHash gateways = some row ∧ row ∈ gateways ∧
      addressed kind orgId gatewayId row = true ∧ authenticated tokenHash row = true ∧
      row.connectionTokenHash = some tokenHash ∧ row.connectionId = some connectionId ∧ online now row = true := by
  unfold state at connected
  cases read : stateRow kind orgId gatewayId tokenHash gateways with
  | none => rw [read] at connected; cases connected
  | some row =>
    have hit := List.find?_some read
    have member := List.mem_of_find?_eq_some read
    rw [Bool.and_eq_true] at hit
    simp only [read] at connected
    split at connected
    · cases connected
    split at connected
    · cases connected
    split at connected
    · next token connection alive =>
      exact ⟨row, rfl, member, hit.1, hit.2, not_not.mp token, not_not.mp connection, alive⟩
    · cases connected

section

variable (superseded : ∀ row ∈ gateways, row.key = keyOf kind gatewayId → row.connectionId ≠ some connectionId)
include superseded

/-- A `touch` of a connection that the row does not name writes nothing. -/
theorem touch_superseded {heartbeat : Bool} :
    touch now heartbeat kind orgId gatewayId tokenHash connectionId gateways = (false, gateways) := by
  have missed : ∀ row ∈ gateways, (addressed kind orgId gatewayId row && row.connectionId == some connectionId &&
      row.presenceExpiresAt.any (now < ·) && authenticated tokenHash row) = false := by
    intro row member
    cases hit : addressed kind orgId gatewayId row with
    | false => rfl
    | true => simp [superseded row member (key_of_addressed hit)]
  refine Prod.ext ?_ (Relational.update_eq_self missed)
  simpa [touch] using fun row member => by simpa using missed row member

/-- An `end` of a connection that the row does not name writes nothing. -/
theorem end_superseded {expiredBefore : Option Zeit} :
    «end» kind orgId gatewayId connectionId expiredBefore gateways = (false, gateways) := by
  have missed : ∀ row ∈ gateways, (addressed kind orgId gatewayId row && row.connectionId == some connectionId &&
      expiredBefore.all fun moment => row.presenceExpiresAt.any (· ≤ moment)) = false := by
    intro row member
    cases hit : addressed kind orgId gatewayId row with
    | false => rfl
    | true => simp [superseded row member (key_of_addressed hit)]
  refine Prod.ext ?_ (Relational.update_eq_self missed)
  exact List.any_eq_false.mpr fun row member => by simp [missed row member]

end

end Presence

variable {w : World} {row : Gateway}

theorem setPresence_locked {key : Key} {gateways : List Gateway} (member : row ∈ w.gateways)
    (held : w.locked row.key = true) (apart : ∀ other ∈ w.gateways, other.key ≠ key → other ∈ gateways) :
    row ∈ (w.setPresence key gateways).gateways := by
  unfold World.setPresence
  split
  · exact member
  · next free =>
    refine apart row member ?_
    intro same
    exact free (same ▸ held)

theorem update_apart {key : Key} {hit : Gateway → Bool} {f : Gateway → Gateway}
    (only : ∀ row, row.key ≠ key → hit row = false) :
    ∀ other ∈ w.gateways, other.key ≠ key → other ∈ Relational.update hit f w.gateways :=
  fun other member different => Relational.mem_update_of_false member (only other different)

theorem Advance.locked_row {outcome : Outcome} {delivery : Delivery} {w' : World} {phase : Phase}
    (moved : Advance outcome delivery w w' phase) (member : row ∈ w.gateways) (held : w.locked row.key = true) :
    row ∈ w'.gateways := by
  cases moved with
  | @ended socket c failed connection free =>
    have other : row.key ≠ keyOf c.kind c.gatewayId := by
      intro same
      rw [same, free] at held
      cases held
    exact update_apart (fun other different => by simp [Presence.missed_of_key different]) row member other
  | stopped | read | found | locked | changed | sent | finished | detached => exact member

theorem step_locked_row (action : Action) (member : row ∈ w.gateways) (held : w.locked row.key = true) :
    row ∈ (step w action).gateways := by
  cases action with
  | «begin» now kind orgId gatewayId tokenHash connectionId owner =>
    simp only [step]
    split
    · exact member
    · next free =>
      have other : row.key ≠ keyOf kind gatewayId := by
        intro same
        simp [← same, held] at free
      simp only [Presence.begin]
      split
      · exact member
      · exact update_apart (fun other different => by simp [Presence.missed_of_key different]) row member other
  | touch => exact setPresence_locked member held (update_apart fun _ different => by simp [Presence.missed_of_key different])
  | «end» => exact setPresence_locked member held (update_apart fun _ different => by simp [Presence.missed_of_key different])
  | administer => exact setPresence_locked member held (update_apart fun _ different => by simp [different])
  | remove => exact setPresence_locked member held fun other inside different => by simp [inside, different]
  | create =>
    simp only [step]
    split
    · exact member
    · exact List.mem_append_left _ member
  | advance call outcome =>
    simp only [step]
    split
    · exact member
    · split
      · exact member
      · next moved => exact (advance_cases moved).locked_row member held
  | drop call =>
    simp only [step]
    split <;> exact member
  | enqueue =>
    simp only [step]
    split <;> exact member
  | attach | detach | cancel | purge | deliver | die => exact member

end Einsatzcockpit.Transport

namespace Einsatzcockpit.Transport

/-- What a step can do to the table of the gateways and to the ids drawn so far:
a connection that a row newly names is drawn in that step. -/
inductive GatewaysStep (w : World) : List Gateway → List String → Prop where
  | same {drawn : List String} (more : w.drawn ⊆ drawn) : GatewaysStep w w.gateways drawn
  | written {hit : Gateway → Bool} {f : Gateway → Gateway} {drawn : List String} (more : w.drawn ⊆ drawn)
      (keeps : ∀ row, (f row).key = row.key)
      (names : ∀ row id, (f row).connectionId = some id → row.connectionId = some id ∨ id ∉ w.drawn ∧ id ∈ drawn) :
      GatewaysStep w (Relational.update hit f w.gateways) drawn
  | created {row : Gateway} (fresh : ∀ other ∈ w.gateways, other.key ≠ row.key) (unnamed : row.connectionId = none) :
      GatewaysStep w (w.gateways ++ [row]) w.drawn
  | removed {keep : Gateway → Bool} : GatewaysStep w (w.gateways.filter keep) w.drawn

def Message.origin (row : Message) : Message := { row with state := .queued, error := none }

theorem id_of_origin {row row' : Message} (same : row.origin = row'.origin) : row.id = row'.id := by
  have ids : row.origin.id = row'.origin.id := by rw [same]
  exact ids

/-- What a step can do to the transport rows: no row is put back into the queue,
and a new row has a new key. -/
inductive MessagesStep (w : World) : List Message → List String → Prop where
  | same : MessagesStep w w.messages w.itemIds
  | written {hit : Message → Bool} {f : Message → Message} (keeps : ∀ row, (f row).origin = row.origin)
      (left : ∀ row, (f row).state ≠ .queued) : MessagesStep w (Relational.update hit f w.messages) w.itemIds
  | added {row : Message} (fresh : row.id ∉ w.itemIds) : MessagesStep w (w.messages ++ [row]) (row.id :: w.itemIds)
  | removed {keep : Message → Bool} : MessagesStep w (w.messages.filter keep) w.itemIds

variable {w : World}

theorem GatewaysStep.refl : GatewaysStep w w.gateways w.drawn := .same (List.Subset.refl _)

variable {key : Key} {connectionId : String} {outcome : Outcome} {delivery : Delivery} {w' : World} {phase : Phase}

theorem setPresence_step {gateways : List Gateway} (moved : GatewaysStep w gateways w.drawn) :
    GatewaysStep w (w.setPresence key gateways).gateways (w.setPresence key gateways).drawn := by
  unfold World.setPresence
  split
  · exact .refl
  · exact moved

theorem end_step {kind : Kind} {orgId gatewayId : Nat} {expiredBefore : Option Zeit} :
    GatewaysStep w (Presence.«end» kind orgId gatewayId connectionId expiredBefore w.gateways).2 w.drawn := by
  refine .written (List.Subset.refl _) Presence.ended_key fun row id named => ?_
  rw [Presence.ended_connectionId] at named
  cases named

section

variable (moved : Advance outcome delivery w w' phase)
include moved

theorem Advance.gateways : GatewaysStep w w'.gateways w'.drawn := by
  cases moved with
  | ended => exact end_step
  | stopped | read | found | locked | changed | sent | finished | detached => exact .refl

theorem Advance.messages : MessagesStep w w'.messages w'.itemIds := by
  cases moved with
  | @changed _ _ _ valid =>
    refine .written (fun _ => rfl) fun row => ?_
    cases valid <;> simp
  | finished _ result =>
    refine .written (fun _ => rfl) fun row => ?_
    rcases result with rfl | rfl <;> simp
  | stopped | read | found | locked | sent | ended | detached => exact .same

theorem Advance.deliveries : w'.deliveries = w.deliveries := by
  cases moved <;> rfl

end

theorem step_gateways (action : Action) : GatewaysStep w (step w action).gateways (step w action).drawn := by
  cases action with
  | «begin» now kind orgId gatewayId tokenHash connectionId owner =>
    simp only [step]
    split
    · exact .refl
    · next free =>
      have fresh : connectionId ∉ w.drawn := by
        intro old
        simp [old] at free
      have more : w.drawn ⊆ connectionId :: w.drawn := List.subset_cons_self ..
      simp only [Presence.begin]
      split
      · exact .same more
      · refine .written more (Presence.begun_key owner) fun row id named => .inr ?_
        have same : id = connectionId := by
          cases kind : row.kind <;> simpa [Presence.begun, kind, eq_comm] using named
        rw [same]
        exact ⟨fresh, List.mem_cons_self ..⟩
  | touch =>
    refine setPresence_step (.written (List.Subset.refl _) (Presence.touched_key _) fun row id named => .inl ?_)
    rwa [Presence.touched_connectionId] at named
  | «end» => exact setPresence_step end_step
  | administer key change =>
    refine setPresence_step (.written (List.Subset.refl _) (Presence.administered_key change) fun row id named => ?_)
    rcases Presence.administered_connectionId change row with same | gone
    · exact .inl (same ▸ named)
    · rw [gone] at named
      cases named
  | remove => exact setPresence_step .removed
  | create row =>
    simp only [step]
    split
    · exact .refl
    · next guard =>
      simp only [Bool.or_eq_true, not_or, Bool.not_eq_true, Option.isSome_eq_false_iff, Option.isNone_iff_eq_none,
        List.any_eq_false] at guard
      exact .created (fun other member => beq_eq_false_iff_ne.mp (guard.1 other member)) guard.2
  | advance call outcome =>
    simp only [step]
    split
    · exact .refl
    · split
      · exact .refl
      · next moved => exact (advance_cases moved).gateways
  | drop call =>
    simp only [step]
    split <;> exact .refl
  | enqueue =>
    simp only [step]
    split <;> exact .refl
  | attach | detach | cancel | purge | deliver | die => exact .refl

theorem step_messages (action : Action) : MessagesStep w (step w action).messages (step w action).itemIds := by
  cases action with
  | «begin» | create =>
    simp only [step]
    split <;> exact .same
  | touch | «end» | administer | remove =>
    simp only [step, World.setPresence]
    split <;> exact .same
  | enqueue now id connection message ttl jobKey =>
    simp only [step]
    split
    · exact .same
    · next fresh => exact .added fresh
  | cancel id orgId => exact .written (fun _ => rfl) fun _ => by simp
  | purge id orgId => exact .removed
  | advance call outcome =>
    simp only [step]
    split
    · exact .same
    · split
      · exact .same
      · next moved => exact (advance_cases moved).messages
  | drop call =>
    simp only [step]
    split <;> exact .same
  | attach | detach | deliver | die => exact .same

section MessagesStep

variable {messages : List Message} {itemIds : List String} (moved : MessagesStep w messages itemIds)

include moved

theorem MessagesStep.row {row : Message} (member : row ∈ messages) :
    (∃ old ∈ w.messages, old.origin = row.origin ∧ (row.state = .queued → old.state = .queued)) ∨
      row.id ∉ w.itemIds := by
  cases moved with
  | same => exact .inl ⟨row, member, rfl, id⟩
  | @written hit f keeps left =>
    obtain ⟨old, inside, rfl⟩ := Relational.mem_update.mp member
    refine .inl ⟨old, inside, ?_⟩
    split
    · exact ⟨(keeps old).symm, fun queued => absurd queued (left old)⟩
    · exact ⟨rfl, id⟩
  | added fresh =>
    rcases List.mem_append.mp member with old | new
    · exact .inl ⟨row, old, rfl, id⟩
    · exact .inr (List.mem_singleton.mp new ▸ fresh)
  | removed => exact .inl ⟨row, (List.mem_filter.mp member).1, rfl, id⟩

theorem MessagesStep.grows : w.itemIds ⊆ itemIds := by
  cases moved with
  | same | written | removed => exact List.Subset.refl _
  | added fresh => exact List.subset_cons_self ..

theorem MessagesStep.known (known : ∀ row ∈ w.messages, row.id ∈ w.itemIds) : ∀ row ∈ messages, row.id ∈ itemIds := by
  intro row member
  cases moved with
  | same => exact known row member
  | written keeps left =>
    obtain ⟨old, inside, rfl⟩ := Relational.mem_update.mp member
    have old_known := known old inside
    split
    · exact id_of_origin (keeps old) ▸ old_known
    · exact old_known
  | added fresh =>
    rcases List.mem_append.mp member with old | new
    · exact List.mem_cons_of_mem _ (known row old)
    · exact List.mem_singleton.mp new ▸ List.mem_cons_self ..
  | removed => exact known row (List.mem_filter.mp member).1

theorem MessagesStep.ids (unique : (w.messages.map Message.id).Nodup) (known : ∀ row ∈ w.messages, row.id ∈ w.itemIds) :
    (messages.map Message.id).Nodup := by
  cases moved with
  | same => exact unique
  | @written hit f keeps left =>
    have same : ∀ row, (f row).id = row.id := fun row => id_of_origin (keeps row)
    rw [Relational.map_update same]
    exact unique
  | added fresh =>
    rw [List.map_append, List.map_singleton]
    refine List.nodup_append.mpr ⟨unique, List.nodup_singleton _, ?_⟩
    intro id old id' new same
    obtain ⟨row, member, rfl⟩ := List.mem_map.mp old
    rw [List.mem_singleton.mp new] at same
    exact fresh (same ▸ known row member)
  | removed => exact unique.sublist (List.filter_sublist.map _)

end MessagesStep

section GatewaysStep

variable {gateways : List Gateway} {drawn : List String} (moved : GatewaysStep w gateways drawn)

include moved

theorem GatewaysStep.keys (unique : (w.gateways.map Gateway.key).Nodup) : (gateways.map Gateway.key).Nodup := by
  cases moved with
  | same => exact unique
  | written more keeps names =>
    rw [Relational.map_update keeps]
    exact unique
  | @created row fresh unnamed =>
    rw [List.map_append, List.map_singleton]
    refine List.nodup_append.mpr ⟨unique, List.nodup_singleton _, ?_⟩
    intro key old key' new same
    obtain ⟨other, member, rfl⟩ := List.mem_map.mp old
    rw [List.mem_singleton.mp new] at same
    exact fresh other member same
  | removed => exact unique.sublist (List.filter_sublist.map _)

theorem GatewaysStep.grows : w.drawn ⊆ drawn := by
  cases moved with
  | same more | written more => exact more
  | created | removed => exact List.Subset.refl _

theorem GatewaysStep.named {row : Gateway} (member : row ∈ gateways) {id : String} (named : row.connectionId = some id) :
    (∃ old ∈ w.gateways, old.key = row.key ∧ old.connectionId = some id) ∨ id ∉ w.drawn ∧ id ∈ drawn := by
  cases moved with
  | same => exact .inl ⟨row, member, rfl, named⟩
  | written more keeps names =>
    obtain ⟨old, inside, rfl⟩ := Relational.mem_update.mp member
    split at named
    · next hit =>
      rcases names old id named with before | new
      · exact .inl ⟨old, inside, by rw [if_pos hit, keeps], before⟩
      · exact .inr new
    · next missed => exact .inl ⟨old, inside, by rw [if_neg missed], named⟩
  | created fresh unnamed =>
    rcases List.mem_append.mp member with old | new
    · exact .inl ⟨row, old, rfl, named⟩
    · rw [List.mem_singleton.mp new, unnamed] at named
      cases named
  | removed => exact .inl ⟨row, (List.mem_filter.mp member).1, rfl, named⟩

end GatewaysStep

def World.Names (w : World) (key : Key) (connectionId : String) : Prop :=
  ∃ row ∈ w.gateways, row.key = key ∧ row.connectionId = some connectionId

/-- A connection of a gateway that was replaced or ended: its id is used up and
the gateway's row does not name it. -/
def World.Retired (w : World) (key : Key) (connectionId : String) : Prop :=
  connectionId ∈ w.drawn ∧ ¬ w.Names key connectionId

theorem World.Retired.step (retired : w.Retired key connectionId) (action : Action) :
    (step w action).Retired key connectionId := by
  obtain ⟨drawn, gone⟩ := retired
  have moved : GatewaysStep w (Transport.step w action).gateways (Transport.step w action).drawn := step_gateways action
  refine ⟨moved.grows drawn, ?_⟩
  rintro ⟨row, member, same, named⟩
  rcases moved.named member named with ⟨old, inside, keyed, before⟩ | ⟨fresh, -⟩
  · exact gone ⟨old, inside, keyed.trans same, before⟩
  · exact fresh drawn

theorem World.Retired.run (retired : w.Retired key connectionId) (actions : List Action) :
    (run w actions).Retired key connectionId :=
  Transition.run_invariant (World.Retired · key connectionId) (fun _ action held => World.Retired.step held action)
    retired actions

theorem run_drawn (w : World) (actions : List Action) : w.drawn ⊆ (run w actions).drawn :=
  Transition.run_invariant (fun later : World => w.drawn ⊆ later.drawn)
    (fun _ action held => List.Subset.trans held (step_gateways action).grows) (List.Subset.refl _) actions

/-- Neither `touch` nor `end` of such a connection writes anything. -/
theorem World.Retired.writes_nothing {kind : Kind} {gatewayId : Nat}
    (retired : w.Retired (keyOf kind gatewayId) connectionId) (now : Zeit) (heartbeat : Bool) (orgId : Nat)
    (tokenHash : String) (expiredBefore : Option Zeit) :
    Presence.touch now heartbeat kind orgId gatewayId tokenHash connectionId w.gateways = (false, w.gateways) ∧
      Presence.«end» kind orgId gatewayId connectionId expiredBefore w.gateways = (false, w.gateways) := by
  have superseded : ∀ row ∈ w.gateways, row.key = keyOf kind gatewayId → row.connectionId ≠ some connectionId :=
    fun row member same named => retired.2 ⟨row, member, same, named⟩
  exact ⟨Presence.touch_superseded superseded, Presence.end_superseded superseded⟩

end Einsatzcockpit.Transport
