import Einsatzcockpit.Transport.Presence
import Einsatzcockpit.Lib.Run

namespace Einsatzcockpit.Transport

inductive MessageState where
  | queued | sending | delivered | failed | expired
  deriving DecidableEq

/-- A row of `gateway_message`; the payload is its JSON text. -/
structure Message where
  id : String
  orgId : Nat
  gatewayKind : Kind
  gatewayId : Nat
  connectionId : String
  workerId : String
  message : String
  jobKey : Option String
  state : MessageState := .queued
  error : Option String := none
  createdAt : Zeit
  expiresAt : Zeit

structure LocalSocket where
  connection : Connection
  tokenHash : String
  websocket : Nat

/-- The part of a wake-up that `deliver` compares with the row. -/
structure Address where
  gatewayKind : Kind
  orgId : Nat
  gatewayId : Nat
  connectionId : String
  workerId : String
  deriving DecidableEq

def Message.address (item : Message) : Address where
  gatewayKind := item.gatewayKind
  orgId := item.orgId
  gatewayId := item.gatewayId
  connectionId := item.connectionId
  workerId := item.workerId

/-- The index of `_sockets`. -/
structure SocketKey where
  kind : Kind
  orgId : Nat
  gatewayId : Nat
  connectionId : String
  deriving DecidableEq

/-- `key(connection)` -/
def Connection.socketKey (connection : Connection) : SocketKey where
  kind := connection.kind
  orgId := connection.orgId
  gatewayId := connection.gatewayId
  connectionId := connection.connectionId

def Message.socketKey (item : Message) : SocketKey where
  kind := item.gatewayKind
  orgId := item.orgId
  gatewayId := item.gatewayId
  connectionId := item.connectionId

/-- Where a call of `deliver` stands between two of its accesses to what it
shares with others. `locked` keeps whether `state` found a row to lock, the two
readings of the clock and the answer. -/
inductive Phase where
  | called (address : Option Address)
  | read (item : Message)
  | found (item : Message) (socket : LocalSocket)
  | locked (item : Message) (socket : LocalSocket) (held : Bool) (checked now : Zeit) (valid : Bool)
  | claimed (item : Message) (socket : LocalSocket)
  | sent (item : Message) (socket : LocalSocket)
  | failed (socket : LocalSocket)
  | ended (socket : LocalSocket)
  | done

/-- A call of `deliver(item_id, address)` in one worker. -/
structure Delivery where
  worker : String
  itemId : String
  phase : Phase

/-- What was handed to `send_text`. -/
structure Write where
  worker : String
  socket : LocalSocket
  item : Message

/-- The two tables, `_sockets` of every worker, the calls of `deliver` and what
was written. `drawn` and `itemIds` are the uuids used as connection ids and as
keys of rows so far. -/
structure World where
  gateways : List Gateway := []
  messages : List Message := []
  sockets : List (String × LocalSocket) := []
  deliveries : List Delivery := []
  drawn : List String := []
  itemIds : List String := []
  written : List Write := []

/-- The row whose lock a call holds: between `state(..., lock=True)` and its commit. -/
def Phase.lock : Phase → Option Key
  | .locked _ socket true .. => some (keyOf socket.connection.kind socket.connection.gatewayId)
  | _ => none

def World.locked (w : World) (key : Key) : Bool :=
  w.deliveries.any fun delivery => delivery.phase.lock == some key

/-- `_sockets.get(...)` in one worker -/
def World.socket? (w : World) (worker : String) (item : Message) : Option LocalSocket :=
  (w.sockets.find? fun (owner, socket) => owner == worker && socket.connection.socketKey == item.socketKey).map (·.2)

/-- `attach` -/
def attach (worker : String) (socket : LocalSocket) (sockets : List (String × LocalSocket)) : List (String × LocalSocket) :=
  (worker, socket) :: sockets.filter fun (owner, other) =>
    !(owner == worker && other.connection.socketKey == socket.connection.socketKey)

/-- `detach` -/
def detach (worker : String) (connection : Connection) (sockets : List (String × LocalSocket)) :
    List (String × LocalSocket) :=
  sockets.filter fun (owner, other) => !(owner == worker && other.connection.socketKey == connection.socketKey)

/-- The first read of `_claim`. -/
def readQueued (worker itemId : String) (messages : List Message) : Option Message :=
  messages.find? fun item => item.id == itemId && item.workerId == worker && item.state == .queued

/-- The rows that the conditional UPDATE of `_claim` hits. -/
def claims (itemId : String) (c : Connection) (row : Message) : Bool :=
  row.id == itemId && row.orgId == c.orgId && row.state == .queued && row.workerId == c.workerId &&
    row.connectionId == c.connectionId

/-- The rows that the UPDATE of `_finish` hits. -/
def finishes (worker itemId : String) (orgId : Nat) (row : Message) : Bool :=
  row.id == itemId && row.orgId == orgId && row.workerId == worker && row.state == .sending

/-- `_finish` -/
def finish (worker itemId : String) (orgId : Nat) (state : MessageState) (error : Option String)
    (messages : List Message) : List Message :=
  Relational.update (finishes worker itemId orgId) (fun row => { row with state := state, error := error }) messages

def enqueued (now : Zeit) (id : String) (connection : Connection) (message : String) (ttl : Int)
    (jobKey : Option String) : Message where
  id := id
  orgId := connection.orgId
  gatewayKind := connection.kind
  gatewayId := connection.gatewayId
  connectionId := connection.connectionId
  workerId := connection.workerId
  message := message
  jobKey := jobKey
  createdAt := now
  expiresAt := now + sekunden ttl

/-- What the next step of a call gets from outside: the clock readings and
whether `send_text` returned. -/
structure Outcome where
  checked : Zeit
  now : Zeit
  delivered : Bool

/-- The next step of a call of `deliver`: the world without the call's own
phase, and that phase; nothing while the call waits for a row lock. -/
def advance (outcome : Outcome) (delivery : Delivery) (w : World) : Option (World × Phase) :=
  match delivery.phase with
  | .called address =>
    match readQueued delivery.worker delivery.itemId w.messages with
    | none => some (w, .done)
    | some item => some (w, if address.any (· ≠ item.address) then .done else .read item)
  | .read item =>
    match w.socket? delivery.worker item with
    | none => some (w, .done)
    | some socket => some (w, .found item socket)
  | .found item socket =>
    let c := socket.connection
    if w.locked (keyOf c.kind c.gatewayId) then none
    else
      let held := (Presence.stateRow c.kind c.orgId c.gatewayId socket.tokenHash w.gateways).isSome
      let connected :=
        Presence.state outcome.checked c.kind c.orgId c.gatewayId socket.tokenHash c.connectionId w.gateways == .connected
      some (w, .locked item socket held outcome.checked outcome.now (connected && outcome.now < item.expiresAt))
  | .locked item socket _ _ _ valid =>
    -- the UPDATE takes the row's own lock, so it and the commit are one step
    let hit := claims delivery.itemId socket.connection
    some ({ w with
        messages := Relational.update hit
          (fun row => { row with state := if valid then .sending else .expired }) w.messages },
      if w.messages.any hit && valid then .claimed item socket else .done)
  | .claimed item socket =>
    some ({ w with written := w.written ++ [{ worker := delivery.worker, socket := socket, item := item }] },
      .sent item socket)
  | .sent _ socket =>
    if outcome.delivered then
      some ({ w with
        messages := finish delivery.worker delivery.itemId socket.connection.orgId .delivered none w.messages }, .done)
    else
      some ({ w with
          messages := finish delivery.worker delivery.itemId socket.connection.orgId .failed
            (some "socket_send_failed") w.messages },
        .failed socket)
  | .failed socket =>
    let c := socket.connection
    if w.locked (keyOf c.kind c.gatewayId) then none
    else
      some ({ w with gateways := (Presence.«end» c.kind c.orgId c.gatewayId c.connectionId none w.gateways).2 },
        .ended socket)
  | .ended socket => some ({ w with sockets := detach delivery.worker socket.connection w.sockets }, .done)
  | .done => none

inductive Advance (outcome : Outcome) (delivery : Delivery) (w : World) : World → Phase → Prop where
  | stopped : Advance outcome delivery w w .done
  | read {address : Option Address} {item : Message} (called : delivery.phase = .called address)
      (queued : readQueued delivery.worker delivery.itemId w.messages = some item) :
      Advance outcome delivery w w (.read item)
  | found {item : Message} {socket : LocalSocket} (read : delivery.phase = .read item)
      (attached : w.socket? delivery.worker item = some socket) :
      Advance outcome delivery w w (.found item socket)
  | locked {item : Message} {socket : LocalSocket} {c : Connection} (found : delivery.phase = .found item socket)
      (connection : socket.connection = c) (free : w.locked (keyOf c.kind c.gatewayId) = false) :
      Advance outcome delivery w w (.locked item socket
        (Presence.stateRow c.kind c.orgId c.gatewayId socket.tokenHash w.gateways).isSome outcome.checked outcome.now
        (Presence.state outcome.checked c.kind c.orgId c.gatewayId socket.tokenHash c.connectionId w.gateways
          == .connected && outcome.now < item.expiresAt))
  | changed {item : Message} {socket : LocalSocket} {held valid : Bool} {checked now : Zeit} {phase : Phase}
      (locked : delivery.phase = .locked item socket held checked now valid)
      (next : phase = if w.messages.any (claims delivery.itemId socket.connection) && valid then .claimed item socket
        else .done) :
      Advance outcome delivery w { w with
        messages := Relational.update (claims delivery.itemId socket.connection)
          (fun row => { row with state := if valid then .sending else .expired }) w.messages } phase
  | sent {item : Message} {socket : LocalSocket} (claimed : delivery.phase = .claimed item socket) :
      Advance outcome delivery w
        { w with written := w.written ++ [{ worker := delivery.worker, socket := socket, item := item }] }
        (.sent item socket)
  | finished {item : Message} {socket : LocalSocket} {state : MessageState} {error : Option String} {phase : Phase}
      (sent : delivery.phase = .sent item socket) (result : state = .delivered ∨ state = .failed)
      (next : phase = .done ∨ phase = .failed socket) :
      Advance outcome delivery w { w with
        messages := finish delivery.worker delivery.itemId socket.connection.orgId state error w.messages } phase
  | ended {socket : LocalSocket} {c : Connection} (failed : delivery.phase = .failed socket)
      (connection : socket.connection = c) (free : w.locked (keyOf c.kind c.gatewayId) = false) :
      Advance outcome delivery w
        { w with gateways := (Presence.«end» c.kind c.orgId c.gatewayId c.connectionId none w.gateways).2 }
        (.ended socket)
  | detached {socket : LocalSocket} (ended : delivery.phase = .ended socket) :
      Advance outcome delivery w { w with sockets := detach delivery.worker socket.connection w.sockets } .done

theorem advance_cases {outcome : Outcome} {delivery : Delivery} {w w' : World} {phase : Phase}
    (moved : advance outcome delivery w = some (w', phase)) : Advance outcome delivery w w' phase := by
  cases current : delivery.phase with
  | called address =>
    simp only [advance, current] at moved
    cases queued : readQueued delivery.worker delivery.itemId w.messages with
    | none =>
      simp only [queued, Option.some.injEq, Prod.mk.injEq] at moved
      obtain ⟨rfl, rfl⟩ := moved
      exact .stopped
    | some item =>
      simp only [queued, Option.some.injEq, Prod.mk.injEq] at moved
      obtain ⟨rfl, rfl⟩ := moved
      split
      · exact .stopped
      · exact .read current queued
  | read item =>
    simp only [advance, current] at moved
    cases attached : w.socket? delivery.worker item with
    | none =>
      simp only [attached, Option.some.injEq, Prod.mk.injEq] at moved
      obtain ⟨rfl, rfl⟩ := moved
      exact .stopped
    | some socket =>
      simp only [attached, Option.some.injEq, Prod.mk.injEq] at moved
      obtain ⟨rfl, rfl⟩ := moved
      exact .found current attached
  | found item socket =>
    simp only [advance, current] at moved
    split at moved
    · cases moved
    · next free =>
      simp only [Option.some.injEq, Prod.mk.injEq] at moved
      obtain ⟨rfl, rfl⟩ := moved
      exact .locked current rfl (Bool.not_eq_true _ ▸ free)
  | locked item socket held checked now valid =>
    simp only [advance, current, Option.some.injEq, Prod.mk.injEq] at moved
    obtain ⟨rfl, rfl⟩ := moved
    exact .changed current rfl
  | claimed item socket =>
    simp only [advance, current, Option.some.injEq, Prod.mk.injEq] at moved
    obtain ⟨rfl, rfl⟩ := moved
    exact .sent current
  | sent item socket =>
    simp only [advance, current] at moved
    split at moved
    · simp only [Option.some.injEq, Prod.mk.injEq] at moved
      obtain ⟨rfl, rfl⟩ := moved
      exact .finished current (.inl rfl) (.inl rfl)
    · simp only [Option.some.injEq, Prod.mk.injEq] at moved
      obtain ⟨rfl, rfl⟩ := moved
      exact .finished current (.inr rfl) (.inr rfl)
  | failed socket =>
    simp only [advance, current] at moved
    split at moved
    · cases moved
    · next free =>
      simp only [Option.some.injEq, Prod.mk.injEq] at moved
      obtain ⟨rfl, rfl⟩ := moved
      exact .ended current rfl (Bool.not_eq_true _ ▸ free)
  | ended socket =>
    simp only [advance, current, Option.some.injEq, Prod.mk.injEq] at moved
    obtain ⟨rfl, rfl⟩ := moved
    exact .detached current
  | done => simp [advance, current] at moved

/-- One access of any worker to what the workers share. A statement that meets
a row lock waits, so it is no step. -/
inductive Action where
  | «begin» (now : Zeit) (kind : Kind) (orgId gatewayId : Nat) (tokenHash connectionId owner : String)
  | touch (now : Zeit) (heartbeat : Bool) (kind : Kind) (orgId gatewayId : Nat) (tokenHash connectionId : String)
  | «end» (kind : Kind) (orgId gatewayId : Nat) (connectionId : String) (expiredBefore : Option Zeit)
  | administer (key : Key) (change : Presence.Administration)
  | create (row : Gateway)
  | remove (key : Key)
  | attach (worker : String) (socket : LocalSocket)
  | detach (worker : String) (connection : Connection)
  | enqueue (now : Zeit) (id : String) (connection : Connection) (message : String) (ttl : Int) (jobKey : Option String)
  | cancel (id : String) (orgId : Nat)
  | purge (id : String) (orgId : Nat)
  | deliver (worker itemId : String) (address : Option Address)
  | advance (call : Nat) (outcome : Outcome)
  | drop (call : Nat)
  | die (worker : String)

def World.setPresence (w : World) (key : Key) (gateways : List Gateway) : World :=
  if w.locked key then w else { w with gateways := gateways }

def step (w : World) : Action → World
  | .begin now kind orgId gatewayId tokenHash connectionId owner =>
    -- a uuid that was drawn before is not drawn again
    if connectionId ∈ w.drawn || w.locked (keyOf kind gatewayId) then w
    else
      { w with
        gateways := (Presence.begin now kind orgId gatewayId tokenHash connectionId owner w.gateways).2
        drawn := connectionId :: w.drawn }
  | .touch now heartbeat kind orgId gatewayId tokenHash connectionId =>
    w.setPresence (keyOf kind gatewayId)
      (Presence.touch now heartbeat kind orgId gatewayId tokenHash connectionId w.gateways).2
  | .end kind orgId gatewayId connectionId expiredBefore =>
    w.setPresence (keyOf kind gatewayId)
      (Presence.«end» kind orgId gatewayId connectionId expiredBefore w.gateways).2
  | .administer key change =>
    w.setPresence key (Relational.update (·.key == key) (Presence.administered change) w.gateways)
  | .create row =>
    if w.gateways.any (·.key == row.key) || row.connectionId.isSome then w
    else { w with gateways := w.gateways ++ [row] }
  | .remove key => w.setPresence key (w.gateways.filter fun row => row.key != key)
  | .attach worker socket => { w with sockets := Transport.attach worker socket w.sockets }
  | .detach worker connection => { w with sockets := Transport.detach worker connection w.sockets }
  | .enqueue now id connection message ttl jobKey =>
    if id ∈ w.itemIds then w
    else
      { w with
        messages := w.messages ++ [enqueued now id connection message ttl jobKey]
        itemIds := id :: w.itemIds }
  | .cancel id orgId =>
    { w with
      messages := Relational.update (fun row => row.id == id && row.orgId == orgId && row.state == .queued)
        (fun row => { row with state := .expired }) w.messages }
  | .purge id orgId => { w with messages := w.messages.filter fun row => !(row.id == id && row.orgId == orgId) }
  | .deliver worker itemId address =>
    { w with deliveries := w.deliveries ++ [{ worker := worker, itemId := itemId, phase := .called address }] }
  | .advance call outcome =>
    match w.deliveries[call]? with
    | none => w
    | some delivery =>
      match advance outcome delivery w with
      | none => w
      | some (w', phase) => { w' with deliveries := w'.deliveries.set call { delivery with phase := phase } }
  | .drop call =>
    -- an exception or a cancellation: the open transaction is rolled back
    match w.deliveries[call]? with
    | none => w
    | some delivery => { w with deliveries := w.deliveries.set call { delivery with phase := .done } }
  | .die worker =>
    { w with
      sockets := w.sockets.filter fun (owner, _) => owner != worker
      deliveries := w.deliveries.map fun delivery =>
        if delivery.worker == worker then { delivery with phase := .done } else delivery }

abbrev run : World → List Action → World := Transition.run step

end Einsatzcockpit.Transport
