import Einsatzcockpit.Lib.Table
import Einsatzcockpit.Basis

namespace Einsatzcockpit.Transport

/-- Phones are rows of `sms_gateway_token`, the other kinds rows of `gateway`. -/
inductive Kind where
  | sms | linux | windowsAgent
  deriving DecidableEq

inductive GatewayStatus where
  | unpaired | online | offline

/-- A row of either table, the columns of the two that play the same part
under one name: `token_hash` is `device_token_hash` of a gateway, `last_seen_at`
is `last_used_at` of a phone. `revoked_at` belongs to phones alone, `status` and
`serial_connected` to gateways. -/
structure Gateway where
  kind : Kind
  id : Nat
  orgId : Option Nat
  tokenHash : Option String
  revokedAt : Option Zeit := none
  connectionTokenHash : Option String := none
  connectionId : Option String := none
  workerId : Option String := none
  connectedAt : Option Zeit := none
  presenceExpiresAt : Option Zeit := none
  heartbeatAt : Option Zeit := none
  lastSeenAt : Option Zeit := none
  protocol : Nat := 1
  status : GatewayStatus := .unpaired
  serialConnected : Bool := false

abbrev Key := Bool × Nat

def keyOf (kind : Kind) (gatewayId : Nat) : Key := (kind == .sms, gatewayId)

def Gateway.key (row : Gateway) : Key := keyOf row.kind row.id

structure Connection where
  kind : Kind
  orgId : Nat
  gatewayId : Nat
  connectionId : String
  workerId : String
  expiresAt : Zeit

namespace Presence

/-- `TTL_S` and `SMS_TTL_S` -/
def ttlS : Kind → Int
  | .sms => 90
  | .linux | .windowsAgent => 90

def addressed (kind : Kind) (orgId gatewayId : Nat) (row : Gateway) : Bool :=
  row.kind == kind && row.orgId == some orgId && row.id == gatewayId

/-- `authenticated(model, kind, token_hash)` -/
def authenticated (tokenHash : String) (row : Gateway) : Bool :=
  match row.kind with
  | .sms => row.revokedAt.isNone && row.tokenHash == some tokenHash
  | .linux | .windowsAgent => row.tokenHash == some tokenHash

def online (now : Zeit) (row : Gateway) : Bool :=
  let valid := match row.kind with
    | .sms => row.revokedAt.isNone && row.connectionTokenHash == row.tokenHash
    | .linux | .windowsAgent => row.tokenHash.any (· ≠ "") && row.connectionTokenHash == row.tokenHash
  valid && row.connectionId.any (· ≠ "") && row.presenceExpiresAt.any (now < ·)

/-- The columns that `begin` writes. -/
def begun (now : Zeit) (tokenHash connectionId owner : String) (row : Gateway) : Gateway :=
  let row := { row with
    connectionId := some connectionId
    workerId := some owner
    connectedAt := some now
    presenceExpiresAt := some (now + sekunden (ttlS row.kind))
    connectionTokenHash := some tokenHash
    lastSeenAt := some now }
  match row.kind with
  | .sms => { row with protocol := 1 }
  | .linux => { row with status := .online, protocol := 1 }
  | .windowsAgent => { row with status := .online }

/-- `begin`; the organisation 0 stands for every value that the guard refuses. -/
def begin (now : Zeit) (kind : Kind) (orgId gatewayId : Nat) (tokenHash connectionId owner : String)
    (gateways : List Gateway) : Bool × List Gateway :=
  if orgId = 0 then (false, gateways)
  else
    let hit : Gateway → Bool := fun row => addressed kind orgId gatewayId row && authenticated tokenHash row
    (gateways.any hit, Relational.update hit (begun now tokenHash connectionId owner) gateways)

inductive State where
  | connected | authenticationFailed | superseded | heartbeatOverdue
  deriving DecidableEq

/-- The row that `state` reads, and that it locks when asked to. -/
def stateRow (kind : Kind) (orgId gatewayId : Nat) (tokenHash : String) (gateways : List Gateway) : Option Gateway :=
  gateways.find? fun row => addressed kind orgId gatewayId row && authenticated tokenHash row

def state (now : Zeit) (kind : Kind) (orgId gatewayId : Nat) (tokenHash connectionId : String)
    (gateways : List Gateway) : State :=
  match stateRow kind orgId gatewayId tokenHash gateways with
  | none => .authenticationFailed
  | some row =>
    if row.connectionTokenHash ≠ some tokenHash then .authenticationFailed
    else if row.connectionId ≠ some connectionId then .superseded
    else if online now row then .connected
    else .heartbeatOverdue

/-- The columns that `touch` writes. -/
def touched (now : Zeit) (heartbeat : Bool) (row : Gateway) : Gateway :=
  let row := { row with presenceExpiresAt := some (now + sekunden (ttlS row.kind)) }
  let row := if heartbeat then { row with heartbeatAt := some now } else row
  match row.kind with
  | .sms => row
  | .linux | .windowsAgent => { row with lastSeenAt := some now, status := .online }

def touch (now : Zeit) (heartbeat : Bool) (kind : Kind) (orgId gatewayId : Nat) (tokenHash connectionId : String)
    (gateways : List Gateway) : Bool × List Gateway :=
  let hit : Gateway → Bool := fun row => addressed kind orgId gatewayId row &&
    row.connectionId == some connectionId && row.presenceExpiresAt.any (now < ·) && authenticated tokenHash row
  (gateways.any hit, Relational.update hit (touched now heartbeat) gateways)

/-- The columns that `end` writes. -/
def ended (row : Gateway) : Gateway :=
  let row := { row with connectionId := none, workerId := none, presenceExpiresAt := none, connectionTokenHash := none }
  match row.kind with
  | .sms => row
  | .linux | .windowsAgent =>
    { row with status := if row.tokenHash.isNone then .unpaired else .offline, serialConnected := false }

/-- `end`; the sweep `expire` passes the instant before which presence must have run out. -/
def «end» (kind : Kind) (orgId gatewayId : Nat) (connectionId : String) (expiredBefore : Option Zeit)
    (gateways : List Gateway) : Bool × List Gateway :=
  let hit : Gateway → Bool := fun row => addressed kind orgId gatewayId row &&
    row.connectionId == some connectionId &&
    expiredBefore.all fun moment => row.presenceExpiresAt.any (· ≤ moment)
  (gateways.any hit, Relational.update hit ended gateways)

/-- What an administration writes: pairing, rotation and revocation replace the
token, and `revoked_at` locks a phone out. `clears` says whether the presence
columns of a gateway are written too: the mapper leaves out a column that was
already empty when it was loaded. -/
inductive Administration where
  | token (tokenHash : Option String) (clears : Bool)
  | revoke (now : Zeit)

def administered (change : Administration) (row : Gateway) : Gateway :=
  match row.kind, change with
  | .sms, .token tokenHash _ => { row with tokenHash := tokenHash }
  | .sms, .revoke now => { row with revokedAt := some now }
  | .linux, .token tokenHash clears | .windowsAgent, .token tokenHash clears =>
    let row := { row with
      tokenHash := tokenHash
      status := if tokenHash.isNone then .unpaired else .offline }
    if clears then
      { row with connectionId := none, connectionTokenHash := none, workerId := none, presenceExpiresAt := none }
    else row
  | .linux, .revoke _ | .windowsAgent, .revoke _ => row

/-- What `state` answers 'connected' for: the row takes this token, and the
connection it names was begun with it and not replaced since. -/
structure Current (connection : Connection) (tokenHash : String) (row : Gateway) : Prop where
  addressed : addressed connection.kind connection.orgId connection.gatewayId row = true
  authenticated : authenticated tokenHash row = true
  token : row.connectionTokenHash = some tokenHash
  connection : row.connectionId = some connection.connectionId

end Presence

end Einsatzcockpit.Transport
