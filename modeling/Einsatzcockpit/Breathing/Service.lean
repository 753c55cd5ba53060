import Einsatzcockpit.Breathing.Reports

namespace Einsatzcockpit.Breathing

structure Schluessel where
  member : Nat
  deployment : Nat

/-- The arguments of `create_troop`. -/
structure TroopData where
  id : Nat
  incidentId : Nat
  name : String
  membersData : List MemberData
  taskText : Option String := none
  vehicleId : Option Nat := none
  unitName : Option String := none
  locationText : Option String := none
  plannedDurationMin : Option Nat := none
  bottlePreset : Option String := none
  isSicherheitstrupp : Bool := false
  ueberwacherUserId : Option Nat := none
  ueberwacherName : Option String := none
  angriffsweg : Option String := none
  funkkanal : Option String := none

/-- `value.strip()[:n] if value else None` -/
def stripped (n : Nat) (value : Option String) : Option String :=
  (orNone value).map fun text => clip n (strip text)

def createTroop (schluessel : Schluessel) (data : TroopData) : Except Fehler BreathingTroop :=
  match validatedMembersData data.membersData with
  | .error fehler => .error fehler
  | .ok filledMembers => .ok
    { id := data.id, incidentId := data.incidentId, name := data.name, unitName := data.unitName
      status := .bereit
      ueberwacherUserId := data.ueberwacherUserId
      ueberwacherName := stripped 150 data.ueberwacherName
      angriffsweg := stripped 300 data.angriffsweg
      funkkanal := stripped 50 data.funkkanal
      taskText := data.taskText, vehicleId := data.vehicleId, locationText := data.locationText
      plannedDurationMin := data.plannedDurationMin, bottlePreset := data.bottlePreset
      isSicherheitstrupp := data.isSicherheitstrupp
      members := liveMembers schluessel.member filledMembers }

/-- The row `redeploy_troop` archives the cycle in. -/
def archived (id : Nat) (troop : BreathingTroop) : BreathingDeployment where
  id := id
  lfdNr := troop.deployments.length + 1
  entryAt := troop.entryAt
  withdrawAt := troop.withdrawAt
  backAt := troop.backAt
  status := troop.status
  plannedDurationMin := troop.plannedDurationMin
  bottlePreset := troop.bottlePreset
  taskText := troop.taskText
  locationText := troop.locationText
  ueberwacherName := troop.ueberwacherName
  angriffsweg := troop.angriffsweg
  funkkanal := troop.funkkanal
  funkVerlorenAt := troop.funkVerlorenAt
  notfallAt := troop.notfallAt
  startPressAvg := troop.startPressAvg
  withdrawPressCalc := troop.withdrawPressCalc
  warnOneThirdAckedAt := troop.warnOneThirdAckedAt
  warnTwoThirdAckedAt := troop.warnTwoThirdAckedAt
  warnMaxTimeAckedAt := troop.warnMaxTimeAckedAt
  warnWithdrawAckedAt := troop.warnWithdrawAckedAt
  warnWithdrawAckedPress := troop.warnWithdrawAckedPress
  readinessOverrideReason := troop.readinessOverrideReason
  readinessOverrideByUserId := troop.readinessOverrideByUserId
  readinessOverrideAt := troop.readinessOverrideAt
  escalatedAt := troop.escalatedAt

def TroopMember.archive (deploymentId : Nat) (member : TroopMember) : TroopMember :=
  if member.deploymentId.isNone then { member with deploymentId := some deploymentId } else member

def BreathingKontrolle.archive (deploymentId : Nat) (kontrolle : BreathingKontrolle) : BreathingKontrolle :=
  if kontrolle.deploymentId.isNone then { kontrolle with deploymentId := some deploymentId } else kontrolle

def redeployed (schluessel : Schluessel) (filledMembers : List CheckedMember) (taskText locationText : Option String)
    (plannedDurationMin : Option Nat) (bottlePreset : Option String) (troop : BreathingTroop) : BreathingTroop :=
  { troop with
    deployments := troop.deployments ++ [archived schluessel.deployment troop]
    members := troop.members.map (·.archive schluessel.deployment) ++ liveMembers schluessel.member filledMembers
    kontrollen := troop.kontrollen.map (·.archive schluessel.deployment)
    funkVerlorenAt := none, notfallAt := none, notfallVonUserId := none
    status := .bereit
    entryAt := none, withdrawAt := none, backAt := none
    warnOneThirdAckedAt := none, warnTwoThirdAckedAt := none, warnMaxTimeAckedAt := none
    warnWithdrawAckedAt := none, warnWithdrawAckedPress := none
    readinessOverrideReason := none, readinessOverrideByUserId := none, readinessOverrideAt := none
    escalatedAt := none, startPressAvg := none, withdrawPressCalc := none
    lastMeldungAt := none, lastMeldungText := none
    taskText := taskText <|> troop.taskText
    locationText := locationText <|> troop.locationText
    plannedDurationMin := plannedDurationMin <|> troop.plannedDurationMin
    bottlePreset := bottlePreset <|> troop.bottlePreset }

def redeployTroop (schluessel : Schluessel) (membersData : List MemberData)
    (taskText locationText : Option String) (plannedDurationMin : Option Nat) (bottlePreset : Option String)
    (troop : BreathingTroop) : Except Fehler BreathingTroop :=
  if troop.status ≠ .erholt then
    .error (.valueError "Nur ein erholter Atemschutztrupp kann erneut eingesetzt werden.")
  else match validatedMembersData membersData with
  | .error fehler => .error fehler
  | .ok filledMembers =>
    .ok (redeployed schluessel filledMembers taskText locationText plannedDurationMin bottlePreset troop)

/-- The start of one member: its withdraw pressure is the lower limit until the
objective is reported, and its bottle is at the start pressure. -/
def TroopMember.started (untergrenze : ℚ) (member : TroopMember) : TroopMember :=
  if member.startPress.isSome then
    { member with withdrawPress := some untergrenze, currentPress := member.startPress }
  else member

/-- `_now` is read for the readiness, the override and the entry. -/
def started (fl : Gleitkomma) (umgebung : Umgebung) (issues : List String) (reason : String)
    (overrideUserId : Option Nat) (troop : BreathingTroop) : BreathingTroop :=
  let untergrenze : ℚ := umgebung.asuewSettings.rueckzugUntergrenzeBar
  let pressures := troop.activeMembers.filterMap (·.startPress)
  { troop with
    readinessOverrideReason := if issues ≠ [] then some reason else troop.readinessOverrideReason
    readinessOverrideByUserId := if issues ≠ [] then overrideUserId else troop.readinessOverrideByUserId
    readinessOverrideAt := if issues ≠ [] then some (umgebung.uhr 1) else troop.readinessOverrideAt
    withdrawPressCalc := some untergrenze
    startPressAvg := if pressures = [] then troop.startPressAvg else some (fl.mittel pressures)
    members := troop.members.map fun member =>
      if member.deploymentId.isNone then member.started untergrenze else member
    status := .imEinsatz
    entryAt := some (umgebung.uhr 2) }

def startTroop (fl : Gleitkomma) (umgebung : Umgebung) (overrideReason : Option String)
    (overrideUserId : Option Nat) (troop : BreathingTroop) : Except Fehler BreathingTroop :=
  if troop.activeMembers.length < 2 then
    .error (.valueError "Ein Atemschutztrupp benötigt mindestens 2 Mitglieder.")
  else
    let issues := checkStartReadiness fl umgebung troop
    let reason := strip (overrideReason.getD "")
    if issues ≠ [] ∧ reason = "" then .error (.readinessWarning issues)
    else .ok (started fl umgebung issues reason overrideUserId troop)

def moved (status : TroopStatus) (now : Zeit) (troop : BreathingTroop) : BreathingTroop :=
  { troop with
    status := status
    withdrawAt := if status = .rueckzug then some now else troop.withdrawAt
    backAt := if status = .zurueck then some now else troop.backAt
    escalatedAt := if status.inside then troop.escalatedAt else none }

def updateTroopStatus (umgebung : Umgebung) (newStatus : String) (ts : Option Zeit) (troop : BreathingTroop) :
    Except Fehler BreathingTroop :=
  match TroopStatus.ofText? newStatus with
  | none => .error (.valueError ("Unbekannter Truppstatus: " ++ newStatus))
  | some status =>
    if status = troop.status then .ok troop
    else if status ∉ allowedTroopTransitions troop.status then
      .error (.invalidTroopTransition ("Statusübergang " ++ troop.status.text ++ " -> " ++ newStatus ++ " ist nicht erlaubt."))
    else .ok (moved status (ts.getD (umgebung.uhr 0)) troop)

end Einsatzcockpit.Breathing

namespace Einsatzcockpit.Breathing

inductive Operation where
  | start (overrideReason : Option String) (overrideUserId : Option Nat)
  | status (newStatus : String) (ts : Option Zeit)
  | redeploy (skipped : Schluessel) (membersData : List MemberData) (taskText locationText : Option String)
      (plannedDurationMin : Option Nat) (bottlePreset : Option String)
  | druck (messung : Messung) (note korrekturGrund : Option String)
  | kontrolle (meldung : Kontrollmeldung)
  | einsatzziel (messung : Messung)
  | enddruck (messung : Messung)
  | funkverlust (active : Bool) (ts : Option Zeit)
  | notfall (userId : Option Nat) (ts : Option Zeit)
  | notfallAufheben
  | meldung (text : Option String) (ts : Option Zeit)
  | ack (kind : AckKind) (ts : Option Zeit)

structure Request where
  umgebung : Umgebung
  operation : Operation

structure Stand where
  troop : BreathingTroop
  next : Schluessel

/-- The next keys once other troops have taken `skipped` of them. -/
def Schluessel.skip (next skipped : Schluessel) : Schluessel :=
  ⟨next.member + skipped.member, next.deployment + skipped.deployment⟩

/-- The next keys after a request that was given `used`. -/
def Schluessel.after (used : Schluessel) (troop troop' : BreathingTroop) : Schluessel :=
  ⟨used.member + (troop'.members.length - troop.members.length),
    used.deployment + (troop'.deployments.length - troop.deployments.length)⟩

/-- A troop just created with `keys`. -/
def born (keys : Schluessel) (troop : BreathingTroop) : Stand :=
  ⟨troop, ⟨keys.member + troop.members.length, keys.deployment⟩⟩

def Operation.skipped : Operation → Schluessel
  | .redeploy skipped .. => skipped
  | _ => ⟨0, 0⟩

variable (fl : Gleitkomma)

def apply (keys : Schluessel) (request : Request) (troop : BreathingTroop) : Except Fehler BreathingTroop :=
  match request.operation with
  | .start reason userId => startTroop fl request.umgebung reason userId troop
  | .status newStatus ts => updateTroopStatus request.umgebung newStatus ts troop
  | .redeploy _ membersData taskText locationText planned preset =>
    redeployTroop keys membersData taskText locationText planned preset troop
  | .druck messung note reason => logPressure fl request.umgebung messung note reason false troop
  | .kontrolle meldung => recordKontrolle fl request.umgebung meldung troop
  | .einsatzziel messung => reportObjectiveReached fl request.umgebung messung troop
  | .enddruck messung => reportBackPressure messung troop
  | .funkverlust active ts => setFunkVerloren request.umgebung active ts troop
  | .notfall userId ts => declareNotfall request.umgebung userId ts troop
  | .notfallAufheben => .ok (clearNotfall troop)
  | .meldung text ts => .ok (updateMeldung request.umgebung text ts troop)
  | .ack kind ts => ackWarning fl request.umgebung kind ts troop

def step (stand : Stand) (request : Request) : Stand :=
  let keys := stand.next.skip request.operation.skipped
  match apply fl keys request stand.troop with
  | .ok troop => ⟨troop, keys.after stand.troop troop⟩
  | .error _ => stand

end Einsatzcockpit.Breathing
