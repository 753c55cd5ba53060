import Mathlib.Data.Rat.Defs
import Einsatzcockpit.Basis

namespace Einsatzcockpit.Breathing

/-- `TROOP_STATUSES` -/
inductive TroopStatus where
  | bereit | imEinsatz | rueckzug | zurueck | erholt
  deriving DecidableEq

def TroopStatus.text : TroopStatus → String
  | bereit => "bereit"
  | imEinsatz => "im_einsatz"
  | rueckzug => "rueckzug"
  | zurueck => "zurueck"
  | erholt => "erholt"

def TroopStatus.ofText? : String → Option TroopStatus
  | "bereit" => some bereit
  | "im_einsatz" => some imEinsatz
  | "rueckzug" => some rueckzug
  | "zurueck" => some zurueck
  | "erholt" => some erholt
  | _ => none

/-- `status in ("im_einsatz", "rueckzug")` -/
def TroopStatus.inside : TroopStatus → Bool
  | imEinsatz | rueckzug => true
  | _ => false

/-- `ALLOWED_TROOP_TRANSITIONS` -/
def allowedTroopTransitions : TroopStatus → List TroopStatus
  | .imEinsatz => [.rueckzug, .zurueck]
  | .rueckzug => [.zurueck]
  | .zurueck => [.erholt]
  | _ => []

/-- A row of `troop_member`. Pressures are finite floats, held by their exact
value. -/
structure TroopMember where
  id : Nat
  deploymentId : Option Nat := none
  memberId : Option Nat := none
  freeTextName : Option String := none
  role : String := "truppmann"
  startPress : Option ℚ := none
  currentPress : Option ℚ := none
  objectivePress : Option ℚ := none
  objectivePressAt : Option Zeit := none
  withdrawPress : Option ℚ := none
  backPress : Option ℚ := none
  deriving DecidableEq

/-- A row of `pressure_log`. -/
structure PressureLog where
  ts : Zeit
  troopMemberId : Nat
  memberId : Option Nat
  pressureBar : ℚ
  note : Option String
  nachgetragen : Bool
  recordedByUserId : Option Nat
  deriving DecidableEq

inductive Stufe where
  | oneThird | twoThird | frei
  deriving DecidableEq

inductive Art where
  | funk | keinKontakt
  deriving DecidableEq

/-- A row of `breathing_kontrolle`. -/
structure BreathingKontrolle where
  deploymentId : Option Nat := none
  stufe : Stufe
  art : Art
  faelligAt : Option Zeit
  erledigtAt : Zeit
  nachgetragen : Bool
  niedrigsterDruck : Option ℚ
  troopMemberId : Option Nat
  note : Option String
  userId : Option Nat
  deriving DecidableEq

/-- A row of `breathing_deployment`, the snapshot of a finished cycle. -/
structure BreathingDeployment where
  id : Nat
  lfdNr : Nat
  entryAt : Option Zeit
  withdrawAt : Option Zeit
  backAt : Option Zeit
  status : TroopStatus
  plannedDurationMin : Option Nat
  bottlePreset : Option String
  taskText : Option String
  locationText : Option String
  ueberwacherName : Option String
  angriffsweg : Option String
  funkkanal : Option String
  funkVerlorenAt : Option Zeit
  notfallAt : Option Zeit
  startPressAvg : Option ℚ
  withdrawPressCalc : Option ℚ
  warnOneThirdAckedAt : Option Zeit
  warnTwoThirdAckedAt : Option Zeit
  warnMaxTimeAckedAt : Option Zeit
  warnWithdrawAckedAt : Option Zeit
  warnWithdrawAckedPress : Option ℚ
  readinessOverrideReason : Option String
  readinessOverrideByUserId : Option Nat
  readinessOverrideAt : Option Zeit
  escalatedAt : Option Zeit

/-- A row of `breathing_troop` with the rows that belong to it. -/
structure BreathingTroop where
  id : Nat
  incidentId : Nat
  vehicleId : Option Nat := none
  name : String
  unitName : Option String := none
  isSicherheitstrupp : Bool := false
  status : TroopStatus := .bereit
  taskText : Option String := none
  plannedDurationMin : Option Nat := none
  bottlePreset : Option String := none
  locationText : Option String := none
  ueberwacherUserId : Option Nat := none
  ueberwacherName : Option String := none
  angriffsweg : Option String := none
  funkkanal : Option String := none
  funkVerlorenAt : Option Zeit := none
  notfallAt : Option Zeit := none
  notfallVonUserId : Option Nat := none
  lastMeldungAt : Option Zeit := none
  lastMeldungText : Option String := none
  warnOneThirdAckedAt : Option Zeit := none
  warnTwoThirdAckedAt : Option Zeit := none
  warnMaxTimeAckedAt : Option Zeit := none
  warnWithdrawAckedAt : Option Zeit := none
  warnWithdrawAckedPress : Option ℚ := none
  readinessOverrideReason : Option String := none
  readinessOverrideByUserId : Option Nat := none
  readinessOverrideAt : Option Zeit := none
  escalatedAt : Option Zeit := none
  startPressAvg : Option ℚ := none
  entryAt : Option Zeit := none
  withdrawPressCalc : Option ℚ := none
  withdrawAt : Option Zeit := none
  backAt : Option Zeit := none
  members : List TroopMember := []
  pressureLogs : List PressureLog := []
  kontrollen : List BreathingKontrolle := []
  deployments : List BreathingDeployment := []

namespace BreathingTroop

variable (troop : BreathingTroop)

def activeMembers : List TroopMember :=
  troop.members.filter (·.deploymentId.isNone)

def activeKontrollen : List BreathingKontrolle :=
  troop.kontrollen.filter (·.deploymentId.isNone)

/-- `log.troop_member` -/
def troopMember (log : PressureLog) : Option TroopMember :=
  troop.members.find? (·.id = log.troopMemberId)

/-- `pressure_log.troop_member.deployment_id is None` -/
def inCycle (log : PressureLog) : Bool :=
  (troop.troopMember log).any (·.deploymentId.isNone)

def activePressureLogs : List PressureLog :=
  troop.pressureLogs.filter troop.inCycle

def oneThirdSeconds : Option Nat := troop.plannedDurationMin.map (· * 20)

def twoThirdSeconds : Option Nat := troop.plannedDurationMin.map (· * 40)

def maxSeconds : Option Nat := troop.plannedDurationMin.map (· * 60)

/-- The troop with `change` written to the crew member `id`. -/
def setMember (id : Nat) (change : TroopMember → TroopMember) : BreathingTroop :=
  { troop with members := troop.members.map fun member => if member.id = id then change member else member }

end BreathingTroop

end Einsatzcockpit.Breathing
