import Einsatzcockpit.Lib.Table
import Einsatzcockpit.Breathing.Validation

namespace Einsatzcockpit.Notify

/-- `WARNUNG_KINDS` -/
inductive Kind where
  | withdraw | maxExceeded | oneThirdDue | twoThirdDue | funkVerloren | notfall | keinSicherheitstrupp | assp
  | keinHeartbeat
  deriving DecidableEq

namespace Kind

def text : Kind → String
  | withdraw => "withdraw"
  | maxExceeded => "max_exceeded"
  | oneThirdDue => "one_third_due"
  | twoThirdDue => "two_third_due"
  | funkVerloren => "funk_verloren"
  | notfall => "notfall"
  | keinSicherheitstrupp => "kein_sicherheitstrupp"
  | assp => "assp"
  | keinHeartbeat => "kein_heartbeat"

def all : List Kind :=
  [withdraw, maxExceeded, oneThirdDue, twoThirdDue, funkVerloren, notfall, keinSicherheitstrupp, assp, keinHeartbeat]

def ofText? (text : String) : Option Kind :=
  all.find? fun kind => kind.text == text

def ofWarnung : Breathing.Warnung → Kind
  | .withdraw => withdraw
  | .maxExceeded => maxExceeded
  | .oneThirdDue => oneThirdDue
  | .twoThirdDue => twoThirdDue
  | .funkVerloren => funkVerloren
  | .notfall => notfall

theorem mem_all (kind : Kind) : kind ∈ all := by
  cases kind <;> decide

end Kind

inductive Gruppe where
  | ueberwacher | leitung

inductive Kanal where
  | push | sms
  deriving DecidableEq

/-- An entry of `ESKALATIONSPLAN`; without a delay the grace of the organisation counts. -/
structure Stufe where
  stufe : Nat
  delay : Option Int
  gruppe : Gruppe
  kanaele : List Kanal
  alarm : Bool

/-- `ESKALATIONSPLAN` -/
def eskalationsplan : Kind → List Stufe
  | .oneThirdDue | .twoThirdDue =>
    [⟨0, some 60, .ueberwacher, [.push], true⟩, ⟨1, some 180, .leitung, [.push], true⟩,
      ⟨2, some 300, .leitung, [.sms], false⟩]
  | .withdraw => [⟨0, some 0, .ueberwacher, [.push], true⟩, ⟨1, some 60, .leitung, [.push, .sms], true⟩]
  | .maxExceeded => [⟨0, some 0, .ueberwacher, [.push], true⟩, ⟨1, none, .leitung, [.push, .sms], true⟩]
  | .funkVerloren => [⟨0, some 0, .ueberwacher, [.push], true⟩, ⟨0, some 0, .leitung, [.push, .sms], true⟩]
  | .notfall => [⟨0, some 0, .ueberwacher, [.push, .sms], true⟩, ⟨0, some 0, .leitung, [.push, .sms], true⟩]
  | .keinSicherheitstrupp => [⟨0, some 0, .leitung, [.push], false⟩]
  | .assp => [⟨0, some 0, .leitung, [.push], false⟩]
  | .keinHeartbeat => [⟨0, some 0, .leitung, [.push], true⟩, ⟨1, some 180, .leitung, [.sms], false⟩]

/-- A row of `user`; `supervisor` says that it has the role 'breathing_supervisor'. -/
structure User where
  id : Nat
  orgId : Option Nat
  active : Bool
  phone : Option String
  displayName : String
  supervisor : Bool := false

/-- A row of `org_settings` with its list of user ids as parsed. -/
structure OrgSettings where
  orgId : Nat
  eskalationUserIds : List Nat
  eskalationSms : Option Bool

/-- A row of `fire_dept`. -/
structure FireDept where
  id : Nat
  escalationGraceMin : Option Int

structure Stammdaten where
  users : List User := []
  orgSettings : List OrgSettings := []
  fireDepts : List FireDept := []

structure Incident where
  id : Nat
  primaryOrgId : Option Nat
  incidentLeaderUserId : Option Nat := none
  isExercise : Bool := false
  active : Bool := true
  lisOperationNumber : Option String := none

/-- A row of `breathing_warnung`. -/
structure BreathingWarnung where
  id : Nat
  incidentId : Nat
  troopId : Nat
  zyklusStart : Option Zeit
  kind : Kind
  ausgeloestAt : Zeit
  erledigtAt : Option Zeit := none
  deriving DecidableEq

inductive Status where
  | pending | claimed | sent | failed | suppressed
  deriving DecidableEq

/-- A row of `breathing_zustellung`. -/
structure BreathingZustellung where
  id : Nat
  warnungId : Nat
  stufe : Nat
  kanal : Kanal
  userId : Option Nat
  empfaengerLabel : Option String
  status : Status := .pending
  versuche : Nat := 0
  naechsterVersuchAt : Option Zeit
  leaseBis : Option Zeit := none
  fehler : Option String := none
  gesendetAt : Option Zeit := none
  deriving DecidableEq

/-- The columns of `uq_breathing_zustellung_empfaenger`. -/
def BreathingZustellung.key (zeile : BreathingZustellung) : Nat × Nat × Kanal × Option Nat :=
  (zeile.warnungId, zeile.stufe, zeile.kanal, zeile.userId)

structure Db where
  warnungen : List BreathingWarnung := []
  zustellungen : List BreathingZustellung := []
  deriving DecidableEq

def Db.offene (db : Db) (troopId : Nat) : List BreathingWarnung :=
  db.warnungen.filter fun warnung => warnung.troopId == troopId && warnung.erledigtAt.isNone

def Db.arten (db : Db) (troopId : Nat) : List Kind :=
  (db.offene troopId).map (·.kind)

end Einsatzcockpit.Notify
