import Mathlib.Data.Rat.Floor
import Einsatzcockpit.Breathing.Records

namespace Einsatzcockpit.Breathing

/-- The float arithmetic the service uses: the rounding of an exact result to a
float, `round(x, 1)`, `sum(xs) / len(xs)` and the format `g`. -/
structure Gleitkomma where
  rund : ℚ → ℚ
  rund1 : ℚ → ℚ
  mittel : List ℚ → ℚ
  g : ℚ → String

def exakt : Gleitkomma where
  rund := id
  rund1 q := ⌊q * 10 + 1 / 2⌋ / 10
  mittel pressures := pressures.sum / pressures.length
  g := toString

inductive Zahl where
  | endlich (q : ℚ)
  | nichtEndlich

inductive Fehler where
  | valueError (text : String)
  | invalidTroopTransition (text : String)
  | pressureIncreaseConflict (text : String)
  | readinessWarning (issues : List String)

def maxPressureBar : ℚ := 330

def validatePressure : Zahl → Except Fehler ℚ
  | .endlich value =>
    if 0 ≤ value ∧ value ≤ maxPressureBar then .ok value
    else .error (.valueError "Der Druck muss zwischen 0 und 330 bar liegen und endlich sein.")
  | .nichtEndlich => .error (.valueError "Der Druck muss zwischen 0 und 330 bar liegen und endlich sein.")

/-- One entry of `members_data`. -/
structure MemberData where
  memberId : Option Nat := none
  freeTextName : Option String := none
  role : String := "truppmann"
  startPress : Option Zahl := none

def MemberData.filled (data : MemberData) : Bool :=
  data.memberId.any (· ≠ 0) || strip (data.freeTextName.getD "") ≠ ""

structure CheckedMember where
  memberId : Option Nat
  freeTextName : Option String
  role : String
  startPress : Option ℚ

def MemberData.check (data : MemberData) : Except Fehler CheckedMember :=
  match data.startPress with
  | none => .ok ⟨data.memberId, data.freeTextName, data.role, none⟩
  | some press =>
    match validatePressure press with
    | .error fehler => .error fehler
    | .ok value => .ok ⟨data.memberId, data.freeTextName, data.role, some value⟩

/-- `_validated_members_data` -/
def validatedMembersData (membersData : List MemberData) : Except Fehler (List CheckedMember) :=
  let filledMembers := membersData.filter (·.filled)
  if filledMembers.length < 2 then .error (.valueError "Ein Atemschutztrupp benötigt mindestens 2 Mitglieder.")
  else filledMembers.mapM MemberData.check

/-- `_add_live_members`: the rows it adds, numbered from `firstId`. -/
def liveMembers : Nat → List CheckedMember → List TroopMember
  | _, [] => []
  | firstId, data :: rest =>
    { id := firstId, memberId := data.memberId, freeTextName := data.freeTextName, role := data.role,
      startPress := data.startPress, currentPress := data.startPress } :: liveMembers (firstId + 1) rest

/-- `parse_erfasst_at`. `fromisoformat` reads a text with its offset and gives
the instant, or nothing where the source raises. -/
def parseErfasstAt (fromisoformat : String → Option Zeit) (value : Option String) (now : Zeit) :
    Except Fehler (Zeit × Bool) :=
  match orNone value with
  | none => .ok (now, false)
  | some text =>
    match fromisoformat text with
    | none => .error (.valueError "Ungültiger Zeitstempel.")
    | some captured =>
      let ts := if captured - now > sekunden 120 then now else captured
      if now - ts > stunden 12 then .error (.valueError "Der Zeitstempel ist zu alt.")
      else .ok (ts, decide (now - ts > sekunden 30))

theorem validatePressure_ok {value : Zahl} {press : ℚ} (ok : validatePressure value = .ok press) :
    value = .endlich press ∧ 0 ≤ press ∧ press ≤ maxPressureBar := by
  cases value with
  | nichtEndlich => simp [validatePressure] at ok
  | endlich q =>
    simp only [validatePressure] at ok
    split at ok
    · next bounds =>
      obtain rfl := Except.ok.inj ok
      exact ⟨rfl, bounds⟩
    · cases ok

theorem liveMembers_fresh {firstId : Nat} {data : List CheckedMember} {member : TroopMember}
    (live : member ∈ liveMembers firstId data) :
    member.deploymentId = none ∧ member.currentPress = member.startPress ∧ member.withdrawPress = none := by
  induction data generalizing firstId with
  | nil => cases live
  | cons head rest ih =>
    rcases List.mem_cons.mp live with rfl | later
    · exact ⟨rfl, rfl, rfl⟩
    · exact ih later

structure AsuewSettings where
  erwarteteEinsatzzeitMin : Int
  rueckzugUntergrenzeBar : Int
  gelbProzent : Int
  erholzeitMin : Int

/-- The ASÜW columns of `org_settings`. -/
structure OrgSettings where
  asuewErwarteteEinsatzzeitMin : Option Int := none
  asuewRueckzugUntergrenzeBar : Option Int := none
  asuewGelbProzent : Option Int := none
  asuewErholzeitMin : Option Int := none

def bounded (value : Option Int) (default minimum maximum : Int) : Int :=
  match value with
  | none => default
  | some value => max minimum (min maximum value)

def getAsuewSettings (row : Option OrgSettings) : AsuewSettings where
  erwarteteEinsatzzeitMin := bounded (row.bind (·.asuewErwarteteEinsatzzeitMin)) 30 5 120
  rueckzugUntergrenzeBar := bounded (row.bind (·.asuewRueckzugUntergrenzeBar)) 60 30 100
  gelbProzent := bounded (row.bind (·.asuewGelbProzent)) 75 50 95
  erholzeitMin := bounded (row.bind (·.asuewErholzeitMin)) 30 0 120

/-- What an operation reads besides its troop: the incident's primary org with
its settings row, the other troops, the names of the members, and the clock,
whose readings within the operation are numbered. -/
structure Umgebung where
  primaryOrg : Option (Option OrgSettings) := none
  troops : List BreathingTroop := []
  fullName : Nat → Option String := fun _ => none
  uhr : Nat → Zeit

/-- `_asuew_settings_for_troop` -/
def Umgebung.asuewSettings (umgebung : Umgebung) : AsuewSettings :=
  match umgebung.primaryOrg with
  | some row => getAsuewSettings row
  | none => ⟨30, 60, 75, 30⟩

def displayName (umgebung : Umgebung) (member : TroopMember) : String :=
  match member.memberId.bind umgebung.fullName with
  | some fullName => fullName
  | none => (orNone member.freeTextName).getD "Unbekannt"

/-- `BOTTLE_PRESET_NOMINAL_BAR.get` -/
def bottlePresetNominalBar : String → Option Nat
  | "1x6" | "1x6_8" | "1x9" => some 300
  | _ => none

def standbyIssues (umgebung : Umgebung) (troop : BreathingTroop) : List String :=
  if troop.isSicherheitstrupp then []
  else if umgebung.troops.any fun other => other.incidentId = troop.incidentId && other.id ≠ troop.id &&
      other.isSicherheitstrupp && other.status = .bereit then []
  else ["Kein bereiter Sicherheitstrupp für diesen Einsatz vorhanden."]

def fillIssues (fl : Gleitkomma) (umgebung : Umgebung) (troop : BreathingTroop) : List String :=
  match bottlePresetNominalBar (troop.bottlePreset.getD "") with
  | none => []
  | some nominalBar =>
    let minimum := fl.rund (nominalBar * fl.rund (9 / 10))
    troop.activeMembers.flatMap fun member =>
      match member.startPress with
      | none => []
      | some startPress =>
        if startPress < minimum then
          [displayName umgebung member ++ ": Anfangsdruck " ++ fl.g startPress ++ " bar liegt unter " ++
            "90 % des Nominalfülldrucks (" ++ fl.g minimum ++ " bar)."]
        else []

/-- `remaining / 60`, rounded up; `remaining` is a number of seconds. -/
def ceilMinutes (fl : Gleitkomma) (remaining : Zeit) : Int :=
  ⌈fl.rund (fl.rund (remaining / 1000000) / 60)⌉

def recoveryIssues (fl : Gleitkomma) (umgebung : Umgebung) (troop : BreathingTroop) : List String :=
  match troop.deployments.getLast?.bind (·.backAt) with
  | none => []
  | some backAt =>
    let erholzeitMin := umgebung.asuewSettings.erholzeitMin
    let remaining := backAt + minuten erholzeitMin - umgebung.uhr 0
    if erholzeitMin ≠ 0 ∧ 0 < remaining then
      ["Erholzeit nicht eingehalten: noch " ++ toString (ceilMinutes fl remaining) ++ " Min. (empfohlen " ++
        toString erholzeitMin ++ " Min. Pause)"]
    else []

def doubleIssues (umgebung : Umgebung) (troop : BreathingTroop) : List String :=
  let inside := umgebung.troops.filter fun other =>
    other.incidentId = troop.incidentId && other.id ≠ troop.id && other.status.inside
  inside.flatMap fun other =>
    troop.activeMembers.flatMap fun member =>
      if member.memberId.isSome && other.activeMembers.any (·.memberId = member.memberId) then
        [displayName umgebung member ++ " ist bereits in Trupp " ++ other.name ++ " im Einsatz."]
      else []

def checkStartReadiness (fl : Gleitkomma) (umgebung : Umgebung) (troop : BreathingTroop) : List String :=
  standbyIssues umgebung troop ++ fillIssues fl umgebung troop ++ recoveryIssues fl umgebung troop ++
    doubleIssues umgebung troop

end Einsatzcockpit.Breathing

namespace Einsatzcockpit.Breathing

inductive Level where
  | ok | yellow | red
  deriving DecidableEq

def Level.rank : Level → Nat
  | ok => 0
  | yellow => 1
  | red => 2

/-- The worst pressure level of a troop and the member that causes it. -/
structure PressureWarning where
  level : Level
  member : Option TroopMember

/-- `WARNUNG_KINDS`, as far as a troop itself raises them. -/
inductive Warnung where
  | withdraw | maxExceeded | oneThirdDue | twoThirdDue | funkVerloren | notfall
  deriving DecidableEq

variable (fl : Gleitkomma)

def pressureLevel (gelbProzent : Int) (member : TroopMember) : Option Level :=
  match member.currentPress, member.startPress with
  | some current, some startPress =>
    if member.withdrawPress.any (current ≤ ·) then some .red
    else if current ≤ fl.rund (fl.rund (startPress * gelbProzent) / 100) then some .yellow
    else some .ok
  | _, _ => none

def worse (gelbProzent : Int) (worst : PressureWarning) (member : TroopMember) : PressureWarning :=
  match pressureLevel fl gelbProzent member with
  | none => worst
  | some candidate => if candidate.rank > worst.level.rank then ⟨candidate, some member⟩ else worst

def getWarningLevel (troop : BreathingTroop) (gelbProzent : Int) : PressureWarning :=
  troop.activeMembers.foldl (worse fl gelbProzent) ⟨.ok, none⟩

namespace BreathingTroop

variable (troop : BreathingTroop)

def controlled (stufe : Stufe) : Bool :=
  troop.activeKontrollen.any fun kontrolle => kontrolle.art = .funk && kontrolle.stufe = stufe

/-- A pressure of this cycle was reported at or after `dueAt`. -/
def reported (dueAt : Zeit) : Bool :=
  troop.activePressureLogs.any (dueAt ≤ ·.ts)

end BreathingTroop

/-- One stage of `get_time_warnings`. -/
def stageWarning (troop : BreathingTroop) (entry now : Zeit) (dueSeconds : Option Nat) (warning : Warnung)
    (stufe : Stufe) : List Warnung :=
  match dueSeconds with
  | none => []
  | some due =>
    if due ≠ 0 ∧ now - entry ≥ sekunden due then
      if troop.controlled stufe || troop.reported (entry + sekunden due) then [] else [warning]
    else []

def maxWarning (troop : BreathingTroop) (entry now : Zeit) : List Warnung :=
  match troop.maxSeconds with
  | none => []
  | some maxSeconds =>
    if maxSeconds ≠ 0 ∧ now - entry ≥ sekunden maxSeconds then
      if troop.warnMaxTimeAckedAt.isNone then [.maxExceeded] else []
    else []

def getTimeWarnings (troop : BreathingTroop) (now : Zeit) : List Warnung :=
  match troop.entryAt with
  | none => []
  | some entry =>
    if troop.status.inside then
      maxWarning troop entry now ++ stageWarning troop entry now troop.twoThirdSeconds .twoThirdDue .twoThird ++
        stageWarning troop entry now troop.oneThirdSeconds .oneThirdDue .oneThird
    else []

def safetyWarning (troop : BreathingTroop) : List Warnung :=
  if troop.notfallAt.isSome then [.notfall]
  else if troop.funkVerlorenAt.isSome then [.funkVerloren]
  else []

/-- The condition under which `check_troop_warnings` raises 'withdraw'. -/
def withdrawDue (troop : BreathingTroop) : Bool :=
  let pressureWarn := getWarningLevel fl troop 75
  pressureWarn.level = .red &&
    (troop.warnWithdrawAckedAt.isNone ||
      match pressureWarn.member.bind (·.currentPress), troop.warnWithdrawAckedPress with
      | some triggerPress, some ackPress => decide (triggerPress < ackPress)
      | _, _ => false)

def checkTroopWarnings (troop : BreathingTroop) (now : Zeit) : List Warnung :=
  safetyWarning troop ++ (if withdrawDue fl troop then [.withdraw] else []) ++ getTimeWarnings troop now

end Einsatzcockpit.Breathing
