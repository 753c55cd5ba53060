import Mathlib.Data.List.MinMax
import Einsatzcockpit.Breathing.Validation

namespace Einsatzcockpit.Breathing

structure Messung where
  troopMemberId : Nat
  pressureBar : Zahl
  recordedByUserId : Option Nat := none
  ts : Option Zeit := none
  nachgetragen : Bool := false

namespace BreathingTroop

variable (troop : BreathingTroop)

def activeMember? (id : Nat) : Option TroopMember :=
  troop.activeMembers.find? (·.id = id)

/-- A pressure of the member was captured after `now`. -/
def historical (memberId : Nat) (now : Zeit) : Bool :=
  troop.activePressureLogs.any fun log => log.troopMemberId = memberId && now < log.ts

end BreathingTroop

/-- `current_press + 10` is exceeded. -/
def rises (fl : Gleitkomma) (member : TroopMember) (pressureBar : ℚ) : Bool :=
  member.currentPress.any fun current => fl.rund (current + 10) < pressureBar

def correctedNote (reason : String) (note : Option String) : Option String :=
  if reason = "" then orNone note
  else
    let correction := "Korrektur: " ++ reason
    match orNone note with
    | some note => some (clip 300 (correction ++ "; " ++ note))
    | none => some correction

def pressureLog (messung : Messung) (member : TroopMember) (pressureBar : ℚ) (note : Option String) (now : Zeit) :
    PressureLog where
  ts := now
  troopMemberId := member.id
  memberId := member.memberId
  pressureBar := pressureBar
  note := note
  nachgetragen := messung.nachgetragen
  recordedByUserId := messung.recordedByUserId

def pressed (messung : Messung) (member : TroopMember) (pressureBar : ℚ) (note : Option String) (now : Zeit)
    (troop : BreathingTroop) : BreathingTroop :=
  let logged := { troop with pressureLogs := troop.pressureLogs ++ [pressureLog messung member pressureBar note now] }
  if troop.historical member.id now then logged
  else { logged.setMember member.id ({ · with currentPress := some pressureBar }) with
    lastMeldungAt := some now
    lastMeldungText := note <|> troop.lastMeldungText }

def logPressure (fl : Gleitkomma) (umgebung : Umgebung) (messung : Messung) (note korrekturGrund : Option String)
    (allowIncrease : Bool) (troop : BreathingTroop) : Except Fehler BreathingTroop :=
  match validatePressure messung.pressureBar with
  | .error fehler => .error fehler
  | .ok pressureBar =>
    if !troop.status.inside then
      .error (.valueError "Druckmeldungen sind nur im Einsatz oder Rückzug erlaubt.")
    else match troop.activeMember? messung.troopMemberId with
    | none => .error (.valueError "Das Truppmitglied gehört nicht zu diesem Atemschutztrupp.")
    | some member =>
      let now := messung.ts.getD (umgebung.uhr 0)
      let reason := strip (korrekturGrund.getD "")
      if reason ≠ "" ∧ ¬(3 ≤ reason.length ∧ reason.length ≤ 250) then
        .error (.pressureIncreaseConflict "Der Korrekturgrund muss 3 bis 250 Zeichen lang sein.")
      else if !troop.historical member.id now && !allowIncrease && rises fl member pressureBar && reason = "" then
        .error (.pressureIncreaseConflict "Der Druck kann nicht steigen. Bei einer Korrektur bitte einen Grund angeben.")
      else .ok (pressed messung member pressureBar (correctedNote reason note) now troop)

def Stufe.ofText? : String → Option Stufe
  | "one_third" => some oneThird
  | "two_third" => some twoThird
  | "frei" => some frei
  | _ => none

def Art.ofText? : String → Option Art
  | "funk" => some funk
  | "kein_kontakt" => some keinKontakt
  | _ => none

def Stufe.label : Stufe → String
  | oneThird => "1/3"
  | twoThird => "2/3"
  | frei => "frei"

def dueSeconds (troop : BreathingTroop) : Stufe → Option Nat
  | .oneThird => troop.oneThirdSeconds
  | .twoThird => troop.twoThirdSeconds
  | .frei => none

/-- The member a radio check without a named member belongs to: the first with
the lowest pressure, or else the first of the crew. -/
def lowestMember (troop : BreathingTroop) : Option TroopMember :=
  ((troop.activeMembers.filter (·.currentPress.isSome)).argmin (·.currentPress.getD 0)) <|>
    troop.activeMembers.head?

/-- The arguments of `record_kontrolle`. -/
structure Kontrollmeldung where
  stufe : String
  art : String
  pressureBar : Option Zahl := none
  troopMemberId : Option Nat := none
  note : Option String := none
  userId : Option Nat := none
  ts : Option Zeit := none
  nachgetragen : Bool := false

/-- The row `record_kontrolle` adds. -/
def kontrolle (umgebung : Umgebung) (meldung : Kontrollmeldung) (stufe : Stufe) (art : Art)
    (niedrigsterDruck : Option ℚ) (troopMemberId : Option Nat) (troop : BreathingTroop) : BreathingKontrolle where
  stufe := stufe
  art := art
  faelligAt := match troop.entryAt, dueSeconds troop stufe with
    | some entryAt, some due => some (entryAt + sekunden due)
    | _, _ => none
  erledigtAt := meldung.ts.getD (umgebung.uhr 1)
  nachgetragen := meldung.nachgetragen
  niedrigsterDruck := niedrigsterDruck
  troopMemberId := troopMemberId
  note := meldung.note
  userId := meldung.userId

def funkMessung (meldung : Kontrollmeldung) (pressureBar : Zahl) (troopMemberId : Nat) : Messung where
  troopMemberId := troopMemberId
  pressureBar := pressureBar
  recordedByUserId := meldung.userId
  ts := meldung.ts
  nachgetragen := meldung.nachgetragen

def funkNote (meldung : Kontrollmeldung) (stufe : Stufe) : Option String :=
  orNone meldung.note <|> some ("Kontrolle " ++ stufe.label ++ ": niedrigster Druck")

def checked (umgebung : Umgebung) (meldung : Kontrollmeldung) (stufe : Stufe) (niedrigsterDruck : ℚ)
    (troopMemberId : Nat) (logged : BreathingTroop) : BreathingTroop :=
  { logged with
    kontrollen := logged.kontrollen ++
      [kontrolle umgebung meldung stufe .funk (some niedrigsterDruck) (some troopMemberId) logged] }

def funkkontrolle (fl : Gleitkomma) (umgebung : Umgebung) (meldung : Kontrollmeldung) (stufe : Stufe)
    (troop : BreathingTroop) : Except Fehler BreathingTroop :=
  match meldung.pressureBar with
  | none => .error (.valueError "Eine Funkkontrolle benötigt den niedrigsten Flaschendruck.")
  | some pressureBar =>
    match validatePressure pressureBar with
    | .error fehler => .error fehler
    | .ok niedrigsterDruck =>
      match meldung.troopMemberId <|> (lowestMember troop).map (·.id) with
      | none => .error (.valueError "Das Truppmitglied fehlt.")
      | some troopMemberId =>
        match logPressure fl umgebung (funkMessung meldung pressureBar troopMemberId) (funkNote meldung stufe) none
          true troop with
        | .error fehler => .error fehler
        | .ok logged => .ok (checked umgebung meldung stufe niedrigsterDruck troopMemberId logged)

def keinKontakt (umgebung : Umgebung) (meldung : Kontrollmeldung) (stufe : Stufe) (troop : BreathingTroop) :
    BreathingTroop :=
  { troop with
    funkVerlorenAt := some (meldung.ts.getD (umgebung.uhr 1))
    kontrollen := troop.kontrollen ++
      [kontrolle umgebung meldung stufe .keinKontakt none meldung.troopMemberId troop] }

def recordKontrolle (fl : Gleitkomma) (umgebung : Umgebung) (meldung : Kontrollmeldung) (troop : BreathingTroop) :
    Except Fehler BreathingTroop :=
  match Stufe.ofText? meldung.stufe, Art.ofText? meldung.art with
  | none, _ => .error (.valueError "Unbekannte Kontrollstufe.")
  | some _, none => .error (.valueError "Unbekannte Kontrollart.")
  | some stufe, some art =>
    if !troop.status.inside then .error (.valueError "Kontrollen sind nur im Einsatz oder Rückzug erlaubt.")
    else match art with
    | .funk => funkkontrolle fl umgebung meldung stufe troop
    | .keinKontakt => .ok (keinKontakt umgebung meldung stufe troop)

def setFunkVerloren (umgebung : Umgebung) (active : Bool) (ts : Option Zeit) (troop : BreathingTroop) :
    Except Fehler BreathingTroop :=
  if active && !troop.status.inside then
    .error (.valueError "Funkverlust kann nur im Einsatz oder Rückzug gemeldet werden.")
  else .ok { troop with
    funkVerlorenAt := if active then some (troop.funkVerlorenAt.getD (ts.getD (umgebung.uhr 0))) else none }

def declareNotfall (umgebung : Umgebung) (userId : Option Nat) (ts : Option Zeit) (troop : BreathingTroop) :
    Except Fehler BreathingTroop :=
  if !troop.status.inside then
    .error (.valueError "Ein Notfall kann nur im Einsatz oder Rückzug gemeldet werden.")
  else if troop.notfallAt.isSome then .ok troop
  else .ok { troop with notfallAt := some (ts.getD (umgebung.uhr 0)), notfallVonUserId := userId }

def clearNotfall (troop : BreathingTroop) : BreathingTroop :=
  { troop with notfallAt := none, notfallVonUserId := none }

def objectiveWithdraw (fl : Gleitkomma) (untergrenze startPress pressureBar : ℚ) : ℚ :=
  fl.rund1 (max untergrenze (fl.rund (2 * fl.rund (startPress - pressureBar))))

def TroopMember.atObjective (fl : Gleitkomma) (untergrenze startPress pressureBar : ℚ) (now : Zeit)
    (member : TroopMember) : TroopMember :=
  { member with
    objectivePress := some pressureBar
    objectivePressAt := some now
    currentPress := some pressureBar
    withdrawPress := some (objectiveWithdraw fl untergrenze startPress pressureBar) }

def objectiveReached (fl : Gleitkomma) (untergrenze : ℚ) (messung : Messung) (member : TroopMember)
    (startPress pressureBar : ℚ) (now : Zeit) (troop : BreathingTroop) : BreathingTroop :=
  { troop.setMember member.id (·.atObjective fl untergrenze startPress pressureBar now) with
    pressureLogs := troop.pressureLogs ++ [pressureLog messung member pressureBar (some "Einsatzziel erreicht") now]
    lastMeldungAt := some now
    lastMeldungText := some "Einsatzziel erreicht" }

def reportObjectiveReached (fl : Gleitkomma) (umgebung : Umgebung) (messung : Messung) (troop : BreathingTroop) :
    Except Fehler BreathingTroop :=
  match validatePressure messung.pressureBar with
  | .error fehler => .error fehler
  | .ok pressureBar =>
    if !troop.status.inside then
      .error (.valueError "Das Einsatzziel kann nur im Einsatz oder Rückzug gemeldet werden.")
    else match troop.activeMember? messung.troopMemberId with
    | none => .error (.valueError "Das Truppmitglied oder sein Anfangsdruck fehlt.")
    | some member =>
      match member.startPress with
      | none => .error (.valueError "Das Truppmitglied oder sein Anfangsdruck fehlt.")
      | some startPress =>
        .ok (objectiveReached fl umgebung.asuewSettings.rueckzugUntergrenzeBar messung member startPress pressureBar
          (messung.ts.getD (umgebung.uhr 0)) troop)

def reportBackPressure (messung : Messung) (troop : BreathingTroop) : Except Fehler BreathingTroop :=
  match validatePressure messung.pressureBar with
  | .error fehler => .error fehler
  | .ok pressureBar =>
    if troop.status ∉ [TroopStatus.zurueck, .erholt, .rueckzug] then
      .error (.valueError "Der Enddruck kann nur im Rückzug oder nach der Rückkehr gemeldet werden.")
    else match troop.activeMember? messung.troopMemberId with
    | none => .error (.valueError "Das Truppmitglied gehört nicht zu diesem Atemschutztrupp.")
    | some member => .ok (troop.setMember member.id ({ · with backPress := some pressureBar }))

def updateMeldung (umgebung : Umgebung) (text : Option String) (ts : Option Zeit) (troop : BreathingTroop) :
    BreathingTroop :=
  { troop with lastMeldungAt := some (ts.getD (umgebung.uhr 0)), lastMeldungText := orNone text }

inductive AckKind where
  | oneThird | twoThird | maxTime | withdraw

def ackWarning (fl : Gleitkomma) (umgebung : Umgebung) (kind : AckKind) (ts : Option Zeit) (troop : BreathingTroop) :
    Except Fehler BreathingTroop :=
  let now := ts.getD (umgebung.uhr 0)
  match kind with
  | .oneThird | .twoThird =>
    .error (.valueError "Die Kontrolle erfolgt über Druckabfrage, nicht über Quittieren.")
  | .maxTime => .ok { troop with warnMaxTimeAckedAt := some now, escalatedAt := none }
  | .withdraw => .ok { troop with
      warnWithdrawAckedAt := some now
      warnWithdrawAckedPress := (getWarningLevel fl troop 75).member.bind (·.currentPress) }

end Einsatzcockpit.Breathing
