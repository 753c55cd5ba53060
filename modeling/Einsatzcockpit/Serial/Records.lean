import Einsatzcockpit.Lib.Run
import Einsatzcockpit.Lib.Table
import Einsatzcockpit.Basis

/-! Storing and processing of serial alarms, `serial_alarm_service.py`, by any
number of workers. -/

namespace Einsatzcockpit.Serial

open Relational

inductive ProcessStatus where
  | stored | processing | applied | error | logged
  deriving DecidableEq

/-- `parsed`, with the two entries of an ELVis event that are read. -/
structure Parsed where
  elvisTest : Bool := false
  elvisMode : Option String := none
  text : String := ""

structure Lesung where
  parsed : Option Parsed
  parseStatus : String
  parserVersion : Option String
  leitstellennummer : Option String
  processError : Option String

/-- A row of `alarm_ingest`. -/
structure AlarmIngest where
  id : Nat
  orgId : Nat
  gatewayId : Nat
  rawHash : String
  contentHash : String
  rawText : String
  rawBytes : Option (List UInt8) := none
  charset : Option String := none
  parsed : Option Parsed := none
  parseStatus : String
  sequence : Option Int := none
  receivedAtGateway : Option Zeit := none
  source : String := "wut"
  receivedAt : Zeit
  processStatus : ProcessStatus
  processAttempts : Nat := 0
  processError : Option String := none
  leaseUntil : Option Zeit := none
  parsedAt : Option Zeit := none
  appliedAt : Option Zeit := none
  parserVersion : Option String := none
  leitstellennummer : Option String := none
  versionNo : Option Nat := none
  einsatzId : Option Nat := none
  dedupAction : Option String := none

/-- The arguments of `store_raw` and its time `now`; an event that raises no
alarm is stored as logged. -/
structure Telegramm where
  orgId : Nat
  gatewayId : Nat
  rawText : String
  rawBytes : Option (List UInt8) := none
  charset : Option String := none
  parsed : Option Parsed := none
  parseStatus : String := "parse_failed"
  sequence : Option Int := none
  receivedAtGateway : Option Zeit := none
  source : String := "wut"
  logged : Bool := false
  now : Zeit

/-- What `_create_or_link_incident` gives: the incident with the action, what it
has left in the ingest, and its effect on the incidents. -/
structure Anlage (ω : Type) where
  incident : Option (Nat × String)
  lesung : Lesung
  versionNo : Option Nat := none
  wirkung : ω

/-- Where a worker stands: between the look for a duplicate and the insert; in
the transaction of `process_ingest` with the row as it sees it, before and after
the attempt, with the effect of a successful one; after the commit. -/
inductive Phase (ω : Type) where
  | frei
  | geprueft (telegramm : Telegramm)
  | beansprucht (ingest : AlarmIngest)
  | versucht (ingest : AlarmIngest) (wirkung : Option ω)
  | festgeschrieben (ingestId : Nat)

/-- The committed rows and effects on the incidents, each with the number of its
ingest, the workers, and what has happened: the answers of `store_raw`, the
commits of an applied row and the calls of `on_applied`, with the worker. -/
structure Welt (ω : Type) where
  ingests : List AlarmIngest := []
  wirkungen : List (Nat × ω) := []
  arbeiter : List (Phase ω)
  antworten : List (Telegramm × Nat × Bool) := []
  angewandt : List (Nat × Nat) := []
  onApplied : List (Nat × Nat) := []

section Store

variable (rawHash : String → String)

/-- `find_duplicate` -/
def findDuplicate (ingests : List AlarmIngest) (t : Telegramm) : Option AlarmIngest :=
  match t.sequence with
  | some _ => ingests.find? fun row => row.orgId == t.orgId && row.gatewayId == t.gatewayId && row.sequence == t.sequence
  | none => ingests.find? fun row =>
    row.orgId == t.orgId && row.contentHash == rawHash t.rawText && decide (t.now - minuten 10 ≤ row.receivedAt)

/-- The row `store_raw` adds. -/
def neuerIngest (id : Nat) (t : Telegramm) : AlarmIngest := {
  id
  orgId := t.orgId
  gatewayId := t.gatewayId
  rawHash := rawHash t.rawText
  contentHash := rawHash t.rawText
  rawText := t.rawText
  rawBytes := t.rawBytes.map (·.take 65536)
  charset := t.charset
  parsed := t.parsed
  parseStatus := t.parseStatus
  sequence := t.sequence
  receivedAtGateway := t.receivedAtGateway
  source := t.source
  receivedAt := t.now
  processStatus := if t.logged then .logged else .stored }

/-- `UNIQUE(gateway_id, sequence)` -/
def verletzt (ingests : List AlarmIngest) (t : Telegramm) : Bool :=
  t.sequence.isSome && ingests.any fun row => row.gatewayId == t.gatewayId && row.sequence == t.sequence

end Store

/-- A row that `process_ingest` may claim. -/
def beanspruchbar (now : Zeit) (row : AlarmIngest) : Bool :=
  match row.processStatus with
  | .stored | .error => true
  | .processing =>
    match row.leaseUntil with
    | some lease => decide (lease ≤ now)
    | none => decide (row.receivedAt < now - minuten 2)
  | .applied | .logged => false

def keineAlarmquelle (row : AlarmIngest) : Bool :=
  row.source == "elvis" &&
    ((row.parsed.map (·.elvisTest)).getD false || row.parsed.bind (·.elvisMode) != some "alarmquelle")

def claim (now : Zeit) (row : AlarmIngest) : AlarmIngest :=
  { row with processStatus := .processing, leaseUntil := some (now + minuten 2), parsedAt := some now }

def angelegt {ω : Type} (now : Zeit) (anlage : Anlage ω) (row : AlarmIngest) : AlarmIngest :=
  { row with
    parsed := anlage.lesung.parsed
    parseStatus := anlage.lesung.parseStatus
    parserVersion := anlage.lesung.parserVersion
    leitstellennummer := anlage.lesung.leitstellennummer
    processError := anlage.lesung.processError
    versionNo := anlage.versionNo
    einsatzId := (anlage.incident.map (·.1)).or row.einsatzId
    dedupAction := (anlage.incident.map (·.2)).or row.dedupAction
    processStatus := .applied
    appliedAt := some now }

def fehlgeschlagen (fehler : String) (row : AlarmIngest) : AlarmIngest :=
  { row with processStatus := .error, processError := some fehler }

def abgeschlossen (row : AlarmIngest) : AlarmIngest :=
  { row with processAttempts := row.processAttempts + 1, leaseUntil := none }

inductive Aktion (ω : Type) where
  | pruefe (arbeiter : Nat) (telegramm : Telegramm)
  | einfuege (arbeiter : Nat)
  | beanspruche (arbeiter ingestId : Nat) (orgId : Option Nat) (claimFilter : AlarmIngest → Bool) (now : Zeit)
  | verarbeite (arbeiter : Nat) (ergebnis : Except String (Anlage ω)) (now : Zeit)
  | commit (arbeiter : Nat)
  | melde (arbeiter : Nat)
  | stirb (arbeiter : Nat)

section Step

variable {ω : Type}

def Welt.setze (welt : Welt ω) (arbeiter : Nat) (phase : Phase ω) : Welt ω :=
  { welt with arbeiter := welt.arbeiter.set arbeiter phase }

/-- The lock of a claim: its `UPDATE` is committed with the attempt only. -/
def Phase.haelt (ingestId : Nat) : Phase ω → Bool
  | .beansprucht row => row.id == ingestId
  | .versucht row _ => row.id == ingestId
  | _ => false

def Welt.gesperrt (welt : Welt ω) (ingestId : Nat) : Bool := welt.arbeiter.any (·.haelt ingestId)

def pruefe (rawHash : String → String) (welt : Welt ω) (arbeiter : Nat) (t : Telegramm) : Welt ω :=
  match findDuplicate rawHash welt.ingests t with
  | some row => { welt with antworten := welt.antworten ++ [(t, row.id, false)] }
  | none => welt.setze arbeiter (.geprueft t)

def einfuege (rawHash : String → String) (welt : Welt ω) (arbeiter : Nat) (t : Telegramm) : Welt ω :=
  let frei := welt.setze arbeiter .frei
  if verletzt welt.ingests t then
    match findDuplicate rawHash welt.ingests t with
    | some row => { frei with antworten := welt.antworten ++ [(t, row.id, false)] }
    | none => frei
  else
    let row := neuerIngest rawHash (welt.ingests.length + 1) t
    { frei with ingests := welt.ingests ++ [row], antworten := welt.antworten ++ [(t, row.id, true)] }

def beanspruche (welt : Welt ω) (arbeiter ingestId : Nat) (orgId : Option Nat) (claimFilter : AlarmIngest → Bool)
    (now : Zeit) : Welt ω :=
  match welt.ingests.find? fun row => row.id == ingestId with
  | none => welt
  | some row =>
    if orgId.all (· == row.orgId) && !keineAlarmquelle row && beanspruchbar now row && claimFilter row then
      welt.setze arbeiter (.beansprucht (claim now row))
    else welt

def verarbeite (welt : Welt ω) (arbeiter : Nat) (row : AlarmIngest) (ergebnis : Except String (Anlage ω)) (now : Zeit) :
    Welt ω :=
  match ergebnis with
  | .ok anlage => welt.setze arbeiter (.versucht (angelegt now anlage row) (some anlage.wirkung))
  | .error fehler => welt.setze arbeiter (.versucht (fehlgeschlagen fehler row) none)

def commit (welt : Welt ω) (arbeiter : Nat) (row : AlarmIngest) (wirkung : Option ω) : Welt ω :=
  let welt := { welt.setze arbeiter (.festgeschrieben row.id) with
    ingests := update (fun other => other.id == row.id) (fun _ => abgeschlossen row) welt.ingests }
  match wirkung with
  | some wirkung => { welt with
    wirkungen := welt.wirkungen ++ [(row.id, wirkung)]
    angewandt := welt.angewandt ++ [(row.id, arbeiter)] }
  | none => welt

def melde (welt : Welt ω) (arbeiter ingestId : Nat) : Welt ω :=
  let frei := welt.setze arbeiter .frei
  if welt.ingests.any fun row => row.id == ingestId && row.processStatus == .applied then
    { frei with onApplied := welt.onApplied ++ [(ingestId, arbeiter)] }
  else frei

def step (rawHash : String → String) (welt : Welt ω) : Aktion ω → Welt ω
  | .pruefe arbeiter telegramm =>
    match welt.arbeiter[arbeiter]? with
    | some .frei => pruefe rawHash welt arbeiter telegramm
    | _ => welt
  | .einfuege arbeiter =>
    match welt.arbeiter[arbeiter]? with
    | some (.geprueft telegramm) => einfuege rawHash welt arbeiter telegramm
    | _ => welt
  | .beanspruche arbeiter ingestId orgId claimFilter now =>
    match welt.arbeiter[arbeiter]?, welt.gesperrt ingestId with
    | some .frei, false => beanspruche welt arbeiter ingestId orgId claimFilter now
    | _, _ => welt
  | .verarbeite arbeiter ergebnis now =>
    match welt.arbeiter[arbeiter]? with
    | some (.beansprucht row) => verarbeite welt arbeiter row ergebnis now
    | _ => welt
  | .commit arbeiter =>
    match welt.arbeiter[arbeiter]? with
    | some (.versucht row wirkung) => commit welt arbeiter row wirkung
    | _ => welt
  | .melde arbeiter =>
    match welt.arbeiter[arbeiter]? with
    | some (.festgeschrieben ingestId) => melde welt arbeiter ingestId
    | _ => welt
  | .stirb arbeiter => welt.setze arbeiter .frei

end Step

end Einsatzcockpit.Serial
