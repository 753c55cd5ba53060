import Einsatzcockpit.Apply.Merge
import Einsatzcockpit.Lib.Run

namespace Einsatzcockpit.Apply

open Alarm

/-- What the parser, the matching and the suppression rules give for one processing. -/
structure Eingang where
  lesung : Lesung
  treffer : Option Nat := none
  grund : Option String := none

/-- `markiere_manuell` -/
def markiereManuell (now : Zeit) (incidentId orgId : Nat) (field : Feld) (bestand : Bestand) : Bestand :=
  match bestand.incidents.find? fun incident => incident.id == incidentId && incident.primaryOrgId == some orgId with
  | none => bestand
  | some incident =>
    if field ∉ alarmFelder then bestand
    else
      { bestand with
        felder := speichereFeld bestand.felder incidentId orgId field (.text (incident.wert field)) .manual none now }

def Bestand.setIncident (bestand : Bestand) (incident : Einsatz) : Bestand :=
  { bestand with incidents := Relational.update (fun row => row.id == incident.id) (fun _ => incident) bestand.incidents }

def Bestand.setIngest (bestand : Bestand) (id : Nat) (werte : AlarmIngest → AlarmIngest) : Bestand :=
  { bestand with ingests := Relational.update (fun ingest => ingest.id == id) werte bestand.ingests }

/-- A change of a field by a user, with what `write_incident_change` marks for it. -/
def bearbeite (now : Zeit) (incidentId : Nat) (feld : Feld) (wert : Option String) (bestand : Bestand) : Bestand :=
  match bestand.incident? incidentId with
  | none => bestand
  | some incident =>
    let geaendert := bestand.setIncident (incident.setze feld wert)
    match incident.primaryOrgId with
    | none => geaendert
    | some orgId =>
      if feld ∈ alarmFelder ∧ incident.wert feld ≠ wert then markiereManuell now incidentId orgId feld geaendert
      else geaendert

/-- What `_parse_ingest` leaves in the ingest. -/
def gelesen (lesung : Lesung) (ingest : AlarmIngest) : AlarmIngest :=
  { ingest with
    parsed := lesung.gespeichert
    parserVersion := some lesung.parserVersion
    parseFailed := lesung.parseFailed
    leitstellennummer := lesung.leitstellennummer
    processError := lesung.processError }

section Merge

variable (umgebung : Alarmumgebung)

/-- A merge in a session: what it reads comes from the tables, what it writes
goes back to them. -/
def fuehreZusammen (now : Zeit) (ingest : AlarmIngest) (orgId : Nat) (nurAlarm : Bool) (parsed : Parsed)
    (incident : Einsatz) (bestand : Bestand) : Except String (Stand × Bestand) := do
  let auftrag : Auftrag :=
    { now, ingestId := ingest.id, version := ingest.versionNo, orgId, nurAlarm, logs := bestand.logs }
  let stand ← mergeFolgenachricht umgebung auftrag bestand.typen ingest.orgId parsed { incident, felder := bestand.felder }
  return (stand, { bestand.setIncident stand.incident with felder := stand.felder, logs := bestand.logs ++ stand.journal })

/-- The tables as `enqueue_nachalarmierung` sees them. -/
def Bestand.db (bestand : Bestand) : Db :=
  { incidents := bestand.incidents.map (·.toIncident), jobs := bestand.jobs }

def nachalarmiere (now : Zeit) (orgId : Nat) (grund : Option String) (incident : Einsatz) (bestand : Bestand)
    (ausloeser : String × List String) : Bestand :=
  let (namespace_, codes) := ausloeser
  let sortiert := String.intercalate "+" (codes.insertionSort (· ≤ ·))
  let key := s!"{namespace_}:{sortiert}"
  match enqueueNachalarmierung umgebung.toUmgebung now incident.toIncident (some orgId) key codes (some "gateway") none
      none grund bestand.db with
  | none => bestand
  | some (created, db) =>
    let bestand := { bestand with jobs := db.jobs }
    if created then
      let liste := String.intercalate ", " codes
      { bestand with
        logs := bestand.logs ++
          [{ incidentId := incident.id, authorName := some "System", text := s!"Nachalarmierung: Codes {liste}" }] }
    else bestand

def ausloeser (ergebnis : MergeErgebnis) (incident : Einsatz) : List (String × List String) :=
  (if ergebnis.neueCodes = [] then [] else [("code", ergebnis.neueCodes)]) ++
    if ergebnis.stichwortErhoeht then [("stichwort", incident.alarmTypeCode.toList)] else []

/-- `FALLBACK_ALARM_CODE` -/
def fallbackAlarmCode : String := "SONSTIGE"

/-- The row `create_incident` adds for an alarm; an unknown code becomes "T1". -/
def neuerEinsatz (orgId : Nat) (lesung : Lesung) (ingest : AlarmIngest) (bestand : Bestand) : Einsatz :=
  let code := (orNone lesung.parsed.alarmTypeCode).getD fallbackAlarmCode
  let bekannt := bestand.typen.any fun typ => typ.orgId == orgId && typ.code == code
  { id := bestand.incidents.length + 1
    primaryOrgId := some orgId
    lisOperationNumber := lesung.leitstellennummer
    alarmTypeCode := some (if bekannt then code else "T1")
    addressStreet := lesung.parsed.street
    addressNo := lesung.parsed.houseNo
    addressCity := lesung.parsed.city
    reportText := some ingest.rawText
    reason := (orNone lesung.parsed.reason).or (if lesung.parseFailed then some (clip 200 ingest.rawText) else none) }

def nummerTreffer (orgId : Nat) (nummer : Option String) (bestand : Bestand) : Option Einsatz :=
  if nummer.isNone then none
  else bestand.incidents.find? fun row => row.primaryOrgId == some orgId && row.lisOperationNumber == nummer

/-- The incident of an alarm: the match, a new row, or the row whose number the
new one would take. -/
def ordneZu (orgId : Nat) (eingang : Eingang) (ingest : AlarmIngest) (bestand : Bestand) :
    Except String (Einsatz × DedupAction × Bestand) :=
  let nummer := eingang.lesung.leitstellennummer
  match eingang.treffer.bind bestand.incident? with
  | some incident => .ok (incident, .merged, bestand)
  | none =>
    match nummerTreffer orgId nummer bestand with
    | some incident => if nummer = some "" then .error "IntegrityError" else .ok (incident, .merged, bestand)
    | none =>
      let incident := neuerEinsatz orgId eingang.lesung ingest bestand
      .ok (incident, .created, { bestand with incidents := bestand.incidents ++ [incident] })

def gleicherInhalt (orgId : Nat) (ingest : AlarmIngest) (incidentId : Nat) (bestand : Bestand) : Option AlarmIngest :=
  if (orNone ingest.leitstellennummer).isNone ∨ (orNone ingest.contentHash).isNone then none
  else
    bestand.ingests.find? fun other =>
      other.orgId == some orgId && other.einsatzId == some incidentId &&
        other.leitstellennummer == ingest.leitstellennummer && other.contentHash == ingest.contentHash &&
        other.id != ingest.id && other.processStatus == .applied

def setzeNummer (orgId : Nat) (nummer : Option String) (incident : Einsatz) (bestand : Bestand) : Einsatz × Bestand :=
  if (orNone nummer).isSome ∧ orNone incident.lisOperationNumber = none ∧ (nummerTreffer orgId nummer bestand).isNone then
    let incident := { incident with lisOperationNumber := nummer }
    (incident, bestand.setIncident incident)
  else (incident, bestand)

def naechsteVersion (orgId : Nat) (ingest : AlarmIngest) (incidentId : Nat) (bestand : Bestand) : Nat :=
  let versionen := (bestand.ingests.filter fun other =>
    other.orgId == some orgId && other.einsatzId == some incidentId && other.id != ingest.id).filterMap (·.versionNo)
  (versionen.max?).getD 0 + 1

def speichereAnlage (now : Zeit) (orgId : Nat) (ingest : AlarmIngest) (parsed : Parsed) (incident : Einsatz)
    (bestand : Bestand) : Bestand :=
  let felder := alarmFelder.foldl (fun felder feld =>
    speichereFeld felder incident.id orgId feld (.text (incident.wert feld)) .alarm (some ingest.id) now) bestand.felder
  { bestand with
    felder := speichereFeld felder incident.id orgId .codes (.codes (codesVon umgebung parsed)) .alarm (some ingest.id) now }

def folgenachricht (now : Zeit) (orgId : Nat) (eingang : Eingang) (ingest : AlarmIngest) (incident : Einsatz)
    (bestand : Bestand) : Except String Bestand := do
  let (stand, bestand) ← fuehreZusammen umgebung now ingest orgId false eingang.lesung.parsed incident bestand
  let gruende := ausloeser stand.ergebnis stand.incident
  if gruende = [] then return bestand
  else if stand.incident.status = "closed" then
    return { bestand with
      logs := bestand.logs ++ [{
        incidentId := incident.id
        authorName := some "System"
        text := "Nachalarmierung unterdrueckt: Einsatz abgeschlossen" }] }
  else return gruende.foldl (nachalarmiere umgebung now orgId eingang.grund stand.incident) bestand

/-- `wende_an`: the ingest, the tables and the action. -/
def wendeAn (now : Zeit) (orgId : Nat) (eingang : Eingang) (ingest : AlarmIngest) (bestand : Bestand) :
    Except String (AlarmIngest × DedupAction × Bestand) := do
  let ingest := gelesen eingang.lesung ingest
  let nummer := ingest.leitstellennummer
  let (incident, action, bestand) ← ordneZu orgId eingang ingest bestand
  match gleicherInhalt orgId ingest incident.id bestand with
  | some original =>
    return ({ ingest with einsatzId := some incident.id, versionNo := original.versionNo }, .duplicate, bestand)
  | none =>
    let (incident, bestand) := setzeNummer orgId nummer incident bestand
    let ingest := { ingest with
      einsatzId := some incident.id
      versionNo := some (naechsteVersion orgId ingest incident.id bestand) }
    if action = .created then
      return (ingest, action, speichereAnlage umgebung now orgId ingest eingang.lesung.parsed incident bestand)
    else if (orNone nummer).isSome then
      return (ingest, action, ← folgenachricht umgebung now orgId eingang ingest incident bestand)
    else return (ingest, action, bestand)

/-- An ingest that `process_ingest` may claim. -/
def beanspruchbar (now : Zeit) (ingest : AlarmIngest) : Bool :=
  match ingest.processStatus with
  | .stored | .error => true
  | .processing =>
    match ingest.leaseUntil with
    | some lease => decide (lease ≤ now)
    | none => decide (ingest.receivedAt < now - minuten 2)
  | .applied => false

/-- `process_ingest`; a failure leaves the claim and its error. -/
def processIngest (now : Zeit) (ingestId orgId : Nat) (eingang : Eingang) (bestand : Bestand) : Bestand :=
  match bestand.ingest? ingestId with
  | none => bestand
  | some ingest =>
    if ingest.orgId ≠ some orgId ∨
        ingest.source = "elvis" ∧ (ingest.elvisTest ∨ ingest.elvisMode ≠ some "alarmquelle") ∨
        !beanspruchbar now ingest then bestand
    else
      let ingest := { ingest with processStatus := .processing, leaseUntil := some (now + minuten 2), parsedAt := some now }
      match wendeAn umgebung now orgId eingang ingest bestand with
      | .error fehler =>
        bestand.setIngest ingestId fun _ => { ingest with
          processStatus := .error
          processError := some fehler
          processAttempts := ingest.processAttempts + 1
          leaseUntil := none }
      | .ok (ingest, action, bestand) =>
        bestand.setIngest ingestId fun _ => { ingest with
          dedupAction := some action
          processStatus := .applied
          appliedAt := some now
          processAttempts := ingest.processAttempts + 1
          leaseUntil := none }

structure Benutzer where
  orgId : Option Nat
  username : String
  displayName : Option String := none

def Benutzer.author (user : Benutzer) : String := (orNone user.displayName).getD user.username

/-- The branch of `verarbeite_neu` for an ingest with an incident. -/
def verarbeiteVerknuepften (now : Zeit) (orgId : Nat) (user : Benutzer) (lesung : Lesung) (ingest : AlarmIngest)
    (incident : Einsatz) (bestand : Bestand) : Bestand :=
  let text := s!"Alarmdaten manuell neu verarbeitet von {user.username}"
  let neu := gelesen lesung ingest
  let ergebnis := match neu.processError with
    | some fehler => Except.error fehler
    | none => fuehreZusammen umgebung now neu orgId true lesung.parsed incident bestand
  match ergebnis with
  | .error fehler =>
    bestand.setIngest ingest.id fun _ => { ingest with
      processStatus := .error
      processError := some fehler
      processAttempts := ingest.processAttempts + 1
      parsedAt := some now }
  | .ok (stand, nachher) =>
    let neu := { neu with processStatus := ProcessStatus.applied }
    let vorhanden := bestand.logs.any fun log => log.incidentId == incident.id && log.text == text
    let geaendert := ingest.parsed ≠ neu.parsed ∨ ingest.parserVersion ≠ neu.parserVersion ∨
      ingest.processStatus ≠ neu.processStatus ∨ ingest.processError ≠ neu.processError
    if geaendert ∨ stand.ergebnis.felderGeaendert ≠ [] ∨ !vorhanden then
      { nachher.setIngest ingest.id fun _ => { neu with
          parsedAt := some now
          appliedAt := some now
          processAttempts := neu.processAttempts + 1 } with
        logs := nachher.logs ++ [{ incidentId := incident.id, authorName := some user.author, text }] }
    else nachher.setIngest ingest.id fun _ => neu

/-- `verarbeite_neu` -/
def verarbeiteNeu (now : Zeit) (ingestId orgId : Nat) (user : Benutzer) (eingang : Eingang) (bestand : Bestand) :
    Bestand :=
  match bestand.ingest? ingestId with
  | none => bestand
  | some ingest =>
    if ingest.orgId ≠ some orgId ∨ user.orgId ≠ some orgId ∨ ingest.processStatus = .processing then bestand
    else
      match ingest.einsatzId with
      | none =>
        let bestand := processIngest umgebung now ingestId orgId eingang
          (bestand.setIngest ingestId fun ingest => { ingest with processStatus := .error })
        match (bestand.ingest? ingestId).filter fun ingest => ingest.processStatus == .applied with
        | none => bestand
        | some ingest =>
          { bestand with
            logs := bestand.logs ++ (ingest.einsatzId.map fun incidentId =>
              ({ incidentId
                 authorName := some user.author
                 text := s!"Alarmdaten manuell neu verarbeitet von {user.username}" } : Eintrag)).toList }
      | some incidentId =>
        match (bestand.incident? incidentId).filter fun incident => incident.primaryOrgId == some orgId with
        | none => bestand
        | some incident => verarbeiteVerknuepften umgebung now orgId user eingang.lesung ingest incident bestand

end Merge

end Einsatzcockpit.Apply

namespace Einsatzcockpit.Apply

inductive Schritt where
  | einsatz (incident : Einsatz)
  | ingest (ingest : AlarmIngest)
  | typ (typ : AlarmType)
  | bearbeite (now : Zeit) (incidentId : Nat) (feld : Feld) (wert : Option String)
  | folge (now : Zeit) (ingestId incidentId orgId : Nat) (nurAlarm : Bool) (parsed : Parsed)
  | verarbeite (now : Zeit) (ingestId orgId : Nat) (eingang : Eingang)
  | verarbeiteNeu (now : Zeit) (ingestId orgId : Nat) (user : Benutzer) (eingang : Eingang)

variable (umgebung : Alarmumgebung)

def folge (now : Zeit) (ingestId incidentId orgId : Nat) (nurAlarm : Bool) (parsed : Parsed) (bestand : Bestand) : Bestand :=
  match bestand.ingest? ingestId, bestand.incident? incidentId with
  | some ingest, some incident =>
    match fuehreZusammen umgebung now ingest orgId nurAlarm parsed incident bestand with
    | .ok (_, bestand) => bestand
    | .error _ => bestand
  | _, _ => bestand

def step (bestand : Bestand) : Schritt → Bestand
  | .einsatz incident =>
    { bestand with incidents := bestand.incidents ++ [{ incident with id := bestand.incidents.length + 1 }] }
  | .ingest ingest =>
    { bestand with
      ingests := bestand.ingests ++ [{ ingest with id := bestand.ingests.length + 1, einsatzId := none, versionNo := none }] }
  | .typ typ => { bestand with typen := bestand.typen ++ [typ] }
  | .bearbeite now incidentId feld wert => bearbeite now incidentId feld wert bestand
  | .folge now ingestId incidentId orgId nurAlarm parsed => folge umgebung now ingestId incidentId orgId nurAlarm parsed bestand
  | .verarbeite now ingestId orgId eingang => processIngest umgebung now ingestId orgId eingang bestand
  | .verarbeiteNeu now ingestId orgId user eingang => verarbeiteNeu umgebung now ingestId orgId user eingang bestand

end Einsatzcockpit.Apply

namespace Einsatzcockpit.Apply

variable (umgebung : Alarmumgebung)

def alarmstufe (code : Option String) : Option (String × Nat) :=
  (gruppen umgebung (umgebung.upper (code.getD ""))).map fun treffer =>
    (treffer.1, treffer.2.foldl (fun n c => 10 * n + (umgebung.ziffer c).getD 0) 0)

/-- The code stays, or it changes to one of the same letters and a higher level. -/
def Hoeher (alt neu : Option String) : Prop :=
  neu = alt ∨ ∃ praefix stufe stufe', alarmstufe umgebung alt = some (praefix, stufe) ∧
    alarmstufe umgebung neu = some (praefix, stufe') ∧ stufe < stufe'

variable {umgebung}

theorem Hoeher.refl (code : Option String) : Hoeher umgebung code code := Or.inl rfl

theorem Hoeher.trans {a b c : Option String} (first : Hoeher umgebung a b) (second : Hoeher umgebung b c) :
    Hoeher umgebung a c := by
  rcases second with rfl | ⟨praefix, stufe, stufe', atB, atC, less⟩
  · exact first
  · rcases first with rfl | ⟨praefix', low, high, atA, atB', less'⟩
    · exact Or.inr ⟨praefix, stufe, stufe', atB, atC, less⟩
    · obtain ⟨rfl, rfl⟩ := Prod.mk.inj (Option.some.inj (atB.symm.trans atB'))
      exact Or.inr ⟨praefix, low, stufe', atA, atC, by omega⟩

theorem ganzzahl_ok {ziffern : List Char} {n : Nat} (read : ganzzahl umgebung ziffern = .ok n) :
    n = ziffern.foldl (fun n c => 10 * n + (umgebung.ziffer c).getD 0) 0 := by
  unfold ganzzahl at read
  split at read
  · cases read
  · cases read
    rfl

theorem stufeErhoeht_hoeher {typen : List AlarmType} {orgId : Nat} {alt : Option String} {code : String}
    (raised : stufeErhoeht umgebung typen orgId alt code = .ok true) : Hoeher umgebung alt (some code) := by
  simp only [stufeErhoeht, bind, Except.bind, pure, Except.pure] at raised
  split at raised
  · next praefix ziffern praefix' ziffern' vorher nachher =>
    split at raised
    · next same =>
      split at raised
      · cases raised
      · next neu readNeu =>
        split at raised
        · cases raised
        · next bisher readBisher =>
          have less : bisher < neu := by simpa using raised
          refine Or.inr ⟨praefix, bisher, neu, ?_, ?_, less⟩
          · rw [alarmstufe, vorher, ganzzahl_ok readBisher]
            rfl
          · rw [alarmstufe, Option.getD_some, nachher, ganzzahl_ok readNeu, same.1]
            rfl
    · cases raised
  · cases raised

end Einsatzcockpit.Apply
