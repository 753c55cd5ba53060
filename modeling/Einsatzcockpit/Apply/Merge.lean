import Einsatzcockpit.Alarm.Outbox

namespace Einsatzcockpit.Apply

open Alarm

/-- The values of the column `field` of `incident_alarm_field`. -/
inductive Feld where
  | alarmTypeCode | addressStreet | addressNo | addressCity | reportText | reason | codes
  deriving DecidableEq

def Feld.name : Feld → String
  | alarmTypeCode => "alarm_type_code"
  | addressStreet => "address_street"
  | addressNo => "address_no"
  | addressCity => "address_city"
  | reportText => "report_text"
  | reason => "reason"
  | codes => "codes"

/-- `ALARM_FELDER` -/
def alarmFelder : List Feld :=
  [.alarmTypeCode, .addressStreet, .addressNo, .addressCity, .reportText, .reason]

/-- A row of `incident`, with the columns the alarm pipeline works on. -/
structure Einsatz extends Incident where
  status : String := "active"
  alarmTypeCode : Option String := none
  addressStreet : Option String := none
  addressNo : Option String := none
  addressCity : Option String := none
  reportText : Option String := none
  reason : Option String := none
  lat : Option Rat := none
  lng : Option Rat := none

/-- `getattr(incident, feld)` -/
def Einsatz.wert (einsatz : Einsatz) : Feld → Option String
  | .alarmTypeCode => einsatz.alarmTypeCode
  | .addressStreet => einsatz.addressStreet
  | .addressNo => einsatz.addressNo
  | .addressCity => einsatz.addressCity
  | .reportText => einsatz.reportText
  | .reason => einsatz.reason
  | .codes => none

/-- `setattr(incident, feld, wert)` -/
def Einsatz.setze (einsatz : Einsatz) (feld : Feld) (wert : Option String) : Einsatz :=
  match feld with
  | .alarmTypeCode => { einsatz with alarmTypeCode := wert }
  | .addressStreet => { einsatz with addressStreet := wert }
  | .addressNo => { einsatz with addressNo := wert }
  | .addressCity => { einsatz with addressCity := wert }
  | .reportText => { einsatz with reportText := wert }
  | .reason => { einsatz with reason := wert }
  | .codes => einsatz

inductive Source where
  | alarm | manual
  deriving DecidableEq

/-- The column `value`; the codes are kept as the list their JSON text stands for. -/
inductive Feldwert where
  | text (wert : Option String)
  | codes (codes : List String)

/-- A row of `incident_alarm_field`. -/
structure IncidentAlarmField where
  incidentId : Nat
  orgId : Nat
  field : Feld
  value : Feldwert
  source : Source
  ingestId : Option Nat
  updatedAt : Zeit

inductive ProcessStatus where
  | stored | processing | applied | error
  deriving DecidableEq

/-- `dedup_action` -/
inductive DedupAction where
  | created | merged | duplicate
  deriving DecidableEq

/-- A row of `alarm_ingest`; `parsed` stands for the text of the JSON column. -/
structure AlarmIngest where
  id : Nat
  orgId : Option Nat
  source : String := "wut"
  elvisTest : Bool := false
  elvisMode : Option String := none
  rawText : String
  contentHash : Option String := none
  parsed : String := ""
  parserVersion : Option String := none
  parseFailed : Bool := false
  leitstellennummer : Option String := none
  versionNo : Option Nat := none
  einsatzId : Option Nat := none
  dedupAction : Option DedupAction := none
  processStatus : ProcessStatus := .stored
  processError : Option String := none
  processAttempts : Nat := 0
  leaseUntil : Option Zeit := none
  receivedAt : Zeit
  parsedAt : Option Zeit := none
  appliedAt : Option Zeit := none

structure AlarmType where
  orgId : Nat
  code : String
  category : String

/-- The part of `parsed_result` that merging and creating read. -/
structure Parsed where
  alarmTypeCode : Option String := none
  street : Option String := none
  houseNo : Option String := none
  city : Option String := none
  reason : Option String := none
  meldebild : Option String := none
  zusatzinfo : List String := []
  weitereCodes : List String := []
  sonderkennzeichen : List String := []

/-- What `_parse_ingest` returns and what it writes to the ingest. -/
structure Lesung where
  parsed : Parsed
  gespeichert : String := ""
  parserVersion : String := "0"
  parseFailed : Bool := false
  leitstellennummer : Option String := none
  processError : Option String := none

structure MergeErgebnis where
  felderGeaendert : List String := []
  adresseGeaendert : Bool := false
  stichwortErhoeht : Bool := false
  neueCodes : List String := []

/-- What the merge takes from the language and the settings: `str.upper`, the
value of a Unicode digit and `format_local_datetime` for the organisation. -/
structure Alarmumgebung extends Umgebung where
  upper : String → String
  ziffer : Char → Option Nat
  datum : Zeit → Nat → String

/-- A row of `incident_log` of level "info". -/
structure Eintrag where
  incidentId : Nat
  authorName : Option String := none
  text : String

structure Bestand where
  incidents : List Einsatz := []
  felder : List IncidentAlarmField := []
  ingests : List AlarmIngest := []
  typen : List AlarmType := []
  jobs : List IncidentAlarmJob := []
  logs : List Eintrag := []

def Bestand.incident? (bestand : Bestand) (id : Nat) : Option Einsatz :=
  bestand.incidents.find? fun incident => incident.id == id

def Bestand.ingest? (bestand : Bestand) (id : Nat) : Option AlarmIngest :=
  bestand.ingests.find? fun ingest => ingest.id == id

/-- `_herkunft` -/
def herkunft (felder : List IncidentAlarmField) (incidentId orgId : Nat) (feld : Feld) : Option IncidentAlarmField :=
  felder.find? fun eintrag => eintrag.orgId == orgId && eintrag.incidentId == incidentId && eintrag.field == feld

end Einsatzcockpit.Apply

namespace Einsatzcockpit.Apply

open Alarm

/-- The arguments of a merge and what its session had read from the log. -/
structure Auftrag where
  now : Zeit
  ingestId : Nat
  version : Option Nat
  orgId : Nat
  nurAlarm : Bool
  logs : List Eintrag

structure Stand where
  incident : Einsatz
  felder : List IncidentAlarmField
  journal : List Eintrag := []
  ergebnis : MergeErgebnis := {}

/-- `_speichere_feld` -/
def speichereFeld (felder : List IncidentAlarmField) (incidentId orgId : Nat) (feld : Feld) (wert : Feldwert)
    (source : Source) (ingestId : Option Nat) (now : Zeit) : List IncidentAlarmField :=
  if (herkunft felder incidentId orgId feld).isSome then
    Relational.update
      (fun eintrag => eintrag.orgId == orgId && eintrag.incidentId == incidentId && eintrag.field == feld)
      (fun eintrag => { eintrag with value := wert, source, ingestId, updatedAt := now }) felder
  else felder ++ [{ incidentId, orgId, field := feld, value := wert, source, ingestId, updatedAt := now }]

/-- `dict.fromkeys`: the first of every value, in order. -/
def einmalig (values : List String) : List String :=
  values.foldl (fun seen value => if value ∈ seen then seen else seen ++ [value]) []

/-- `teil in text` -/
def enthaelt (text teil : String) : Bool :=
  text.toList.tails.any (teil.toList.isPrefixOf ·)

section Merge

variable (umgebung : Alarmumgebung) (auftrag : Auftrag)

/-- `_codes` -/
def codesVon (parsed : Parsed) : List String :=
  einmalig ((parsed.weitereCodes ++ parsed.sonderkennzeichen).map umgebung.lower)

def versionText : String := (auftrag.version.map toString).getD "None"

/-- The nested function `journal`. -/
def schreibe (text : String) (stand : Stand) : Stand :=
  { stand with journal := stand.journal ++ [{ incidentId := stand.incident.id, text }] }

/-- The nested function `hinweis`: one row for each text. -/
def hinweis (feld : Feld) (wert : String) (stand : Stand) : Stand :=
  let text := s!"Abweichender Alarmwert fuer {feld.name}: {wert}"
  if auftrag.logs.any fun log => log.incidentId == stand.incident.id && log.text == text then stand
  else schreibe text stand

/-- The nested function `geschuetzt`. -/
def geschuetzt (feld : Feld) (wert : String) (stand : Stand) : Bool × Stand :=
  let eintrag := herkunft stand.felder stand.incident.id auftrag.orgId feld
  if eintrag.any (·.source == .manual) then (true, hinweis auftrag feld wert stand)
  else (auftrag.nurAlarm && !eintrag.any (·.source == .alarm), stand)

/-- The nested function `aendern`. -/
def aendern (feld : Feld) (wert text : String) (stand : Stand) : Stand :=
  let stand := { stand with
    incident := stand.incident.setze feld (some wert)
    felder := speichereFeld stand.felder stand.incident.id auftrag.orgId feld (.text (some wert)) .alarm
      (some auftrag.ingestId) auftrag.now
    ergebnis := { stand.ergebnis with felderGeaendert := stand.ergebnis.felderGeaendert ++ [feld.name] } }
  schreibe s!"Alarmupdate v{versionText auftrag}: {text}" stand

def mergeAdresse (stand : Stand) (feldWert : Feld × Option String) : Stand :=
  let (feld, wert) := feldWert
  let vorher := stand.incident.wert feld
  match orNone wert with
  | none => stand
  | some neu =>
    if vorher = some neu then stand
    else
      match geschuetzt auftrag feld neu stand with
      | (true, stand) => stand
      | (false, stand) =>
        let eintrag := herkunft stand.felder stand.incident.id auftrag.orgId feld
        if orNone vorher = none ∨ eintrag.any (·.source == .alarm) then
          let alt := (orNone vorher).getD "-"
          let stand := aendern auftrag feld neu s!"{feld.name} {alt} -> {neu}" stand
          { stand with ergebnis := { stand.ergebnis with adresseGeaendert := true } }
        else hinweis auftrag feld neu stand

def loescheKoordinaten (stand : Stand) : Stand :=
  let entferne := fun (name : String) (stand : Stand) =>
    schreibe s!"Alarmupdate v{versionText auftrag}: {name} nach Adressaenderung zurueckgesetzt"
      { stand with
        ergebnis := { stand.ergebnis with felderGeaendert := stand.ergebnis.felderGeaendert ++ [name] } }
  let stand :=
    if stand.incident.lat.isSome then entferne "lat" { stand with incident := { stand.incident with lat := none } }
    else stand
  if stand.incident.lng.isSome then entferne "lng" { stand with incident := { stand.incident with lng := none } }
  else stand

/-- The groups of `([A-Z]+)(\d+)` matched against the whole text. -/
def gruppen (text : String) : Option (String × List Char) :=
  let praefix := text.toList.takeWhile fun c => 'A' ≤ c && c ≤ 'Z'
  let ziffern := text.toList.dropWhile fun c => 'A' ≤ c && c ≤ 'Z'
  if praefix = [] ∨ ziffern = [] ∨ ziffern.any fun c => (umgebung.ziffer c).isNone then none
  else some (String.ofList praefix, ziffern)

/-- `int` of a text of digits, which refuses more than 4300 of them. -/
def ganzzahl (ziffern : List Char) : Except String Nat :=
  if ziffern.length > 4300 then
    .error s!"Exceeds the limit (4300 digits) for integer string conversion: value has {ziffern.length} digits; use sys.set_int_max_str_digits() to increase the limit"
  else .ok (ziffern.foldl (fun n c => 10 * n + (umgebung.ziffer c).getD 0) 0)

/-- The last alarm type of the organisation whose code is the text in upper case. -/
def typ (typen : List AlarmType) (orgId : Nat) (code : String) : Option AlarmType :=
  (typen.filter fun typ => typ.orgId == orgId && umgebung.upper typ.code == code).getLast?

def gleicheKategorie (typen : List AlarmType) (orgId : Nat) (alt : Option String) (vorher nachher : String) : Bool :=
  match orNone alt, typ umgebung typen orgId vorher, typ umgebung typen orgId nachher with
  | some _, some typ, some typ' => typ.category == typ'.category
  | _, _, _ => true

def stufeErhoeht (typen : List AlarmType) (orgId : Nat) (alt : Option String) (code : String) : Except String Bool := do
  let vorher := umgebung.upper (alt.getD "")
  let nachher := umgebung.upper code
  match gruppen umgebung vorher, gruppen umgebung nachher with
  | some (praefix, ziffern), some (praefix', ziffern') =>
    if praefix = praefix' ∧ gleicheKategorie umgebung typen orgId alt vorher nachher then
      let neu ← ganzzahl umgebung ziffern'
      let bisher ← ganzzahl umgebung ziffern
      return decide (bisher < neu)
    else return false
  | _, _ => return false

def mergeStichwort (typen : List AlarmType) (parsed : Parsed) (stand : Stand) : Except String Stand :=
  let alt := stand.incident.alarmTypeCode
  match orNone parsed.alarmTypeCode with
  | none => .ok stand
  | some code =>
    if alt = some code then .ok stand
    else
      match geschuetzt auftrag .alarmTypeCode code stand with
      | (true, stand) => .ok stand
      | (false, stand) => do
        if ← stufeErhoeht umgebung typen auftrag.orgId alt code then
          let bisher := alt.getD "None"
          let stand := aendern auftrag .alarmTypeCode code s!"Stichwort {bisher} -> {code}" stand
          return { stand with ergebnis := { stand.ergebnis with stichwortErhoeht := true } }
        else return hinweis auftrag .alarmTypeCode code stand

def mergeReason (parsed : Parsed) (stand : Stand) : Stand :=
  match orNone parsed.reason with
  | none => stand
  | some reason => if stand.incident.reason = some reason then stand else (geschuetzt auftrag .reason reason stand).2

def neueTeile (parsed : Parsed) (report : String) : List String :=
  let teile := parsed.meldebild :: parsed.zusatzinfo.map some
  let teile := if teile.any fun teil => (orNone teil).isSome then teile else [parsed.reason]
  einmalig ((teile.filterMap orNone).filter fun teil => !enthaelt report teil)

def mergeReport (parsed : Parsed) (stand : Stand) : Stand :=
  let report := stand.incident.reportText.getD ""
  let neu := neueTeile parsed report
  if neu = [] then stand
  else
    let text := String.intercalate "\n" neu
    match geschuetzt auftrag .reportText text stand with
    | (true, stand) => stand
    | (false, stand) =>
      let datum := umgebung.datum auftrag.now auftrag.orgId
      aendern auftrag .reportText (report ++ s!"\n\n--- Nachtrag v{versionText auftrag} {datum} ---\n{text}")
        s!"Meldebild ergaenzt: {text}" stand

def bisherigeCodes (stand : Stand) : List String :=
  match herkunft stand.felder stand.incident.id auftrag.orgId .codes with
  | none => []
  | some eintrag =>
    match eintrag.value with
    | .codes codes => codes
    | .text _ => []

def ergaenzeCodes (bisher neu : List String) (stand : Stand) : Stand :=
  let liste := String.intercalate ", " neu
  schreibe s!"Alarmupdate v{versionText auftrag}: Codes ergaenzt: {liste}"
    { stand with
      felder := speichereFeld stand.felder stand.incident.id auftrag.orgId .codes (.codes (bisher ++ neu)) .alarm
        (some auftrag.ingestId) auftrag.now
      ergebnis := { stand.ergebnis with felderGeaendert := stand.ergebnis.felderGeaendert ++ ["codes"] } }

def mergeCodes (parsed : Parsed) (stand : Stand) : Stand :=
  let bisher := bisherigeCodes auftrag stand
  let neu := (codesVon umgebung parsed).filter (· ∉ bisher)
  let stand := { stand with ergebnis := { stand.ergebnis with neueCodes := neu } }
  if neu = [] then stand
  else
    match if auftrag.nurAlarm then geschuetzt auftrag .codes (String.intercalate ", " neu) stand else (false, stand) with
    | (true, stand) => stand
    | (false, stand) => ergaenzeCodes auftrag bisher neu stand

/-- `merge_folgenachricht` -/
def mergeFolgenachricht (typen : List AlarmType) (ingestOrgId : Option Nat) (parsed : Parsed) (stand : Stand) :
    Except String Stand := do
  if stand.incident.primaryOrgId ≠ some auftrag.orgId ∨ ingestOrgId ≠ some auftrag.orgId then
    throw "Alarm-Merge ausserhalb der Organisation"
  let stand := [(Feld.addressStreet, parsed.street), (.addressNo, parsed.houseNo), (.addressCity, parsed.city)].foldl
    (mergeAdresse auftrag) stand
  let stand := if stand.ergebnis.adresseGeaendert then loescheKoordinaten auftrag stand else stand
  let stand ← mergeStichwort umgebung auftrag typen parsed stand
  return mergeCodes umgebung auftrag parsed (mergeReport umgebung auftrag parsed (mergeReason auftrag parsed stand))

end Merge

end Einsatzcockpit.Apply
