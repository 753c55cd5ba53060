import Einsatzcockpit.Lib.Raise
import Einsatzcockpit.Lib.Run
import Einsatzcockpit.Lib.Table
import Einsatzcockpit.Basis
import Mathlib.Data.List.Sort
import Mathlib.Data.Rat.Floor

/-! The execution of the events of an exercise, `planspiel_engine.py`: the ticks
of any number of workers and the acts of the exercise control. -/

namespace Einsatzcockpit.Planspiel

open Raising Relational

inductive RunStatus where
  | entwurf | bereit | laeuft | generierungGestoppt | pausiert | beendet | abgebrochen
  deriving DecidableEq

/-- `_RUNNING` -/
def RunStatus.running (status : RunStatus) : Bool := status == .laeuft || status == .generierungGestoppt

/-- `_STEUERBAR` -/
def RunStatus.steuerbar (status : RunStatus) : Bool := status.running || status == .pausiert

/-- A row of `planspiel_run`; `statusVorPause` is the entry of `konfig`. -/
structure PlanspielRun where
  id : Nat
  art : String := "einzel"
  status : RunStatus
  tempo : ℚ := 1
  gestartetAt : Option Zeit := none
  pausiertSeit : Option Zeit := none
  pausiertSummeS : Int := 0
  statusVorPause : RunStatus := .laeuft
  genAktiv : Bool := false
  folgeAktiv : Bool := true
  steuerVersion : Nat := 0
  incidentId : Option Nat := none
  lageId : Option Nat := none
  beendetAt : Option Zeit := none
  letzterFehler : Option String := none
  deriving DecidableEq

inductive Quelle where
  | szenario | regie | generator
  deriving DecidableEq

inductive EreignisStatus where
  | geplant | faellig | laeuft | ausgefuehrt | uebersprungen | fehlgeschlagen | abgebrochen
  deriving DecidableEq

/-- A row of `planspiel_run_ereignis`; `messageId` is the entry of `ergebnis_ref`. -/
structure PlanspielRunEreignis where
  id : Nat
  runId : Nat
  seq : Nat
  quelle : Quelle
  bausteinCode : Option String := none
  zielTyp : Option String := some "incident"
  zielId : Option Nat := none
  triggerType : String := "elapsed_time"
  triggerParam : String := ""
  faelligSimS : Option ℚ := none
  status : EreignisStatus := .geplant
  idempotenzKey : String
  versuche : Nat := 0
  leaseUntil : Option Zeit := none
  ausgefuehrtAt : Option Zeit := none
  ausgefuehrtSimS : Option ℚ := none
  messageId : Option Nat := none
  fehler : Option String := none
  sichtbarkeit : String := "teilnehmer"
  text : Option String := none

/-- A tick between two steps: the version it has read, the events still to take
and its time. -/
structure Tick where
  version : Nat
  ids : List Nat
  jetzt : Zeit
  deriving DecidableEq

/-- Where a worker stands: between two events, after its claim of one, and after
an attempt that has raised. -/
inductive Phase where
  | frei
  | tickt (tick : Tick)
  | fuehrtAus (tick : Tick) (ereignisId : Nat)
  | gescheitert (tick : Tick) (ereignisId : Nat) (fehler : String)
  deriving DecidableEq

/-- The tables, the events whose effect has been committed, the workers and the
clock. -/
structure Welt where
  runs : List PlanspielRun := []
  ereignisse : List PlanspielRunEreignis := []
  vergeben : Nat := 0
  wirkungen : List Nat := []
  arbeiter : List Phase := []
  uhr : Zeit := 0

/-- `sim_sekunden` -/
def simSekunden (run : PlanspielRun) (jetzt : Zeit) : ℚ :=
  match run.gestartetAt with
  | none => 0
  | some gestartet =>
    let ende := run.pausiertSeit.getD jetzt
    max 0 ((((ende - gestartet : Int) : ℚ) / 1000000 - run.pausiertSummeS) * run.tempo)

/-- `_sofort_faellig` -/
def sofortFaellig (run : PlanspielRun) (jetzt : Zeit) : ℚ := ⌊simSekunden run jetzt⌋

/-- `_LEASE` -/
def lease : Zeit := sekunden 60

/-- `faellige_ereignisse` -/
def faelligeEreignisse (ereignisse : List PlanspielRunEreignis) (run : PlanspielRun) (jetzt : Zeit) : List Nat :=
  let faellig := ereignisse.filter fun e =>
    e.runId == run.id && e.status == .geplant && e.faelligSimS.any fun s => decide (s ≤ simSekunden run jetzt)
  let sortiert := faellig.insertionSort fun a b =>
    a.faelligSimS.getD 0 < b.faelligSimS.getD 0 ∨ a.faelligSimS.getD 0 = b.faelligSimS.getD 0 ∧ a.seq ≤ b.seq
  (sortiert.take 5).map (·.id)

section Zugriff

variable (welt : Welt)

def Welt.ereignis? (id : Nat) : Option PlanspielRunEreignis := welt.ereignisse.find? fun e => e.id == id

def Welt.run? (id : Nat) : Option PlanspielRun := welt.runs.find? fun r => r.id == id

def Welt.setzeEreignis (id : Nat) (werte : PlanspielRunEreignis → PlanspielRunEreignis) : Welt :=
  { welt with ereignisse := update (fun e => e.id == id) werte welt.ereignisse }

def Welt.setzeRun (id : Nat) (werte : PlanspielRun → PlanspielRun) : Welt :=
  { welt with runs := update (fun r => r.id == id) werte welt.runs }

def Welt.setzeArbeiter (arbeiter : Nat) (phase : Phase) : Welt :=
  { welt with arbeiter := welt.arbeiter.set arbeiter phase }

def Welt.neuesEreignis (ereignis : PlanspielRunEreignis) : Welt :=
  match welt.run? ereignis.runId with
  | some _ => { welt with
    ereignisse := welt.ereignisse ++ [{ ereignis with id := welt.vergeben + 1 }]
    vergeben := welt.vergeben + 1 }
  | none => welt

end Zugriff

/-- The columns `beanspruchen` sets. -/
def beansprucht (jetzt : Zeit) (event : PlanspielRunEreignis) : PlanspielRunEreignis :=
  { event with status := .laeuft, leaseUntil := some (jetzt + lease), versuche := event.versuche + 1 }

/-- `ereignis_beanspruchen`: one conditional `UPDATE` -/
def ereignisBeanspruchen (welt : Welt) (ereignisId : Nat) (jetzt : Zeit) : Option Welt :=
  match welt.ereignis? ereignisId with
  | none => none
  | some event =>
    if event.status = .geplant ∨ event.status = .laeuft ∧ event.leaseUntil.any (fun l => decide (l < jetzt)) then
      some (welt.setzeEreignis ereignisId (beansprucht jetzt))
    else none

/-- `_AUSFUEHRER` knows the kinds of targets. -/
def bekannteZiele : List String := ["incident", "site", "lage"]

/-- `ereignis_ausfuehren` up to its commit or to the exception, with the event
and its run locked; `ergebnis` is what the executor returns or raises. -/
def ereignisAusfuehren (welt : Welt) (ereignisId version : Nat) (jetzt : Zeit) (ergebnis : Except String (Option Nat)) :
    Except String Welt :=
  match welt.ereignis? ereignisId with
  | none => .ok welt
  | some event =>
    match welt.run? event.runId with
    | none => .ok welt
    | some run =>
      if run.status = .beendet then
        .ok (welt.setzeEreignis event.id fun e => { e with status := .abgebrochen, leaseUntil := none })
      else if run.status.running = false ∨ run.steuerVersion ≠ version ∨ run.folgeAktiv = false ∧ event.quelle ≠ .regie then
        .ok (welt.setzeEreignis event.id fun e => { e with status := .geplant, leaseUntil := none })
      else if (event.zielTyp.getD "") ∉ bekannteZiele then .error "Unbekannter Zieltyp"
      else
        match ergebnis with
        | .error fehler => .error fehler
        | .ok messageId =>
          let ausgefuehrt := welt.setzeEreignis event.id fun e => { e with
            status := .ausgefuehrt
            ausgefuehrtAt := some jetzt
            ausgefuehrtSimS := some (simSekunden run jetzt)
            leaseUntil := none
            messageId }
          .ok { ausgefuehrt with wirkungen := welt.wirkungen ++ [event.id] }

/-- What `ereignis_ausfuehren` commits after an exception. -/
def nachFehler (welt : Welt) (ereignisId : Nat) (fehler : String) : Welt :=
  match welt.ereignis? ereignisId with
  | none => welt
  | some event =>
    let text := clip 2000 fehler
    let geschrieben := welt.setzeEreignis event.id fun e => { e with
      fehler := some text
      leaseUntil := none
      status := if 3 ≤ event.versuche then .fehlgeschlagen else .geplant }
    geschrieben.setzeRun event.runId fun r => { r with letzterFehler := some text }

section Regie

/-- `_steuerbar` -/
def steuerbar (run : PlanspielRun) : Except String Unit :=
  require (run.status.steuerbar = true) "Planspiel kann in diesem Status nicht gesteuert werden"

/-- `pausieren`, the columns it sets on the row of a run that has been read. -/
def pausieren (run : PlanspielRun) (jetzt : Zeit) : Except String (PlanspielRun → PlanspielRun) := do
  require (run.status.running = true) "Planspiel kann nicht pausiert werden"
  return fun r => { r with
    statusVorPause := run.status, status := .pausiert, pausiertSeit := some jetzt, steuerVersion := run.steuerVersion + 1 }

/-- `fortsetzen` -/
def fortsetzen (run : PlanspielRun) (jetzt : Zeit) : Except String (PlanspielRun → PlanspielRun) := do
  require (run.status = .pausiert) "Planspiel kann nicht fortgesetzt werden"
  let pausiertSeit ← demand run.pausiertSeit "Planspiel kann nicht fortgesetzt werden"
  return fun r => { r with
    pausiertSummeS := run.pausiertSummeS + max 0 ((jetzt - pausiertSeit).tdiv 1000000)
    status := run.statusVorPause
    pausiertSeit := none
    steuerVersion := run.steuerVersion + 1 }

/-- `folgemeldungen_setzen` -/
def folgemeldungenSetzen (run : PlanspielRun) (aktiv : Bool) : Except String (PlanspielRun → PlanspielRun) := do
  steuerbar run
  return fun r => { r with folgeAktiv := aktiv, steuerVersion := run.steuerVersion + 1 }

/-- `generator_stoppen` -/
def generatorStoppen (run : PlanspielRun) : Except String (PlanspielRun → PlanspielRun) := do
  require (run.status = .laeuft ∧ run.genAktiv = true) "Generator kann nicht gestoppt werden"
  return fun r => { r with genAktiv := false, status := .generierungGestoppt }

/-- `generator_fortsetzen`, with whether a limit has been reached. -/
def generatorFortsetzen (run : PlanspielRun) (obergrenze : Bool) : Except String (PlanspielRun → PlanspielRun) := do
  require (run.status = .generierungGestoppt) "Generator kann nicht fortgesetzt werden"
  require (obergrenze = false) "Obergrenze ist bereits erreicht"
  return fun r => { r with genAktiv := true, status := .laeuft }

def abgebrochen (event : PlanspielRunEreignis) : PlanspielRunEreignis :=
  { event with status := .abgebrochen, leaseUntil := none }

/-- The columns of the run that `beenden` sets. -/
def beendet (run : PlanspielRun) (jetzt : Zeit) (r : PlanspielRun) : PlanspielRun :=
  { r with
    pausiertSummeS := match run.pausiertSeit with
      | some seit => run.pausiertSummeS + max 0 ((jetzt - seit).tdiv 1000000)
      | none => r.pausiertSummeS
    pausiertSeit := none
    status := .beendet
    beendetAt := some jetzt
    steuerVersion := run.steuerVersion + 1
    genAktiv := false }

/-- `beenden`, with the open events it has read. -/
def beenden (welt : Welt) (run : PlanspielRun) (gelesen : List PlanspielRunEreignis) (jetzt : Zeit) : Except String Welt := do
  steuerbar run
  let offene := gelesen.filter fun e =>
    e.runId == run.id && (e.status == .geplant || e.status == .faellig || e.status == .laeuft)
  return (offene.foldl (fun welt e => welt.setzeEreignis e.id abgebrochen) welt).setzeRun run.id (beendet run jetzt)

/-- `_existing_regie` -/
def existingRegie (welt : Welt) (run : PlanspielRun) (clientUuid : Option String) : Option PlanspielRunEreignis :=
  (orNone clientUuid).bind fun uuid =>
    welt.ereignisse.find? fun e => e.idempotenzKey == s!"run{run.id}:regie:{uuid}"

/-- `ereignis_jetzt`; a status that was planned already is not written. -/
def ereignisJetzt (welt : Welt) (run : PlanspielRun) (event : PlanspielRunEreignis) (jetzt : Zeit)
    (clientUuid : Option String) : Except String Welt := do
  steuerbar run
  if (existingRegie welt run clientUuid).isSome then return welt
  require (event.runId = run.id) "Ereignis gehört nicht zu diesem Planspiel"
  require (event.status = .geplant ∨ event.status = .uebersprungen) "Ereignis kann nicht sofort ausgelöst werden"
  return welt.setzeEreignis event.id fun e => { e with
    faelligSimS := some (sofortFaellig run jetzt)
    status := if event.status = .geplant then e.status else .geplant
    idempotenzKey := match orNone clientUuid with
      | some uuid => s!"run{run.id}:regie:{uuid}"
      | none => e.idempotenzKey }

/-- `ereignis_ueberspringen` -/
def ereignisUeberspringen (welt : Welt) (run : PlanspielRun) (event : PlanspielRunEreignis) : Except String Welt := do
  steuerbar run
  require (event.runId = run.id) "Ereignis gehört nicht zu diesem Planspiel"
  require (event.status = .geplant) "Ereignis kann nicht übersprungen werden"
  return welt.setzeEreignis event.id fun e =>
    { e with status := .uebersprungen, fehler := some "durch Regie übersprungen" }

/-- `_naechste_seq` -/
def naechsteSeq (welt : Welt) (run : PlanspielRun) : Nat :=
  (((welt.ereignisse.filter (·.runId == run.id)).map (·.seq)).max?).getD 0 + 1

def regieKey (welt : Welt) (run : PlanspielRun) (art : String) (clientUuid : Option String) : String :=
  match orNone clientUuid with
  | some uuid => s!"run{run.id}:regie:{uuid}"
  | none => s!"run{run.id}:regie:{art}:{naechsteSeq welt run}"

/-- `ereignis_wiederholen` -/
def ereignisWiederholen (welt : Welt) (run : PlanspielRun) (source : PlanspielRunEreignis) (jetzt : Zeit)
    (clientUuid : Option String) : Except String Welt := do
  steuerbar run
  if (existingRegie welt run clientUuid).isSome then return welt
  require (source.runId = run.id) "Ereignis gehört nicht zu diesem Planspiel"
  return welt.neuesEreignis {
    id := 0
    runId := run.id
    seq := naechsteSeq welt run
    quelle := .regie
    bausteinCode := source.bausteinCode
    zielTyp := source.zielTyp
    zielId := source.zielId
    triggerType := "manual"
    triggerParam := source.triggerParam
    faelligSimS := some (sofortFaellig run jetzt)
    idempotenzKey := regieKey welt run "repeat" clientUuid
    sichtbarkeit := source.sichtbarkeit
    text := source.text }

/-- `freie_meldung` -/
def freieMeldung (welt : Welt) (run : PlanspielRun) (jetzt : Zeit) (text sichtbarkeit ereignisTyp : String)
    (clientUuid : Option String) : Except String Welt := do
  steuerbar run
  require (1 ≤ text.length ∧ text.length ≤ 1000) "Text muss zwischen 1 und 1000 Zeichen lang sein"
  if (existingRegie welt run clientUuid).isSome then return welt
  return welt.neuesEreignis {
    id := 0
    runId := run.id
    seq := naechsteSeq welt run
    quelle := .regie
    zielTyp := some (if run.art = "gsl" then "lage" else "incident")
    zielId := if run.art = "gsl" then run.lageId else run.incidentId
    triggerType := "manual"
    triggerParam := ereignisTyp
    faelligSimS := some (sofortFaellig run jetzt)
    idempotenzKey := regieKey welt run "free" clientUuid
    sichtbarkeit
    text := some text }

end Regie

/-- `verpasste_markieren`, one of the events it has read. -/
def verpassteMarkieren (welt : Welt) (run : PlanspielRun) (event : PlanspielRunEreignis) (jetzt : Zeit) : Welt :=
  if event.runId = run.id ∧ event.quelle ≠ .regie ∧ event.status = .geplant ∧ event.triggerType = "elapsed_time" ∧
      event.faelligSimS.any (fun s => decide (s < simSekunden run jetzt - 120)) then
    welt.setzeEreignis event.id fun e => { e with status := .uebersprungen, fehler := some "verpasst (Ausfall)" }
  else welt

/-- `reaktive_trigger_auswerten`, one of the events it has read, whose trigger
has been met. -/
def reaktivAusloesen (welt : Welt) (run : PlanspielRun) (event : PlanspielRunEreignis) (jetzt : Zeit) : Welt :=
  if event.runId = run.id ∧ event.status = .geplant ∧ event.faelligSimS = none ∧
      event.triggerType ∈ ["phase_reached", "assignment_created", "assignment_completed"] then
    welt.setzeEreignis event.id fun e => { e with faelligSimS := some (sofortFaellig run jetzt) }
  else welt

inductive Steuerung where
  | pausieren (jetzt : Zeit)
  | fortsetzen (jetzt : Zeit)
  | folgemeldungen (aktiv : Bool)
  | generatorStoppen
  | generatorFortsetzen (obergrenze : Bool)
  deriving DecidableEq

def Steuerung.werte (run : PlanspielRun) : Steuerung → Except String (PlanspielRun → PlanspielRun)
  | .pausieren jetzt => Planspiel.pausieren run jetzt
  | .fortsetzen jetzt => Planspiel.fortsetzen run jetzt
  | .folgemeldungen aktiv => folgemeldungenSetzen run aktiv
  | .generatorStoppen => Planspiel.generatorStoppen run
  | .generatorFortsetzen obergrenze => Planspiel.generatorFortsetzen run obergrenze

/-- A step: the clock goes on; a worker reads, claims, executes or dies; a
request of the control or the first part of a tick writes what it has decided on
the rows it has read; the generator adds an event. -/
inductive Aktion where
  | warte (bis : Zeit)
  | lies (arbeiter runId : Nat)
  | beanspruche (arbeiter : Nat)
  | fuehreAus (arbeiter : Nat) (ergebnis : Except String (Option Nat))
  | nachFehler (arbeiter : Nat)
  | stirb (arbeiter : Nat)
  | verpasst (run : PlanspielRun) (event : PlanspielRunEreignis) (jetzt : Zeit)
  | reaktiv (run : PlanspielRun) (event : PlanspielRunEreignis) (jetzt : Zeit)
  | erzeuge (ereignis : PlanspielRunEreignis)
  | steuere (run : PlanspielRun) (steuerung : Steuerung)
  | beende (run : PlanspielRun) (gelesen : List PlanspielRunEreignis) (jetzt : Zeit)
  | jetzt (run : PlanspielRun) (event : PlanspielRunEreignis) (jetzt : Zeit) (clientUuid : Option String)
  | ueberspringe (run : PlanspielRun) (event : PlanspielRunEreignis)
  | wiederhole (run : PlanspielRun) (source : PlanspielRunEreignis) (jetzt : Zeit) (clientUuid : Option String)
  | melde (run : PlanspielRun) (jetzt : Zeit) (text sichtbarkeit ereignisTyp : String) (clientUuid : Option String)

def lies (welt : Welt) (arbeiter runId : Nat) : Welt :=
  match welt.run? runId with
  | some run =>
    if run.status.running then
      welt.setzeArbeiter arbeiter (.tickt {
        version := run.steuerVersion, ids := faelligeEreignisse welt.ereignisse run welt.uhr, jetzt := welt.uhr })
    else welt
  | none => welt

def nimm (welt : Welt) (arbeiter : Nat) (tick : Tick) : Welt :=
  match tick.ids with
  | [] => welt.setzeArbeiter arbeiter .frei
  | id :: rest =>
    match ereignisBeanspruchen welt id tick.jetzt with
    | some beansprucht => beansprucht.setzeArbeiter arbeiter (.fuehrtAus { tick with ids := rest } id)
    | none => welt.setzeArbeiter arbeiter (.tickt { tick with ids := rest })

def fuehreAus (welt : Welt) (arbeiter : Nat) (tick : Tick) (ereignisId : Nat) (ergebnis : Except String (Option Nat)) : Welt :=
  match ereignisAusfuehren welt ereignisId tick.version tick.jetzt ergebnis with
  | .ok welt => welt.setzeArbeiter arbeiter (.tickt tick)
  | .error fehler => welt.setzeArbeiter arbeiter (.gescheitert tick ereignisId fehler)

def Welt.oder (welt : Welt) : Except String Welt → Welt
  | .ok welt => welt
  | .error _ => welt

def step (welt : Welt) : Aktion → Welt
  | .warte bis => { welt with uhr := max welt.uhr bis }
  | .lies arbeiter runId =>
    match welt.arbeiter[arbeiter]? with
    | some .frei => lies welt arbeiter runId
    | _ => welt
  | .beanspruche arbeiter =>
    match welt.arbeiter[arbeiter]? with
    | some (.tickt tick) => nimm welt arbeiter tick
    | _ => welt
  | .fuehreAus arbeiter ergebnis =>
    match welt.arbeiter[arbeiter]? with
    | some (.fuehrtAus tick ereignisId) => fuehreAus welt arbeiter tick ereignisId ergebnis
    | _ => welt
  | .nachFehler arbeiter =>
    match welt.arbeiter[arbeiter]? with
    | some (.gescheitert tick ereignisId fehler) =>
      (nachFehler welt ereignisId fehler).setzeArbeiter arbeiter (.tickt tick)
    | _ => welt
  | .stirb arbeiter => welt.setzeArbeiter arbeiter .frei
  | .verpasst run event jetzt => verpassteMarkieren welt run event jetzt
  | .reaktiv run event jetzt => reaktivAusloesen welt run event jetzt
  | .erzeuge ereignis => welt.neuesEreignis { ereignis with status := .geplant, leaseUntil := none }
  | .steuere run steuerung =>
    match steuerung.werte run with
    | .ok werte => welt.setzeRun run.id werte
    | .error _ => welt
  | .beende run gelesen jetzt => welt.oder (beenden welt run gelesen jetzt)
  | .jetzt run event jetzt clientUuid => welt.oder (ereignisJetzt welt run event jetzt clientUuid)
  | .ueberspringe run event => welt.oder (ereignisUeberspringen welt run event)
  | .wiederhole run source jetzt clientUuid => welt.oder (ereignisWiederholen welt run source jetzt clientUuid)
  | .melde run jetzt text sichtbarkeit ereignisTyp clientUuid =>
    welt.oder (freieMeldung welt run jetzt text sichtbarkeit ereignisTyp clientUuid)

end Einsatzcockpit.Planspiel
