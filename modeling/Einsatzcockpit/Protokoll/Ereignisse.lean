import Mathlib.Data.List.Infix
import Einsatzcockpit.Breathing.Records

/-! What a troop's protocol takes from its records, `breathing_protokoll.py`. -/

namespace Einsatzcockpit.Protokoll

open Breathing

/-- A row of `incident_change`. -/
structure IncidentChange where
  id : Option Nat
  ts : Zeit
  action : String
  entityType : String
  entityId : Nat
  userId : Option Nat := none
  afterJson : Option String := none

structure BreathingZustellung where
  stufe : Int
  kanal : String
  userId : Option Nat
  empfaengerLabel : Option String
  status : String
  fehler : Option String
  gesendetAt : Option Zeit
  createdAt : Zeit

structure BreathingWarnung where
  troopId : Nat
  zyklusStart : Option Zeit
  kind : String
  ausgeloestAt : Zeit
  erledigtAt : Option Zeit
  eskalationStufe : Int
  eskaliertAt : Option Zeit
  zustellungen : List BreathingZustellung

/-- A value of a JSON object. Lists and objects in it are held by their text. -/
inductive Wert where
  | null
  | wahrheit (wert : Bool)
  | ganz (wert : Int)
  | gleitkomma (wert : ℚ)
  | text (wert : String)
  | sonst (inhalt : String) (leer : Bool)
  deriving DecidableEq

namespace Wert

def wahr : Wert → Bool
  | null => false
  | wahrheit wert => wert
  | ganz wert => wert != 0
  | gleitkomma wert => wert != 0
  | text wert => wert != ""
  | sonst _ leer => !leer

/-- The value of a number, `True` and `False` being numbers too. -/
def zahl? : Wert → Option ℚ
  | wahrheit wert => some (if wert then 1 else 0)
  | ganz wert => some wert
  | gleitkomma wert => some wert
  | _ => none

end Wert

abbrev Objekt := List (String × Wert)

/-- What the code takes from the language: the texts of numbers and values, the
readers of JSON (the pairs of an object, nothing for another value) and dates. -/
structure Sprache where
  g : ℚ → String
  str : Wert → String
  upper : String → String
  loads : String → Option (Option Objekt)
  fromisoformat : String → Option Zeit

structure Namen where
  benutzer : Nat → Option String
  mitglieder : Nat → Option String

inductive EreignisArt where
  | druck | kontrolle | warnung | status | meldung | audit

structure Ereignis where
  zeit : Zeit
  art : EreignisArt
  text : String
  akteur : String
  nachgetragen : Bool
  zyklus : Nat
  action : Option String
  entityId : Option Nat

structure Einsatzzyklus where
  deploymentId : Option Nat
  entryAt : Option Zeit
  withdrawAt : Option Zeit
  backAt : Option Zeit
  taskText : Option String
  locationText : Option String
  funkVerlorenAt : Option Zeit
  notfallAt : Option Zeit
  notfallVonUserId : Option Nat
  escalatedAt : Option Zeit
  readinessOverrideReason : Option String
  readinessOverrideByUserId : Option Nat
  readinessOverrideAt : Option Zeit
  activeMembers : List TroopMember

def deploymentZyklus (troop : BreathingTroop) (d : BreathingDeployment) : Einsatzzyklus where
  deploymentId := some d.id
  entryAt := d.entryAt
  withdrawAt := d.withdrawAt
  backAt := d.backAt
  taskText := d.taskText
  locationText := d.locationText
  funkVerlorenAt := d.funkVerlorenAt
  notfallAt := d.notfallAt
  notfallVonUserId := none
  escalatedAt := d.escalatedAt
  readinessOverrideReason := d.readinessOverrideReason
  readinessOverrideByUserId := d.readinessOverrideByUserId
  readinessOverrideAt := d.readinessOverrideAt
  activeMembers := troop.members.filter (·.deploymentId == some d.id)

def troopZyklus (troop : BreathingTroop) : Einsatzzyklus where
  deploymentId := none
  entryAt := troop.entryAt
  withdrawAt := troop.withdrawAt
  backAt := troop.backAt
  taskText := troop.taskText
  locationText := troop.locationText
  funkVerlorenAt := troop.funkVerlorenAt
  notfallAt := troop.notfallAt
  notfallVonUserId := troop.notfallVonUserId
  escalatedAt := troop.escalatedAt
  readinessOverrideReason := troop.readinessOverrideReason
  readinessOverrideByUserId := troop.readinessOverrideByUserId
  readinessOverrideAt := troop.readinessOverrideAt
  activeMembers := troop.activeMembers

/-- `get_troop_cycles` -/
def getTroopCycles (troop : BreathingTroop) : List Einsatzzyklus :=
  if troop.entryAt.isSome ∨ troop.deployments ≠ [] then
    troop.deployments.map (deploymentZyklus troop) ++ [troopZyklus troop]
  else [troopZyklus troop]

/-- `WARNUNGEN` -/
def warnungLabel : String → String
  | "one_third_due" => "Kontrolle 1/3 fällig"
  | "two_third_due" => "Kontrolle 2/3 fällig"
  | "withdraw" => "Rückzugsdruck"
  | "max_exceeded" => "Max-Zeit überschritten"
  | "funk_verloren" => "Funkverlust"
  | "notfall" => "Notfall"
  | "assp" => "Atemschutzsammelplatz"
  | "kein_sicherheitstrupp" => "Kein Sicherheitstrupp"
  | "kein_heartbeat" => "Kein Heartbeat"
  | kind => kind

variable (sprache : Sprache) (namen : Namen)

/-- `TroopMember.display_name` -/
def displayName (m : TroopMember) : String :=
  match m.memberId.bind namen.mitglieder with
  | some fullName => fullName
  | none => (orNone m.freeTextName).getD "Unbekannt"

def ereignis (zeit : Zeit) (art : EreignisArt) (text : String) (nr : Nat) (userId : Option Nat) (nachgetragen : Bool)
    (action : Option String) (entityId : Option Nat) : Ereignis where
  zeit := zeit
  art := art
  text := text
  akteur := (userId.bind namen.benutzer).getD ""
  nachgetragen := nachgetragen
  zyklus := nr
  action := action
  entityId := entityId

/-- `add`: nothing without a time. -/
def add (zeit : Option Zeit) (art : EreignisArt) (text : String) (nr : Nat) (userId : Option Nat) (nachgetragen : Bool)
    (action : Option String) (entityId : Option Nat) : List Ereignis :=
  zeit.toList.map fun zeit => ereignis namen zeit art text nr userId nachgetragen action entityId

/-- `cycle_for` -/
def cycleFor (cycles : List Einsatzzyklus) (zeit : Zeit) : Nat :=
  match (cycles.dropLast.zipIdx 1).find? fun (c, _) =>
      ((c.backAt <|> c.withdrawAt) <|> c.entryAt).any fun ende => zeit ≤ ende with
  | some (_, nr) => nr
  | none => cycles.length

/-- `members` and `member_cycles`: a member with the number of the cycle. -/
def mitglied? (cycles : List Einsatzzyklus) (id : Nat) : Option (TroopMember × Nat) :=
  ((cycles.zipIdx 1).flatMap fun (c, nr) => c.activeMembers.map fun m => (m, nr)).reverse.find? fun (m, _) => m.id == id

/-- `None` is written out. -/
def strBar : Option ℚ → String
  | none => "None"
  | some bar => sprache.str (.gleitkomma bar)

def memberEreignisse (c : Einsatzzyklus) (nr : Nat) (m : TroopMember) : List Ereignis :=
  (match m.startPress with
    | some press => add namen c.entryAt .druck s!"Anfangsdruck: {displayName namen m}, {sprache.g press} bar" nr none false none none
    | none => []) ++
  (match m.withdrawPress, m.objectivePressAt with
    | some press, none => add namen (c.withdrawAt <|> c.entryAt) .druck
        s!"Rückzugsdruck: {displayName namen m}, {sprache.g press} bar" nr none false none none
    | _, _ => []) ++
  add namen m.objectivePressAt .druck
    s!"Einsatzziel: {displayName namen m}, {strBar sprache m.objectivePress} bar; Rückzugsdruck {strBar sprache m.withdrawPress} bar"
    nr none false (some "troop.objective_reached") (some m.id) ++
  (match m.backPress with
    | some press => add namen (c.backAt <|> c.withdrawAt) .druck s!"Enddruck: {displayName namen m}, {sprache.g press} bar" nr none false
        (some "troop.back_pressure_reported") (some m.id)
    | none => [])

def anhang (note : Option String) : String :=
  match orNone note with
  | some note => s!" - {note}"
  | none => ""

def logEreignisse (cycles : List Einsatzzyklus) (c : Einsatzzyklus) (nr : Nat) (log : PressureLog) : List Ereignis :=
  if log.troopMemberId ∈ c.activeMembers.map (·.id) then
    match mitglied? cycles log.troopMemberId with
    | some (m, _) => add namen (some log.ts) .druck s!"{displayName namen m}: {sprache.g log.pressureBar} bar{anhang log.note}" nr
        log.recordedByUserId log.nachgetragen (some "troop.pressure_logged") (some m.id)
    | none => []
  else []

def stufeText : Stufe → String
  | .oneThird => "1/3"
  | .twoThird => "2/3"
  | .frei => "frei"

def artText : Art → String
  | .funk => "Funk"
  | .keinKontakt => "kein Funkkontakt"

def kontrolleEreignisse (c : Einsatzzyklus) (nr : Nat) (k : BreathingKontrolle) : List Ereignis :=
  if k.deploymentId = c.deploymentId then
    let druck := match k.niedrigsterDruck with
      | some bar => s!", niedrigster Druck {sprache.g bar} bar"
      | none => ""
    add namen (some k.erledigtAt) .kontrolle s!"Kontrolle {stufeText k.stufe}: {artText k.art}{druck}{anhang k.note}" nr
      k.userId k.nachgetragen (some "troop.kontrolle") none
  else []

def snapshot (c : Einsatzzyklus) (nr : Nat) (label action : String) (text : Option String) : List Ereignis :=
  match orNone text with
  | some text => add namen c.entryAt .meldung s!"{label}: {text}" nr none false (some action) none
  | none => []

def zyklusEreignisse (troop : BreathingTroop) (cycles : List Einsatzzyklus) (c : Einsatzzyklus) (nr : Nat) : List Ereignis :=
  add namen c.entryAt .status "Eintritt" nr none false (some "troop.started") none ++
  add namen c.withdrawAt .status "Rückzug" nr none false (some "troop.status_changed") none ++
  add namen c.backAt .status "Zurück" nr none false (some "troop.status_changed") none ++
  c.activeMembers.flatMap (memberEreignisse sprache namen c nr) ++
  troop.pressureLogs.flatMap (logEreignisse sprache namen cycles c nr) ++
  troop.kontrollen.flatMap (kontrolleEreignisse sprache namen c nr) ++
  add namen c.funkVerlorenAt .warnung "Funkverlust gesetzt" nr none false (some "troop.funk_verloren") none ++
  add namen c.notfallAt .warnung "Notfall gesetzt" nr c.notfallVonUserId false (some "troop.notfall") none ++
  add namen c.escalatedAt .warnung "Eskalation" nr none false (some "troop.escalated") none ++
  add namen c.readinessOverrideAt .status ("Readiness-Override: " ++ c.readinessOverrideReason.getD "") nr
    c.readinessOverrideByUserId false (some "troop.readiness_overridden") none ++
  snapshot namen c nr "Auftrag" "snapshot.task_text" c.taskText ++
  snapshot namen c nr "Standort" "snapshot.location_text" c.locationText

def warnungZyklus (cycles : List Einsatzzyklus) (w : BreathingWarnung) : Nat :=
  match (cycles.zipIdx 1).find? fun (c, _) => c.entryAt.isSome && w.zyklusStart.isSome && c.entryAt == w.zyklusStart with
  | some (_, nr) => nr
  | none => cycleFor cycles w.ausgeloestAt

def zustellungEreignis (w : BreathingWarnung) (nr : Nat) (z : BreathingZustellung) : Ereignis :=
  let empfaenger := (orNone z.empfaengerLabel).getD ((namen.benutzer (z.userId.getD 0)).getD "Unbekannt")
  let fehler := match orNone z.fehler with
    | some fehler => s!", Fehler: {fehler}"
    | none => ""
  let text := s!"{warnungLabel w.kind}: {sprache.upper z.kanal} an {empfaenger} (Stufe {z.stufe}), Status: {z.status}{fehler}"
  ereignis namen (z.gesendetAt.getD z.createdAt) .warnung text nr z.userId false none none

def warnungEreignisse (cycles : List Einsatzzyklus) (w : BreathingWarnung) : List Ereignis :=
  let nr := warnungZyklus cycles w
  let label := warnungLabel w.kind
  add namen (some w.ausgeloestAt) .warnung s!"Warnung ausgelöst: {label}" nr none false none none ++
  add namen w.erledigtAt .warnung s!"Warnung erledigt: {label}" nr none false none none ++
  add namen w.eskaliertAt .warnung s!"Eskalation Stufe {w.eskalationStufe}: {label}" nr none false none none ++
  w.zustellungen.map (zustellungEreignis sprache namen w nr)

def strukturiert (troop : BreathingTroop) (warnungen : List BreathingWarnung) : List Ereignis :=
  let cycles := getTroopCycles troop
  (cycles.zipIdx 1).flatMap (fun (c, nr) => zyklusEreignisse sprache namen troop cycles c nr) ++
  (match orNone troop.lastMeldungText with
    | some text => add namen troop.lastMeldungAt .meldung text cycles.length none false (some "troop.meldung") none
    | none => []) ++
  (warnungen.filter (·.troopId == troop.id)).flatMap (warnungEreignisse sprache namen cycles)

end Einsatzcockpit.Protokoll
