import Mathlib.Data.List.Sort
import Einsatzcockpit.Lib.Unique
import Einsatzcockpit.Breathing.Zugriff

namespace Einsatzcockpit.Breathing

/-- A row of `breathing_client_event`. -/
structure BreathingClientEvent where
  id : Nat
  incidentId : Nat
  userId : Nat
  clientEventId : String
  route : String
  erfasstAt : Zeit
  empfangenAt : Zeit
  nachgetragen : Bool
  deriving DecidableEq

/-- `[A-Za-z0-9-]{8,40}` -/
def validClientEventId (value : String) : Except Fehler String :=
  let erlaubt := fun c => ('A' ≤ c && c ≤ 'Z') || ('a' ≤ c && c ≤ 'z') || ('0' ≤ c && c ≤ '9') || c == '-'
  if 8 ≤ value.length ∧ value.length ≤ 40 ∧ value.toList.all erlaubt then .ok value
  else .error (.valueError "Ungültige Ereignis-ID.")

def AckKind.ofText? : String → Option AckKind
  | "one_third" => some oneThird
  | "two_third" => some twoThird
  | "max_time" => some maxTime
  | "withdraw" => some withdraw
  | _ => none

inductive Eingabe where
  | enddruck (troopMemberId : Nat) (pressureBar : Zahl)
  | status (status : String)
  | druck (troopMemberId : Nat) (pressureBar : Zahl) (note korrekturGrund : String)
  | einsatzziel (troopMemberId : Nat) (pressureBar : Zahl)
  | meldung (text : String)
  | ack (kind : String)
  | kontrolle (stufe art : String) (pressureBar : Option Zahl) (troopMemberId : Option Nat) (note : String)
  | funkverlust (aktiv : String)
  | notfall (bestaetigt : String)
  | details (form : Details) (label : String)
  | standort (locationText : String)
  | auftrag (taskText : String)

namespace Eingabe

def route : Eingabe → String
  | enddruck .. => "enddruck"
  | status .. => "status"
  | druck .. => "druck"
  | einsatzziel .. => "einsatzziel"
  | meldung .. => "meldung"
  | ack .. => "ack"
  | kontrolle .. => "kontrolle"
  | funkverlust .. => "funkverlust"
  | notfall .. => "notfall"
  | details .. => "details"
  | standort .. => "standort"
  | auftrag .. => "auftrag"

def vorab : Eingabe → Bool
  | ack kind => (AckKind.ofText? kind).isSome
  | _ => true

def erfolg : Eingabe → Nat
  | status .. => 303
  | _ => 204

def abgelehnt : Eingabe → Fehler → Nat
  | status .., .invalidTroopTransition _ => 409
  | druck .., .pressureIncreaseConflict _ => 409
  | _, _ => 400

def messung (userId : Nat) (ts : Zeit) (nachgetragen : Bool) (troopMemberId : Nat) (pressureBar : Zahl) : Messung where
  troopMemberId := troopMemberId
  pressureBar := pressureBar
  recordedByUserId := some userId
  ts := some ts
  nachgetragen := nachgetragen

def ausfuehren (fl : Gleitkomma) (umgebung : Umgebung) (userId : Nat) (ts : Zeit) (nachgetragen : Bool) :
    Eingabe → BreathingTroop → Except Fehler BreathingTroop
  | enddruck troopMemberId pressureBar, troop =>
    reportBackPressure (messung userId ts nachgetragen troopMemberId pressureBar) troop
  | status newStatus, troop => updateTroopStatus umgebung newStatus (some ts) troop
  | druck troopMemberId pressureBar note korrekturGrund, troop =>
    logPressure fl umgebung (messung userId ts nachgetragen troopMemberId pressureBar)
      (orNone (some (strip note))) (some korrekturGrund) false troop
  | einsatzziel troopMemberId pressureBar, troop =>
    reportObjectiveReached fl umgebung (messung userId ts nachgetragen troopMemberId pressureBar) troop
  | meldung text, troop => .ok (updateMeldung umgebung (orNone (some (strip text))) (some ts) troop)
  | ack kind, troop =>
    match AckKind.ofText? kind with
    | some kind => ackWarning fl umgebung kind (some ts) troop
    | none => .ok troop
  | kontrolle stufe art pressureBar troopMemberId note, troop =>
    recordKontrolle fl umgebung
      { stufe := stufe, art := art, pressureBar := pressureBar, troopMemberId := troopMemberId
        note := orNone (some (strip note)), userId := some userId, ts := some ts, nachgetragen := nachgetragen } troop
  | funkverlust aktiv, troop =>
    if aktiv ≠ "1" ∧ aktiv ≠ "0" then .error (.valueError "Aktiv muss 1 oder 0 sein.")
    else setFunkVerloren umgebung (aktiv = "1") (some ts) troop
  | notfall bestaetigt, troop =>
    if bestaetigt ≠ "1" then .error (.valueError "Notfall muss ausdrücklich bestätigt werden.")
    else declareNotfall umgebung (some userId) (some ts) troop
  | details form label, troop => .ok (form.write userId label troop)
  | standort locationText, troop => .ok { troop with locationText := orNone (some (strip locationText)) }
  | auftrag taskText, troop => .ok { troop with taskText := orNone (some (strip taskText)) }

end Eingabe

structure Ereignis where
  incidentId : Nat
  troopId : Nat
  userId : Nat
  clientEventId : Option String
  erfasstAt : Option String
  eingabe : Eingabe

/-- The state of one request, with what `_ereignis_vorbereiten` gave it and the
troop it has read. -/
inductive Sitzung where
  | frei
  | wartend (ereignis : Ereignis) (row : BreathingClientEvent) (gelesen : BreathingTroop)
  | beansprucht (ereignis : Ereignis) (ts : Zeit) (nachgetragen : Bool) (gelesen : BreathingTroop)
  | ausgefuehrt (ereignis : Ereignis) (gelesen neu : BreathingTroop)

/-- A committed change of a troop: of an event with the row it has claimed, or
of something else. -/
structure Buchung where
  ereignis : Option Ereignis
  row : Option BreathingClientEvent
  troopId : Nat
  wirkung : Option BreathingTroop → Option BreathingTroop

structure Welt where
  now : Zeit := 0
  troops : Nat → Option BreathingTroop
  claims : Unique.Table BreathingClientEvent := {}
  naechsteId : Nat := 1
  sitzungen : Nat → Sitzung := fun _ => .frei
  buchungen : List Buchung := []
  antworten : List (Ereignis × Nat) := []

namespace Welt

def setze (s : Nat) (sitzung : Sitzung) (welt : Welt) : Welt :=
  { welt with sitzungen := Function.update welt.sitzungen s sitzung }

def antworte (ereignis : Ereignis) (code : Nat) (welt : Welt) : Welt :=
  { welt with antworten := welt.antworten ++ [(ereignis, code)] }

def buche (buchung : Buchung) (welt : Welt) : Welt :=
  { welt with
    troops := Function.update welt.troops buchung.troopId (buchung.wirkung (welt.troops buchung.troopId))
    buchungen := welt.buchungen ++ [buchung] }

def rollback (s : Nat) (welt : Welt) : Welt :=
  { welt with claims := welt.claims.rollback s }.setze s .frei

end Welt

/-- The row `claim_client_event` adds. -/
def clientEvent (id : Nat) (now : Zeit) (ereignis : Ereignis) (clientEventId : String) (ts : Zeit) (nachgetragen : Bool) :
    BreathingClientEvent where
  id := id
  incidentId := ereignis.incidentId
  userId := ereignis.userId
  clientEventId := clientEventId
  route := ereignis.eingabe.route
  erfasstAt := ts
  empfangenAt := now
  nachgetragen := nachgetragen

section Dienst

variable {κ : Type} [DecidableEq κ]

def BreathingClientEvent.schluessel (kollation : String → κ) (row : BreathingClientEvent) : Nat × κ :=
  (row.incidentId, kollation row.clientEventId)

variable (fl : Gleitkomma) (kollation : String → κ) (fromisoformat : String → Option Zeit) (lockWait : Zeit)
  (verschmelze : BreathingTroop → BreathingTroop → BreathingTroop → BreathingTroop)

def beginne (s : Nat) (ereignis : Ereignis) (welt : Welt) : Welt :=
  if !ereignis.eingabe.vorab then welt.antworte ereignis 400
  else match welt.troops ereignis.troopId with
  | none => welt.antworte ereignis 404
  | some troop =>
    if troop.incidentId ≠ ereignis.incidentId then welt.antworte ereignis 404
    else match parseErfasstAt fromisoformat ereignis.erfasstAt welt.now with
    | .error _ => welt.antworte ereignis 400
    | .ok (ts, nachgetragen) =>
      match ereignis.clientEventId with
      | none => welt.setze s (.beansprucht ereignis ts nachgetragen troop)
      | some clientEventId =>
        match validClientEventId clientEventId with
        | .error _ => welt.antworte ereignis 400
        | .ok clientEventId =>
          { welt with naechsteId := welt.naechsteId + 1 }.setze s
            (.wartend ereignis (clientEvent welt.naechsteId welt.now ereignis clientEventId ts nachgetragen) troop)

/-- The insertion of the claim: it waits for a request that holds the key, and
is given up after the lock wait timeout. -/
def beanspruche (s : Nat) (ereignis : Ereignis) (row : BreathingClientEvent) (gelesen : BreathingTroop) (welt : Welt) :
    Welt :=
  if lockWait < welt.now - row.empfangenAt then (welt.antworte ereignis 500).rollback s
  else match welt.claims.insert (·.schluessel kollation) s row with
  | (.inserted, claims) =>
    { welt with claims }.setze s (.beansprucht ereignis row.erfasstAt row.nachgetragen gelesen)
  | (.duplicate, _) => (welt.antworte ereignis ereignis.eingabe.erfolg).rollback s
  | (.waiting, _) => welt

def fuehreAus (s : Nat) (umgebung : Umgebung) (ereignis : Ereignis) (ts : Zeit) (nachgetragen : Bool)
    (gelesen : BreathingTroop) (welt : Welt) : Welt :=
  match ereignis.eingabe.ausfuehren fl umgebung ereignis.userId ts nachgetragen gelesen with
  | .error fehler => (welt.antworte ereignis (ereignis.eingabe.abgelehnt fehler)).rollback s
  | .ok neu => welt.setze s (.ausgefuehrt ereignis gelesen neu)

/-- `db.commit()` -/
def schliesseAb (s : Nat) (ereignis : Ereignis) (gelesen neu : BreathingTroop) (welt : Welt) : Welt :=
  let buchung : Buchung :=
    ⟨some ereignis, welt.claims.row? s, ereignis.troopId, Option.map (verschmelze gelesen neu)⟩
  (({ welt with claims := welt.claims.commit s }.buche buchung).antworte ereignis ereignis.eingabe.erfolg).setze s .frei

/-- `timedelta(days=14)` -/
def aufbewahrung : Zeit := stunden (14 * 24)

/-- `cleanup_client_events`: the oldest rows past their retention. -/
def cleanupClientEvents (now : Zeit) (batch : Nat) (rows : List BreathingClientEvent) : List BreathingClientEvent :=
  let rank := fun a b : BreathingClientEvent =>
    a.empfangenAt < b.empfangenAt ∨ a.empfangenAt = b.empfangenAt ∧ a.id ≤ b.id
  let alt := ((rows.filter (·.empfangenAt < now - aufbewahrung)).insertionSort rank).take batch
  rows.filter (· ∉ alt)

inductive Schritt where
  | uhr (vergangen : Nat)
  | beginne (s : Nat) (ereignis : Ereignis)
  | beanspruche (s : Nat)
  | fuehreAus (s : Nat) (umgebung : Umgebung)
  | schliesseAb (s : Nat)
  | abbruch (s : Nat)
  | cleanup (batch : Nat)
  | anderes (troopId : Nat) (wirkung : Option BreathingTroop → Option BreathingTroop)

def schritt (welt : Welt) : Schritt → Welt
  | .uhr vergangen => { welt with now := welt.now + vergangen }
  | .beginne s ereignis =>
    match welt.sitzungen s with
    | .frei => beginne fromisoformat s ereignis welt
    | _ => welt
  | .beanspruche s =>
    match welt.sitzungen s with
    | .wartend ereignis row gelesen => beanspruche kollation lockWait s ereignis row gelesen welt
    | _ => welt
  | .fuehreAus s umgebung =>
    match welt.sitzungen s with
    | .beansprucht ereignis ts nachgetragen gelesen => fuehreAus fl s umgebung ereignis ts nachgetragen gelesen welt
    | _ => welt
  | .schliesseAb s =>
    match welt.sitzungen s with
    | .ausgefuehrt ereignis gelesen neu => schliesseAb verschmelze s ereignis gelesen neu welt
    | _ => welt
  -- an error the endpoint does not catch, or the end of the process
  | .abbruch s => welt.rollback s
  | .cleanup batch =>
    { welt with claims := { welt.claims with rows := cleanupClientEvents welt.now batch welt.claims.rows } }
  | .anderes troopId wirkung => welt.buche ⟨none, none, troopId, wirkung⟩

end Dienst

end Einsatzcockpit.Breathing
