import Mathlib.Data.List.Sort
import Einsatzcockpit.Protokoll.Ereignisse

namespace Einsatzcockpit.Protokoll

open Breathing

inductive Bezug where
  | trupp
  | mitglied (m : TroopMember) (nr : Nat)

def startsWith (anfang text : String) : Bool := anfang.toList.isPrefixOf text.toList

/-- `str.removeprefix` -/
def removePrefix (anfang text : String) : String :=
  if startsWith anfang text then String.ofList (text.toList.drop anfang.length) else text

def bezug (troop : BreathingTroop) (cycles : List Einsatzzyklus) (row : IncidentChange) : Option Bezug :=
  if startsWith "troop." row.action then
    if row.entityType = "breathing_troop" ∧ row.entityId = troop.id then some .trupp
    else if row.entityType = "troop_member" then (mitglied? cycles row.entityId).map fun (m, nr) => .mitglied m nr
    else none
  else none

/-- `redeploys` -/
def redeploys (troop : BreathingTroop) (audits : List IncidentChange) : List Nat :=
  (audits.filterMap fun a =>
    if a.action = "troop.redeployed" ∧ a.entityType = "breathing_troop" ∧ a.entityId = troop.id then a.id.filter (· ≠ 0)
    else none).insertionSort (· ≤ ·)

def lies (sprache : Sprache) (row : IncidentChange) : Objekt × Zeit :=
  match sprache.loads ((orNone row.afterJson).getD "\x7b\x7d") with
  | some (some after) =>
    match (after.lookup "erfasst_at").filter Wert.wahr with
    | none => (after, row.ts)
    | some (.text erfasstAt) =>
      match sprache.fromisoformat erfasstAt with
      | some zeit => (after, zeit)
      | none => ([], row.ts)
    | some _ => ([], row.ts)
  | _ => ([], row.ts)

def rowZyklus (cycles : List Einsatzzyklus) (redeploys : List Nat) (row : IncidentChange) (bezug : Bezug) (zeit : Zeit) : Nat :=
  match bezug with
  | .mitglied _ nr => nr
  | .trupp =>
    match row.id.filter (· ≠ 0) with
    | some id => if redeploys.length = cycles.length - 1 then 1 + redeploys.countP (· ≤ id) else cycleFor cycles zeit
    | none => cycleFor cycles zeit

def abstand (zeit : Zeit) (e : Ereignis) : Int := |e.zeit - zeit|

/-- A structured event that can be the one of a row: the same action, cycle and member. -/
def kandidat (row : IncidentChange) (nr : Nat) (e : Ereignis) : Bool :=
  e.action == some row.action && e.zyklus == nr && (e.entityId.isNone || e.entityId == some row.entityId)

/-- The event a row belongs to, by its place: of the candidates that are not
taken, the nearest within two seconds; for an end pressure the one that names it. -/
def treffer (sprache : Sprache) (events : List Ereignis) (matched : List Nat) (row : IncidentChange) (after : Objekt)
    (zeit : Zeit) (nr : Nat) : Option Nat :=
  let candidates := (events.zipIdx.filter fun (e, i) => i ∉ matched && kandidat row nr e).insertionSort
    fun a b => abstand zeit a.1 ≤ abstand zeit b.1
  let match_ :=
    if row.action = "troop.back_pressure_reported" then
      ((after.lookup "pressure_bar").bind Wert.zahl?).bind fun bar =>
        candidates.find? fun (e, _) => decide (s!"{sprache.g bar} bar".toList <:+: e.text.toList)
    else candidates.find? fun (e, _) => abstand zeit e < sekunden 2
  match_.map (·.2)

def nachtrag (after : Objekt) : Bool := (after.lookup "nachgetragen").any Wert.wahr

def ergaenzt (namen : Namen) (row : IncidentChange) (after : Objekt) (zeit : Zeit) (e : Ereignis) : Ereignis :=
  { e with
    akteur := (namen.benutzer (row.userId.getD 0)).getD e.akteur
    nachgetragen := e.nachgetragen || nachtrag after
    zeit := if row.action = "troop.back_pressure_reported" then zeit else e.zeit }

def zugestellt (after : Objekt) (zeit : Zeit) (z : BreathingZustellung) : Bool :=
  (z.gesendetAt.any fun gesendetAt => |gesendetAt - zeit| < sekunden 2) &&
    (match (after.lookup "kanal").filter Wert.wahr with
      | some kanal => kanal == .text z.kanal
      | none => true) &&
    (match (after.lookup "stufe").filter (· ≠ .null) with
      | some stufe => stufe.zahl? == some (z.stufe : ℚ)
      | none => true)

def gedeckt (troop : BreathingTroop) (warnungen : List BreathingWarnung) (row : IncidentChange) (after : Objekt) (zeit : Zeit) : Bool :=
  row.action == "troop.warnung_zugestellt" && warnungen.any fun w =>
    w.troopId == troop.id &&
      (match (after.lookup "kind").filter Wert.wahr with
        | some kind => kind == .text w.kind
        | none => true) &&
      w.zustellungen.any (zugestellt after zeit)

/-- The kind of an event that is a row's own, with its title, where the row has one. -/
def titel (action : String) : EreignisArt × String :=
  match action with
  | "troop.created" => (.audit, "Trupp angelegt")
  | "troop.redeployed" => (.audit, "Wiedereinsatz vorbereitet")
  | "troop.status_changed" => (.audit, "Status geändert")
  | "troop.details" => (.audit, "Truppdaten geändert")
  | "troop.started" => (.audit, "Eintritt")
  | "troop.readiness_overridden" => (.audit, "Readiness-Override")
  | "troop.objective_reached" => (.druck, "Einsatzziel")
  | "troop.back_pressure_reported" => (.druck, "Enddruck")
  | "troop.pressure_logged" => (.druck, "Druckmeldung")
  | "troop.kontrolle" => (.kontrolle, "Kontrolle")
  | "troop.warnung_zugestellt" => (.warnung, "Warnung zugestellt")
  | "troop.escalated" => (.warnung, "Eskalation")
  | action => (.audit, "Änderung (" ++ removePrefix "troop." action ++ ")")

/-- `feldnamen` -/
def feldname : String → String
  | "pressure_bar" => "Druck (bar)"
  | "withdraw_press" => "Rückzugsdruck (bar)"
  | "status" => "Status"
  | "stufe" => "Stufe"
  | "art" => "Art"
  | "reason" => "Grund"
  | "issues" => "Hinweise"
  | "angriffsweg" => "Angriffsweg"
  | "funkkanal" => "Funkkanal"
  | "ueberwacher_name" => "Überwacher"
  | "ueberwacher_user_id" => "Überwacher-ID"
  | "members" => "Personen"
  | "lfd_nr" => "Zyklus"
  | "kind" => "Warnung"
  | "kanal" => "Kanal"
  | "note" => "Notiz"
  | "name" => "Name"
  | "is_sicherheitstrupp" => "Sicherheitstrupp"
  | "unit_name" => "Einheit"
  | "planned_duration_min" => "Geplante Einsatzzeit (min)"
  | "bottle_preset" => "Flasche"
  | key => key

def quittiert (kind : String) : String :=
  match kind with
  | "one_third" => "1/3"
  | "two_third" => "2/3"
  | "max_time" => "Max-Zeit"
  | kind => warnungLabel kind

def details (sprache : Sprache) (namen : Namen) (bezug : Bezug) (after : Objekt) : List String :=
  (match bezug with
    | .mitglied m _ => [displayName namen m]
    | .trupp => []) ++
  (after.filter fun (key, _) => key ≠ "erfasst_at" ∧ key ≠ "nachgetragen").map fun (key, value) => s!"{feldname key}: {sprache.str value}"

def eigenerText (sprache : Sprache) (namen : Namen) (row : IncidentChange) (bezug : Bezug) (after : Objekt) : EreignisArt × String :=
  if row.action = "troop.funk_verloren" ∨ row.action = "troop.notfall" ∨ row.action = "troop.notfall_cleared" then
    (.warnung, (if row.action = "troop.funk_verloren" then "Funkverlust" else "Notfall") ++
      if after.lookup "active" = some (.wahrheit false) then " aufgehoben" else " gesetzt")
  else if row.action = "troop.meldung" ∨ row.action = "troop.standort" ∨ row.action = "troop.auftrag" then
    let was := if row.action = "troop.meldung" then "Lagemeldung" else if row.action = "troop.standort" then "Standort" else "Auftrag"
    let text := ["text", "location_text", "task_text"].findSome? fun key => (after.lookup key).filter Wert.wahr
    (.meldung, was ++ ": " ++ (text.map sprache.str).getD "–")
  else if startsWith "troop.warn_acked." row.action then
    (.warnung, "Warnung quittiert: " ++ quittiert (removePrefix "troop.warn_acked." row.action))
  else
    let details := details sprache namen bezug after
    ((titel row.action).1, (titel row.action).2 ++ if details = [] then "" else " - " ++ "; ".intercalate details)

def eigener (sprache : Sprache) (namen : Namen) (row : IncidentChange) (bezug : Bezug) (after : Objekt) (zeit : Zeit) (nr : Nat) :
    Ereignis :=
  let (art, text) := eigenerText sprache namen row bezug after
  ereignis namen zeit art text nr row.userId (nachtrag after) none none

structure Lauf where
  events : List Ereignis
  matched : List Nat := []

def verarbeite (sprache : Sprache) (namen : Namen) (troop : BreathingTroop) (warnungen : List BreathingWarnung) (redeploys : List Nat)
    (lauf : Lauf) (row : IncidentChange) : Lauf :=
  let cycles := getTroopCycles troop
  match bezug troop cycles row with
  | none => lauf
  | some bezug =>
    let (after, zeit) := lies sprache row
    let nr := rowZyklus cycles redeploys row bezug zeit
    match treffer sprache lauf.events lauf.matched row after zeit nr with
    | some i => { events := lauf.events.modify i (ergaenzt namen row after zeit), matched := i :: lauf.matched }
    | none =>
      if gedeckt troop warnungen row after zeit then lauf
      else { lauf with events := lauf.events ++ [eigener sprache namen row bezug after zeit nr] }

def neuesteZuerst (audits : List IncidentChange) : List IncidentChange :=
  audits.insertionSort fun a b => b.ts < a.ts ∨ (b.ts = a.ts ∧ b.id.getD 0 ≤ a.id.getD 0)

def ereignisse (sprache : Sprache) (namen : Namen) (troop : BreathingTroop) (audits : List IncidentChange)
    (warnungen : List BreathingWarnung) : List Ereignis :=
  ((neuesteZuerst audits).foldl (verarbeite sprache namen troop warnungen (redeploys troop audits))
    { events := strukturiert sprache namen troop warnungen }).events.insertionSort fun a b => a.zeit ≤ b.zeit

structure Eintrag where
  zeit : Zeit
  art : EreignisArt
  text : String
  akteur : String
  nachgetragen : Bool
  zyklus : Nat

def Ereignis.eintrag (e : Ereignis) : Eintrag where
  zeit := e.zeit
  art := e.art
  text := e.text
  akteur := e.akteur
  nachgetragen := e.nachgetragen
  zyklus := e.zyklus

abbrev Starts := List ((Nat × String) × Zeit)

def minutenSekunden (dauer : Int) : String := s!"{dauer / 60} min {dauer % 60} s"

/-- `int(td.total_seconds())` -/
def ganzeSekunden (spanne : Zeit) : Int := spanne.tdiv (sekunden 1)

def dauerSchritt (lauf : Eintrag × Starts) (label : String) : Eintrag × Starts :=
  let (e, starts) := lauf
  if e.text = s!"{label} gesetzt" then
    (e, if (starts.lookup (e.zyklus, label)).isSome then starts else starts ++ [((e.zyklus, label), e.zeit)])
  else if e.text = s!"{label} aufgehoben" then
    match starts.lookup (e.zyklus, label) with
    | some start => ({ e with text := e.text ++ s!" (Dauer {minutenSekunden (ganzeSekunden (e.zeit - start))})" },
        starts.filter (·.1 ≠ (e.zyklus, label)))
    | none => (e, starts)
  else (e, starts)

def beendete : List Eintrag → Starts → List Eintrag × Starts
  | [], starts => ([], starts)
  | e :: rest, starts =>
    let (e, starts) := ["Funkverlust", "Notfall"].foldl dauerSchritt (e, starts)
    let (rest, starts) := beendete rest starts
    (e :: rest, starts)

/-- A situation nobody has ended; `none` where the code would raise. -/
def laufende (now : Zeit) (cycles : List Einsatzzyklus) (events : List Eintrag) (begonnen : (Nat × String) × Zeit) :
    Option (List Eintrag) := do
  let ((nr, label), start) := begonnen
  let c ← cycles[nr - 1]?
  let ende := c.backAt.getD now
  if start ≤ ende then
    let dauer := ganzeSekunden (ende - start)
    let bis := if c.backAt.isSome then "bis Rückkehr" else "bisher"
    let i ← events.findIdx? fun e => e.zyklus == nr && e.zeit == start && e.text == s!"{label} gesetzt"
    return events.modify i fun e => { e with text := e.text ++ s!" (Dauer {bis} {minutenSekunden dauer})" }
  else return events

/-- `troop_protokoll_ereignisse` -/
def troopProtokollEreignisse (sprache : Sprache) (namen : Namen) (now : Zeit) (troop : BreathingTroop) (audits : List IncidentChange)
    (warnungen : List BreathingWarnung) : Option (List Eintrag) :=
  let (events, starts) := beendete ((ereignisse sprache namen troop audits warnungen).map Ereignis.eintrag) []
  starts.foldlM (laufende now (getTroopCycles troop)) events

end Einsatzcockpit.Protokoll
