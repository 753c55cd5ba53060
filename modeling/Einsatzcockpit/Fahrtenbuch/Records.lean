import Einsatzcockpit.Lib.Raise
import Einsatzcockpit.Lib.Run
import Einsatzcockpit.Lib.Table
import Einsatzcockpit.Basis
import Mathlib.Data.List.MinMax
import Mathlib.Algebra.Order.Ring.Rat

/-! The counters of the vehicles, `fahrtenbuch_service.py`. -/

namespace Einsatzcockpit.Fahrtenbuch

open Raising Relational

/-- The kinds of counters; `int` and `Decimal(str(...))` leave a value of the
columns as it is. -/
inductive Art where
  | km | bh | seilwindeBh
  deriving DecidableEq

def arten : List Art := [.km, .bh, .seilwindeBh]

inductive FahrtKategorie where
  | einsatz | uebung | taetigkeit | sonstige
  deriving DecidableEq

inductive FahrtStatus where
  | aktiv | storniert | ersetzt
  deriving DecidableEq

structure Zaehler (α : Type) where
  km : α
  bh : α
  seilwindeBh : α

def Zaehler.wert {α : Type} (zaehler : Zaehler α) : Art → α
  | .km => zaehler.km
  | .bh => zaehler.bh
  | .seilwindeBh => zaehler.seilwindeBh

def Zaehler.setze {α : Type} (zaehler : Zaehler α) (art : Art) (wert : α) : Zaehler α :=
  match art with
  | .km => { zaehler with km := wert }
  | .bh => { zaehler with bh := wert }
  | .seilwindeBh => { zaehler with seilwindeBh := wert }

@[simp] theorem Zaehler.wert_setze {α : Type} (zaehler : Zaehler α) (art art' : Art) (wert : α) :
    (zaehler.setze art wert).wert art' = if art' = art then wert else zaehler.wert art' := by
  cases art <;> cases art' <;> rfl

/-- A row of `vehicle_master`; `erfasst` holds `erfasst_km`,
`erfasst_betriebsstunden` and `seilwinde_abfrage`. -/
structure VehicleMaster where
  id : Nat
  deptId : Nat
  erfasst : Zaehler Bool
  aktuell : Zaehler ℚ := ⟨0, 0, 0⟩
  warnSchwelleKm : ℚ := 50
  warnSchwelleBh : ℚ := 10

/-- A row of `fahrt`. -/
structure Fahrt where
  id : Nat
  orgId : Nat
  zeitpunkt : Zeit
  fahrzeugId : Nat
  neu : Zaehler (Option ℚ)
  delta : Zaehler (Option ℚ)
  fahrttyp : FahrtKategorie
  incidentId : Option Nat := none
  status : FahrtStatus := .aktiv
  stornoGrund : Option String := none
  originalFahrtId : Option Nat := none
  ersetztDurchId : Option Nat := none
  geaendertVonUserId : Option Nat := none
  erfasstVonUserId : Option Nat := none

/-- What a trip is entered with. `zweck` is the category of the purpose the
query finds; `warnung` holds the confirmations of the counter warnings. -/
structure Daten where
  orgId : Nat
  fahrzeugId : Nat
  zeitpunkt : Option Zeit := none
  zweck : Option FahrtKategorie
  neu : Zaehler (Option ℚ)
  warnungBestaetigt : Zaehler Bool := ⟨false, false, false⟩
  doppelfahrtBestaetigt : Bool := false
  incidentId : Option Nat := none
  incidentNichtZuordenbar : Bool := false
  erfasstVonUserId : Option Nat := none
  istKorrektur : Bool := false
  referenz : Zaehler (Option ℚ) := ⟨none, none, none⟩

/-- The tables; `fahrten` counts the trips ever added, `doppelMinuten` are the
minutes of the settings of an organisation. -/
structure Db where
  fahrzeuge : List VehicleMaster := []
  fahrten : List Fahrt := []
  vergeben : Nat := 0
  doppelMinuten : List (Nat × Int) := []

def Db.fahrzeug? (db : Db) (id : Nat) : Option VehicleMaster := db.fahrzeuge.find? fun f => f.id == id

/-- The end counters of the active trips of a vehicle, as the query sees them. -/
def Db.werte (db : Db) (fahrzeugId : Nat) (art : Art) : List ℚ :=
  (db.fahrten.filter fun f => f.fahrzeugId == fahrzeugId && f.status == .aktiv).filterMap (·.neu.wert art)

/-- `recompute_zaehlerstand` -/
def recomputeZaehlerstand (db : Db) (art : Art) (fahrzeug : VehicleMaster) : VehicleMaster :=
  match (db.werte fahrzeug.id art).max? with
  | some wert => { fahrzeug with aktuell := fahrzeug.aktuell.setze art wert }
  | none => fahrzeug

/-- The recomputations of the counters of some vehicles; the queries see the
rows of `gelesen`. -/
def recomputeAlle (gelesen : Db) (ids : List Nat) (welche : VehicleMaster → Art → Bool) (db : Db) : Db :=
  { db with
    fahrzeuge := update (fun f => ids.contains f.id)
      (fun f => (arten.filter (welche f)).foldl (fun f art => recomputeZaehlerstand gelesen art f) f) db.fahrzeuge }

structure ZaehlerErgebnis where
  aktuell : ℚ
  neu : ℚ
  delta : ℚ
  warnung : Bool

/-- `schwelle` of `pruefe_zaehler` -/
def schwelle (fahrzeug : VehicleMaster) : Art → ℚ
  | .km => if fahrzeug.warnSchwelleKm = 0 then 50 else fahrzeug.warnSchwelleKm
  | .bh => if fahrzeug.warnSchwelleBh = 0 then 10 else fahrzeug.warnSchwelleBh
  | .seilwindeBh => 10

/-- `pruefe_zaehler` -/
def pruefeZaehler (fahrzeug : VehicleMaster) (art : Art) (neu : ℚ) (referenz : Option ℚ) :
    Except String ZaehlerErgebnis := do
  let aktuell := referenz.getD (fahrzeug.aktuell.wert art)
  require (aktuell ≤ neu) "Zählerstand kann nicht sinken"
  return { aktuell, neu, delta := neu - aktuell, warnung := decide (schwelle fahrzeug art < neu - aktuell) }

/-- `pruefe_doppelfahrt` -/
def pruefeDoppelfahrt (db : Db) (fahrzeug : VehicleMaster) (jetzt : Zeit) : Bool :=
  let minuten' := (((db.doppelMinuten.find? (·.1 == fahrzeug.deptId)).map (·.2)).filter (· ≠ 0)).getD 10
  db.fahrten.any fun f => f.orgId == fahrzeug.deptId && f.fahrzeugId == fahrzeug.id && f.status == .aktiv &&
    decide (jetzt - minuten minuten' ≤ f.zeitpunkt)

def warnungFehlt : Art → String
  | .km => "km_warnung_nicht_bestaetigt"
  | .bh => "bh_warnung_nicht_bestaetigt"
  | .seilwindeBh => "seilwinde_warnung_nicht_bestaetigt"

def zaehlerDelta (fahrzeug : VehicleMaster) (daten : Daten) (art : Art) : Except String (Option ℚ) := do
  match fahrzeug.erfasst.wert art, daten.neu.wert art with
  | true, some neu =>
    let ergebnis ← pruefeZaehler fahrzeug art neu (daten.referenz.wert art)
    require (ergebnis.warnung = false ∨ daten.warnungBestaetigt.wert art = true) (warnungFehlt art)
    return some ergebnis.delta
  | true, none =>
    require (art ≠ .km) "km_pflicht"
    return none
  | false, _ => return none

def zaehlerNach (fahrzeug : VehicleMaster) (daten : Daten) (art : Art) : ℚ :=
  match fahrzeug.erfasst.wert art, daten.neu.wert art with
  | true, some neu => if daten.istKorrektur then fahrzeug.aktuell.wert art else neu
  | _, _ => fahrzeug.aktuell.wert art

/-- `erstelle_fahrt` -/
def erstelleFahrt (jetzt : Zeit) (db : Db) (daten : Daten) : Except String (Fahrt × Db) := do
  let fahrzeug ← demand (db.fahrzeug? daten.fahrzeugId) "Fahrzeug nicht gefunden"
  let zweck ← demand daten.zweck "Fahrtzweck nicht gefunden"
  require (pruefeDoppelfahrt db fahrzeug jetzt = false ∨ daten.doppelfahrtBestaetigt) "doppelfahrt_nicht_bestaetigt"
  require (zweck ≠ .einsatz ∨ daten.incidentId.any (· ≠ 0) ∨ daten.incidentNichtZuordenbar) "einsatz_pflicht"
  let km ← zaehlerDelta fahrzeug daten .km
  let bh ← zaehlerDelta fahrzeug daten .bh
  let seilwindeBh ← zaehlerDelta fahrzeug daten .seilwindeBh
  let fahrt : Fahrt := {
    id := db.vergeben + 1
    orgId := daten.orgId
    zeitpunkt := daten.zeitpunkt.getD jetzt
    fahrzeugId := daten.fahrzeugId
    neu := daten.neu
    delta := { km, bh, seilwindeBh }
    fahrttyp := zweck
    incidentId := daten.incidentId
    erfasstVonUserId := daten.erfasstVonUserId }
  let aktuell : Zaehler ℚ :=
    ⟨zaehlerNach fahrzeug daten .km, zaehlerNach fahrzeug daten .bh, zaehlerNach fahrzeug daten .seilwindeBh⟩
  return (fahrt, { db with
    fahrten := db.fahrten ++ [fahrt]
    vergeben := db.vergeben + 1
    fahrzeuge := update (fun f => f.id == fahrzeug.id) (fun f => { f with aktuell }) db.fahrzeuge })

def Db.setFahrt (db : Db) (id : Nat) (werte : Fahrt → Fahrt) : Db :=
  { db with fahrten := update (fun f => f.id == id) werte db.fahrten }

/-- `storniere_fahrt`, and its commit: the queries run before the new status is
flushed. -/
def storniereFahrt (db : Db) (fahrtId : Nat) (grund : String) (userId : Nat) : Except String Db := do
  let fahrt ← demand (db.fahrten.find? fun f => f.id == fahrtId) "Fahrt nicht gefunden"
  return (recomputeAlle db [fahrt.fahrzeugId] (fun _ _ => true) db).setFahrt fahrt.id fun f =>
    { f with status := .storniert, stornoGrund := some grund, geaendertVonUserId := some userId }

/-- `referenz_zaehlerstand` -/
def referenzZaehlerstand (db : Db) (fahrzeugId : Nat) (art : Art) (vorZeitpunkt : Zeit) (ausserFahrtId : Nat) : ℚ :=
  let davor := db.fahrten.filter fun f => f.fahrzeugId == fahrzeugId && f.status == .aktiv &&
    decide (f.zeitpunkt < vorZeitpunkt) && (f.neu.wert art).isSome && f.id != ausserFahrtId
  ((@List.argmax _ _ Int.instLinearOrder.toPreorder _ (·.zeitpunkt) davor).bind (·.neu.wert art)).getD 0

/-- `korrigiere_fahrt`, and its commit: the queries see the new trip, which has
been flushed, and the original still with its old status. -/
def korrigiereFahrt (jetzt : Zeit) (db : Db) (fahrtId : Nat) (daten : Daten) (userId : Nat) : Except String Db := do
  let original ← demand (db.fahrten.find? fun f => f.id == fahrtId) "Fahrt nicht gefunden"
  let referenz (art : Art) : Option ℚ := (db.fahrzeug? daten.fahrzeugId).bind fun fahrzeug =>
    if fahrzeug.erfasst.wert art then
      some (referenzZaehlerstand db fahrzeug.id art original.zeitpunkt original.id)
    else daten.referenz.wert art
  let daten := { daten with
    orgId := original.orgId
    erfasstVonUserId := some userId
    istKorrektur := true
    referenz := ⟨referenz .km, referenz .bh, referenz .seilwindeBh⟩ }
  let (neue, geflusht) ← erstelleFahrt jetzt db daten
  let db := recomputeAlle geflusht [original.fahrzeugId, neue.fahrzeugId] (·.erfasst.wert ·) geflusht
  return (db.setFahrt neue.id fun f => { f with originalFahrtId := some original.id }).setFahrt original.id fun f =>
    { f with status := .ersetzt, ersetztDurchId := some neue.id, geaendertVonUserId := some userId }

/-- `loesche_fahrten` -/
def loescheFahrten (db : Db) (ids : List Nat) (orgId : Nat) : Db :=
  let trifft := fun f : Fahrt => ids.contains f.id && f.orgId == orgId
  let fahrzeugIds := (db.fahrten.filter trifft).map (·.fahrzeugId)
  let geflusht := { db with fahrten := db.fahrten.filter fun f => !trifft f }
  recomputeAlle geflusht fahrzeugIds (fun _ _ => true) geflusht

inductive Aktion where
  | erstelle (daten : Daten)
  | storniere (fahrtId : Nat) (grund : String) (userId : Nat)
  | korrigiere (fahrtId : Nat) (daten : Daten) (userId : Nat)
  | loesche (ids : List Nat) (orgId : Nat)

def ausfuehren (jetzt : Zeit) (db : Db) : Aktion → Except String Db
  | .erstelle daten => (·.2) <$> erstelleFahrt jetzt db daten
  | .storniere fahrtId grund userId => storniereFahrt db fahrtId grund userId
  | .korrigiere fahrtId daten userId => korrigiereFahrt jetzt db fahrtId daten userId
  | .loesche ids orgId => .ok (loescheFahrten db ids orgId)

def step (db : Db) (anfrage : Zeit × Aktion) : Db :=
  match ausfuehren anfrage.1 db anfrage.2 with
  | .ok db => db
  | .error _ => db

end Einsatzcockpit.Fahrtenbuch
