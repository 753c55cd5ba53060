import Mathlib.Data.List.Sort
import Einsatzcockpit.Zugang.Records

namespace Einsatzcockpit.Zugang

open Raising Relational

/-- What an UPDATE leaves in a column: only columns that differ from the loaded value
are written. -/
def geschrieben {α : Type} [DecidableEq α] (geladen neu aktuell : α) : α := if neu = geladen then aktuell else neu

/-- The UPDATE of a row that was loaded as `geladen` and then changed to `neu`. -/
def LageEinheitZugang.schreibe (geladen neu aktuell : LageEinheitZugang) : LageEinheitZugang where
  id := aktuell.id
  orgId := aktuell.orgId
  lageId := aktuell.lageId
  einheitId := aktuell.einheitId
  typ := aktuell.typ
  leaderId := geschrieben geladen.leaderId neu.leaderId aktuell.leaderId
  phoneE164 := geschrieben geladen.phoneE164 neu.phoneE164 aktuell.phoneE164
  phoneVersion := geschrieben geladen.phoneVersion neu.phoneVersion aktuell.phoneVersion
  tokenHash := geschrieben geladen.tokenHash neu.tokenHash aktuell.tokenHash
  vorherigerTokenHash := geschrieben geladen.vorherigerTokenHash neu.vorherigerTokenHash aktuell.vorherigerTokenHash
  generation := geschrieben geladen.generation neu.generation aktuell.generation
  status := geschrieben geladen.status neu.status aktuell.status
  widerrufGrund := geschrieben geladen.widerrufGrund neu.widerrufGrund aktuell.widerrufGrund
  widerrufenAt := geschrieben geladen.widerrufenAt neu.widerrufenAt aktuell.widerrufenAt
  widerrufenVon := geschrieben geladen.widerrufenVon neu.widerrufenVon aktuell.widerrufenVon
  ausgestelltAt := geschrieben geladen.ausgestelltAt neu.ausgestelltAt aktuell.ausgestelltAt
  ausgestelltVon := geschrieben geladen.ausgestelltVon neu.ausgestelltVon aktuell.ausgestelltVon
  laeuftAbAt := geschrieben geladen.laeuftAbAt neu.laeuftAbAt aktuell.laeuftAbAt
  letzteAktivitaetAt := geschrieben geladen.letzteAktivitaetAt neu.letzteAktivitaetAt aktuell.letzteAktivitaetAt
  pinPflicht := geschrieben geladen.pinPflicht neu.pinPflicht aktuell.pinPflicht
  pinHash := geschrieben geladen.pinHash neu.pinHash aktuell.pinHash
  pinGueltigBis := geschrieben geladen.pinGueltigBis neu.pinGueltigBis aktuell.pinGueltigBis
  pinVersuche := geschrieben geladen.pinVersuche neu.pinVersuche aktuell.pinVersuche
  pinGesperrtBis := geschrieben geladen.pinGesperrtBis neu.pinGesperrtBis aktuell.pinGesperrtBis
  qrPinPflicht := geschrieben geladen.qrPinPflicht neu.qrPinPflicht aktuell.qrPinPflicht
  createdAt := aktuell.createdAt
  updatedAt := geschrieben geladen.updatedAt neu.updatedAt aktuell.updatedAt
  drehung := geschrieben geladen.drehung neu.drehung aktuell.drehung

/-- A token that was given out, for the record, with the `drehung` of its access. -/
structure Ausgabe where
  token : String
  zugangId : Nat
  drehung : Nat

/-- A transaction: the database with what it has written, what it saw at its first
read, and the rows it has loaded, as it holds them. A row that is loaded again, also
FOR UPDATE, keeps the values it has in `karte`. -/
structure Vorgang where
  db : Db
  ansicht : Db
  karte : List LageEinheitZugang := []
  ausgaben : List Ausgabe

namespace Vorgang

variable (v : Vorgang)

/-- A row of the session, when the database holds it as `aktuell`. -/
def kopie (aktuell : LageEinheitZugang) : LageEinheitZugang := (v.karte.find? (·.id = aktuell.id)).getD aktuell

def lade (zugangId : Nat) : Vorgang :=
  match v.ansicht.zugaenge.get? zugangId with
  | none => v
  | some zugang => if v.karte.any (·.id = zugangId) then v else { v with karte := zugang :: v.karte }

/-- `filter(einheit_id, typ).with_for_update().first()` -/
def sperre (einheitId : Nat) (typ : Typ) : Option LageEinheitZugang :=
  v.db.zugaenge.rows.find? fun z => z.einheitId = einheitId ∧ z.typ = typ

def speichere (geladen neu : LageEinheitZugang) : Vorgang :=
  { v with
    db := { v.db with zugaenge := v.db.zugaenge.modify geladen.id (LageEinheitZugang.schreibe geladen neu) fun _ => rfl }
    karte := neu :: v.karte.filter fun z => z.id ≠ geladen.id }

/-- `_revoke_sessions`, over the sessions that the transaction sees. -/
def revokeSessions (zugangId : Nat) (grund : String) (now : Zeit) : Vorgang :=
  let offen := (v.ansicht.sitzungen.rows.filter fun s => s.zugangId = zugangId ∧ s.revokedAt = none).map (·.id)
  { v with db := { v.db with
      sitzungen := v.db.sitzungen.map (·.revokeIn offen grund now) (LageEinheitZugangSession.revokeIn_id offen grund now) } }

/-- A new row, `status="kein_token"`. -/
def legeAn (orgId lageId einheitId : Nat) (typ : Typ) (phoneVersion : Nat) (now : Zeit) : Vorgang × LageEinheitZugang :=
  let neu := fun id : Nat =>
    { id, orgId := some orgId, lageId, einheitId, typ, phoneVersion, createdAt := now, updatedAt := now : LageEinheitZugang }
  ({ v with
      db := { v.db with zugaenge := v.db.zugaenge.insert neu fun _ => rfl }
      karte := neu (v.db.zugaenge.last + 1) :: v.karte }, neu (v.db.zugaenge.last + 1))

end Vorgang

/-- What the caller of `stelle_zugang_aus` and `stelle_qr_zugang_aus` hands over, with
the leader of the unit. -/
structure Aussteller where
  cfg : OrgEinstellungen
  lage : MajorIncident
  einheit : LageEinheit
  leader : Option LageEinheitLeader := none
  userId : Option Nat := none
  now : Zeit

section Ausstellen

variable (schluessel : Schluessel)

/-- `timedelta(hours=max(1, min(168, stunden)))` -/
def gueltigkeit (h : Int) : Zeit := stunden (max 1 (min 168 h))

def LageEinheitZugang.mitToken (a : Aussteller) (h : Int) (pin : Bool) (zugang : LageEinheitZugang) : LageEinheitZugang :=
  { zugang with
    vorherigerTokenHash := (orNone zugang.tokenHash).or zugang.vorherigerTokenHash
    generation := zugang.generation + 1
    tokenHash := some (schluessel.ableitung zugang.typ zugang.id (zugang.generation + 1))
    status := .aktiv
    laeuftAbAt := some (a.now + gueltigkeit h)
    pinPflicht := pin
    pinHash := none
    pinGueltigBis := none
    pinVersuche := 0
    pinGesperrtBis := none
    widerrufGrund := none
    widerrufenAt := none
    widerrufenVon := none
    ausgestelltAt := some a.now
    ausgestelltVon := a.userId
    updatedAt := a.now }

def LageEinheitZugang.mitPersonal (a : Aussteller) (leader : LageEinheitLeader) (zugang : LageEinheitZugang) : LageEinheitZugang :=
  { zugang.mitToken schluessel a a.cfg.gkZugangGueltigkeitStunden a.cfg.gkZugangSmsPin with
    leaderId := some leader.id, phoneE164 := leader.phoneE164, phoneVersion := leader.phoneVersion }

def LageEinheitZugang.mitQr (a : Aussteller) (zugang : LageEinheitZugang) : LageEinheitZugang :=
  { zugang.mitToken schluessel a a.cfg.gkQrGueltigkeitStunden a.cfg.gkQrPin with
    qrPinPflicht := a.cfg.gkQrPin
    pinHash := if a.cfg.gkQrPin then some (schluessel.hashApiKey (schluessel.qrPinAbleiten zugang.id (zugang.generation + 1)))
      else none }

def Vorgang.rotiere (v : Vorgang) (now : Zeit) (aktuell geladen neu : LageEinheitZugang) : Vorgang :=
  let neu := { neu with drehung := aktuell.drehung + 1 }
  let v := (v.speichere geladen neu).revokeSessions aktuell.id "rotation" now
  { v with ausgaben := { token := schluessel.tokenNeuBerechnen neu, zugangId := aktuell.id, drehung := neu.drehung } :: v.ausgaben }

/-- `stelle_zugang_aus` -/
def stelleZugangAus (v : Vorgang) (a : Aussteller) : Except String Vorgang := do
  require a.cfg.gkZugangAktiv "Gruppenkommandanten-Zugang ist für diese Organisation deaktiviert"
  let leader ← demand (a.leader.filter fun l => l.endAt = none ∧ orNone l.phoneE164 ≠ none)
    "Aktueller Gruppenkommandant benötigt eine gültige Telefonnummer"
  require a.lage.active "Zugang kann nur für eine aktive Lage ausgestellt werden"
  require (a.einheit.status ≠ .abgerueckt) "Für abgerückte Einheiten kann kein Zugang ausgestellt werden"
  let (v, aktuell) := match v.sperre a.einheit.id .personal with
    | some aktuell => (v, aktuell)
    | none => v.legeAn a.lage.orgId a.lage.id a.einheit.id .personal leader.phoneVersion a.now
  let zugang := v.kopie aktuell
  return v.rotiere schluessel a.now aktuell zugang (zugang.mitPersonal schluessel a leader)

/-- `stelle_qr_zugang_aus` -/
def stelleQrZugangAus (v : Vorgang) (a : Aussteller) (neu : Bool) : Except String Vorgang := do
  require a.cfg.gkQrAktiv "QR-Zugang ist für diese Organisation deaktiviert"
  require a.lage.active "Zugang kann nur für eine aktive Lage ausgestellt werden"
  require (a.einheit.status ≠ .abgerueckt) "Für abgerückte Einheiten kann kein Zugang ausgestellt werden"
  match v.sperre a.einheit.id .qr with
  | some aktuell =>
    let zugang := v.kopie aktuell
    if ¬ neu ∧ zugang.status = .aktiv ∧ orNone zugang.tokenHash ≠ none ∧ zugang.laeuftAbAt.any (a.now < ·) then
      -- the token that is valid is given out again
      return { v with ausgaben :=
        { token := schluessel.tokenNeuBerechnen zugang, zugangId := aktuell.id, drehung := zugang.drehung } :: v.ausgaben }
    else return v.rotiere schluessel a.now aktuell zugang (zugang.mitQr schluessel a)
  | none =>
    let (v, zugang) := v.legeAn a.lage.orgId a.lage.id a.einheit.id .qr 1 a.now
    return v.rotiere schluessel a.now zugang zugang (zugang.mitQr schluessel a)

end Ausstellen

def LageEinheitZugang.mitWiderruf (grund : String) (userId : Option Nat) (now : Zeit) (zugang : LageEinheitZugang) :
    LageEinheitZugang :=
  { zugang with
    vorherigerTokenHash := (orNone zugang.tokenHash).or zugang.vorherigerTokenHash
    tokenHash := none
    status := .widerrufen
    widerrufGrund := some grund
    widerrufenAt := some now
    widerrufenVon := userId
    generation := zugang.generation + 1
    updatedAt := now }

/-- `_widerrufe_einen` -/
def widerrufeEinen (grund : String) (userId : Option Nat) (now : Zeit) (v : Vorgang) (aktuell : LageEinheitZugang) : Vorgang :=
  let zugang := v.kopie aktuell
  let neu := { zugang.mitWiderruf grund userId now with drehung := aktuell.drehung + 1 }
  (v.speichere zugang neu).revokeSessions aktuell.id grund now

/-- The rows that `widerrufe` locks. -/
def Vorgang.zuWiderrufen (v : Vorgang) (einheitId : Nat) (typ : Option Typ) : List LageEinheitZugang :=
  v.db.zugaenge.rows.filter fun z => z.einheitId = einheitId ∧ typ.all (z.typ = ·)

/-- `widerrufe` -/
def widerrufe (v : Vorgang) (einheitId : Nat) (grund : String) (userId : Option Nat) (typ : Option Typ) (now : Zeit) : Vorgang :=
  (v.zuWiderrufen einheitId typ).foldl (widerrufeEinen grund userId now) v

/-- `verlaengere` -/
def verlaengere (v : Vorgang) (einheitId : Nat) (cfg : OrgEinstellungen) (now : Zeit) : Except String Vorgang := do
  let aktuell ← demand (v.sperre einheitId .personal) "Kein Zugang vorhanden"
  let zugang := v.kopie aktuell
  require zugang.orgId.isSome "Zugang ohne Organisation"
  let neu := { zugang with laeuftAbAt := some (now + stunden cfg.gkZugangGueltigkeitStunden) }
  return v.speichere zugang neu

/-- The arguments of `sitzung_anlegen`, with the hash of the random cookie. -/
structure Einloesung where
  zugangId : Nat
  cfg : OrgEinstellungen
  sessionHash : String
  clientKurz : String := ""
  ipGruppe : Option String := none
  verifiziert : Bool
  now : Zeit

def neueSitzung (e : Einloesung) (zugang : LageEinheitZugang) (id : Nat) : LageEinheitZugangSession where
  id := id
  orgId := zugang.orgId
  zugangId := zugang.id
  generation := zugang.generation
  typ := zugang.typ
  sessionHash := e.sessionHash
  createdAt := e.now
  lastSeenAt := some e.now
  laeuftAbAt := min (zugang.laeuftAbAt.getD e.now) (e.now + stunden e.cfg.gkSitzungStunden)
  clientKurz := e.clientKurz
  ipGruppe := e.ipGruppe
  verifiziertAt := if e.verifiziert then some e.now else none
  drehung := zugang.drehung
  bindung := zugang.bindung

/-- `sitzung_anlegen`, for an access that the transaction has loaded. -/
def sitzungAnlegen (v : Vorgang) (e : Einloesung) : Except String Vorgang := do
  let zugang ← demand (v.karte.find? (·.id = e.zugangId)) "Zugang nicht geladen"
  require zugang.orgId.isSome "Zugang ohne Organisation"
  let active := (v.ansicht.sitzungen.rows.filter fun s => s.zugangId = zugang.id ∧ s.revokedAt = none ∧ e.now < s.laeuftAbAt)
    |>.insertionSort (·.createdAt ≤ ·.createdAt)
  -- one slot is reserved for the new session
  let alte := (active.take (active.length + 1 - e.cfg.gkZugangMaxSitzungen)).map (·.id)
  -- the hash is unique
  require (v.db.sitzungen.rows.all fun s => s.sessionHash ≠ e.sessionHash) "IntegrityError"
  let begrenzt := v.db.sitzungen.map (·.revokeIn alte "sitzungslimit" e.now)
    (LageEinheitZugangSession.revokeIn_id alte "sitzungslimit" e.now)
  return { v with db := { v.db with sitzungen := begrenzt.insert (neueSitzung e zugang) fun _ => rfl } }

end Einsatzcockpit.Zugang
