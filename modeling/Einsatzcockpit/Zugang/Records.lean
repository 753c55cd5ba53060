import Einsatzcockpit.Lib.Keyed
import Einsatzcockpit.Lib.Raise
import Einsatzcockpit.Gsl.Records

/-! The access of group commanders to their unit, `gk_zugang_service.py`. -/

namespace Einsatzcockpit.Zugang

open Relational

inductive Typ where
  | personal | qr
  deriving DecidableEq

inductive ZugangStatus where
  | keinToken | aktiv | widerrufen
  deriving DecidableEq

/-- A row of `lage_einheit_zugang`. Only for the record: `drehung`, how many times the
row was rotated or revoked. -/
structure LageEinheitZugang where
  id : Nat
  orgId : Option Nat
  lageId : Nat
  einheitId : Nat
  typ : Typ
  leaderId : Option Nat := none
  phoneE164 : Option String := none
  phoneVersion : Nat := 1
  tokenHash : Option String := none
  vorherigerTokenHash : Option String := none
  generation : Nat := 0
  status : ZugangStatus := .keinToken
  widerrufGrund : Option String := none
  widerrufenAt : Option Zeit := none
  widerrufenVon : Option Nat := none
  ausgestelltAt : Option Zeit := none
  ausgestelltVon : Option Nat := none
  laeuftAbAt : Option Zeit := none
  letzteAktivitaetAt : Option Zeit := none
  pinPflicht : Bool := false
  pinHash : Option String := none
  pinGueltigBis : Option Zeit := none
  pinVersuche : Nat := 0
  pinGesperrtBis : Option Zeit := none
  qrPinPflicht : Bool := false
  createdAt : Zeit
  updatedAt : Zeit
  drehung : Nat := 0

structure Bindung where
  leaderId : Option Nat
  phoneE164 : Option String
  phoneVersion : Nat

def LageEinheitZugang.bindung (zugang : LageEinheitZugang) : Bindung :=
  { leaderId := zugang.leaderId, phoneE164 := zugang.phoneE164, phoneVersion := zugang.phoneVersion }

/-- A row of `lage_einheit_zugang_session`. Only for the record: the `drehung` and the
`bindung` of the access as it was read for this session. -/
structure LageEinheitZugangSession where
  id : Nat
  orgId : Option Nat
  zugangId : Nat
  generation : Nat
  typ : Typ
  sessionHash : String
  createdAt : Zeit
  lastSeenAt : Option Zeit
  laeuftAbAt : Zeit
  revokedAt : Option Zeit := none
  revokeGrund : Option String := none
  clientKurz : String := ""
  ipGruppe : Option String := none
  verifiziertAt : Option Zeit := none
  drehung : Nat
  bindung : Bindung

structure LageEinheitLeader where
  id : Nat
  endAt : Option Zeit := none
  phoneE164 : Option String := none
  phoneVersion : Nat := 1

structure LageEinheit where
  id : Nat
  status : Gsl.RessourceStatus := .bereitgestellt
  leaderAssignmentId : Option Nat := none

/-- `active` says that the status of the incident is `active`. -/
structure MajorIncident where
  id : Nat
  orgId : Nat
  active : Bool := true

structure OrgEinstellungen where
  gkZugangAktiv : Bool := false
  gkZugangGueltigkeitStunden : Int := 48
  gkSitzungStunden : Int := 12
  gkZugangMaxSitzungen : Nat := 2
  gkZugangSmsPin : Bool := false
  gkQrAktiv : Bool := false
  gkQrGueltigkeitStunden : Int := 72
  gkQrPin : Bool := false

structure Umgebung where
  einheit : Nat → Option LageEinheit
  lage : Nat → Option MajorIncident
  leader : Nat → Option LageEinheitLeader
  orgEinstellungen : Nat → OrgEinstellungen

structure Db where
  umgebung : Umgebung
  zugaenge : Keyed LageEinheitZugang.id := .empty
  sitzungen : Keyed LageEinheitZugangSession.id := .empty

/-- The functions with the secret key, and the hash of a token. -/
structure Schluessel where
  tokenAbleiten : Typ → Nat → Nat → String
  qrPinAbleiten : Nat → Nat → String
  hashApiKey : String → String

namespace Schluessel

/-- `token_neu_berechnen` -/
def tokenNeuBerechnen (schluessel : Schluessel) (zugang : LageEinheitZugang) : String :=
  schluessel.tokenAbleiten zugang.typ zugang.id zugang.generation

def ableitung (schluessel : Schluessel) (typ : Typ) (zugangId generation : Nat) : String :=
  schluessel.hashApiKey (schluessel.tokenAbleiten typ zugangId generation)

def Kollisionsfrei (schluessel : Schluessel) : Prop :=
  ∀ typ typ' id id' generation generation',
    schluessel.ableitung typ id generation = schluessel.ableitung typ' id' generation' → id = id' ∧ generation = generation'

end Schluessel

section Pruefen

variable (schluessel : Schluessel) (db : Db)

inductive TokenZustand where
  | unbekannt | beendet | abgelaufen | ok

def tokenPrefix : Typ → String
  | .personal => "gkz_"
  | .qr => "gkq_"

/-- `token_pruefen` -/
def tokenPruefen (now : Zeit) (token : String) (typ : Typ) : TokenZustand × Option LageEinheitZugang :=
  if (tokenPrefix .qr).toList.isPrefixOf token.toList ∧ typ ≠ .qr then (.unbekannt, none)
  else
    match db.zugaenge.rows.find? fun z => z.tokenHash = some (schluessel.hashApiKey token) ∧ z.typ = typ with
    | none =>
      match db.zugaenge.rows.find? fun z => z.vorherigerTokenHash = some (schluessel.hashApiKey token) ∧ z.typ = typ with
      | some ersetzt => (.beendet, some ersetzt)
      | none => (.unbekannt, none)
    | some zugang =>
      let praefix := tokenPrefix typ
      if praefix.toList.isPrefixOf token.toList ∧ token.length = praefix.length + 43 ∧
          token ≠ schluessel.tokenNeuBerechnen zugang then (.unbekannt, none)
      else if zugang.status ≠ .aktiv ∨ orNone zugang.tokenHash = none then (.beendet, some zugang)
      else if zugang.laeuftAbAt.all (· ≤ now) then (.abgelaufen, some zugang)
      else (.ok, some zugang)

inductive ZugangFehlergrund where
  | widerrufen | abgelaufen | ungueltig

structure ZugangPrincipal where
  zugang : LageEinheitZugang
  session : LageEinheitZugangSession
  einheit : LageEinheit
  lage : MajorIncident
  leader : Option LageEinheitLeader
  orgId : Nat
  typ : Typ

def leaderPasst (zugang : LageEinheitZugang) (einheit : LageEinheit) (leader : Option LageEinheitLeader) : Bool :=
  einheit.leaderAssignmentId = zugang.leaderId ∧ leader.any fun l =>
    l.endAt = none ∧ l.phoneE164 = zugang.phoneE164 ∧ l.phoneVersion = zugang.phoneVersion

/-- `invalid_binding` -/
def invalidBinding (zugang : LageEinheitZugang) (session : LageEinheitZugangSession) (einheit : LageEinheit)
    (lage : MajorIncident) (leader : Option LageEinheitLeader) (orgId : Nat) (typ : Typ) : Bool :=
  session.typ ≠ typ ∨ zugang.typ ≠ typ ∨ session.generation ≠ zugang.generation ∨ zugang.status ≠ .aktiv ∨
    orNone zugang.tokenHash = none ∨ (typ = .personal ∧ leaderPasst zugang einheit leader = false) ∨
    (typ = .personal ∧ (db.umgebung.orgEinstellungen orgId).gkZugangAktiv = false) ∨
    (typ = .qr ∧ (db.umgebung.orgEinstellungen orgId).gkQrAktiv = false) ∨ lage.orgId ≠ orgId

def Db.setzeSitzung (sessionId : Nat) (f : LageEinheitZugangSession → LageEinheitZugangSession)
    (keeps : ∀ session, (f session).id = session.id) : Db :=
  { db with sitzungen := db.sitzungen.modify sessionId f keeps }

/-- `session.revoked_at, session.revoke_grund = now, grund` -/
def LageEinheitZugangSession.revoke (grund : String) (now : Zeit) (session : LageEinheitZugangSession) : LageEinheitZugangSession :=
  { session with revokedAt := some now, revokeGrund := some grund }

def LageEinheitZugangSession.revokeIn (ids : List Nat) (grund : String) (now : Zeit) (session : LageEinheitZugangSession) :
    LageEinheitZugangSession :=
  if session.id ∈ ids then session.revoke grund now else session

theorem LageEinheitZugangSession.revokeIn_id (ids : List Nat) (grund : String) (now : Zeit) (session : LageEinheitZugangSession) :
    (session.revokeIn ids grund now).id = session.id := by
  unfold revokeIn
  split <;> rfl

/-- The last part of `sitzung_pruefen_mit_grund`: the access is the one of the session. -/
def gebundenPruefen (now : Zeit) (typ : Typ) (zugang : LageEinheitZugang) (session : LageEinheitZugangSession)
    (einheit : LageEinheit) (lage : MajorIncident) (leader : Option LageEinheitLeader) (orgId : Nat) :
    Except ZugangFehlergrund ZugangPrincipal × Db :=
  if invalidBinding db zugang session einheit lage leader orgId typ then
    (.error .widerrufen, db.setzeSitzung session.id (·.revoke "ungueltig" now) fun _ => rfl)
  else if ¬ lage.active then (.error .widerrufen, db)
  else if zugang.laeuftAbAt.all (· ≤ now) ∨ (einheit.status ≠ .bereitgestellt ∧ einheit.status ≠ .imEinsatz) then
    (.error .abgelaufen, db)
  else if zugang.pinPflicht ∧ session.verifiziertAt = none then (.error .ungueltig, db)
  else
    let aktiv : Db :=
      if zugang.letzteAktivitaetAt.all (· ≤ now - minuten 1) then
        { (db.setzeSitzung session.id (fun s => { s with lastSeenAt := some now }) fun _ => rfl) with
          zugaenge := db.zugaenge.modify zugang.id (fun z => { z with letzteAktivitaetAt := some now }) fun _ => rfl }
      else db
    (.ok { zugang, session, einheit, lage, leader, orgId, typ }, aktiv)

/-- `sitzung_pruefen_mit_grund` -/
def sitzungPruefenMitGrund (now : Zeit) (cookieWert : String) (typ : Typ) : Except ZugangFehlergrund ZugangPrincipal × Db :=
  match db.sitzungen.rows.find? fun s => s.sessionHash = schluessel.hashApiKey cookieWert ∧ s.typ = typ with
  | none => (.error .ungueltig, db)
  | some session =>
    let ungueltig := db.setzeSitzung session.id (·.revoke "ungueltig" now) fun _ => rfl
    if session.revokedAt.isSome then (.error .widerrufen, db)
    else if session.laeuftAbAt ≤ now then (.error .abgelaufen, db)
    else
      match db.zugaenge.get? session.zugangId with
      | none => (.error .ungueltig, db)
      | some zugang =>
        match zugang.orgId with
        | none => (.error .widerrufen, ungueltig)
        | some orgId =>
          if session.orgId ≠ some orgId then (.error .widerrufen, ungueltig)
          else
            let leader := zugang.leaderId.bind db.umgebung.leader
            match db.umgebung.einheit zugang.einheitId, db.umgebung.lage zugang.lageId with
            | some einheit, some lage =>
              if typ = .personal ∧ leader = none then (.error .widerrufen, ungueltig)
              else gebundenPruefen db now typ zugang session einheit lage leader orgId
            | _, _ => (.error .widerrufen, ungueltig)

end Pruefen

end Einsatzcockpit.Zugang
