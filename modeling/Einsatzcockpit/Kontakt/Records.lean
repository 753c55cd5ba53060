import Einsatzcockpit.Lib.Keyed
import Einsatzcockpit.Fuehrung.Zuweisung
import Einsatzcockpit.KontaktSync.Records

/-! The central contacts of `models/kontakt.py` with the records that hang on
them, and the feed they are published to. -/

namespace Einsatzcockpit.Kontakt

open Relational
open KontaktSync (KontaktSyncAenderung ContactPayload Payload)

/-- The fields that a merge takes from one of the two contacts. -/
inductive Feld where
  | typ | anzeigename | vorname | nachname | funktion | organisation | email | erreichbarkeit | notizen

def Feld.alle : List Feld :=
  [typ, anzeigename, vorname, nachname, funktion, organisation, email, erreichbarkeit, notizen]

/-- A row of `kontakt`. -/
structure Zeile where
  id : Nat
  orgId : Nat
  typ : String := "person"
  anzeigename : String
  vorname : Option String := none
  nachname : Option String := none
  funktion : Option String := none
  organisation : Option String := none
  email : Option String := none
  erreichbarkeit : Option String := none
  notizen : Option String := none
  aktiv : Bool := true
  archiviert : Bool := false
  version : Nat := 0
  einsatzrelevant : Bool := false
  druckFreigegeben : Bool := false
  druckPrioritaet : String := "normal"
  druckhinweis : Option String := none
  druckSortierung : Int := 0
  aktualisiertVonId : Option Nat := none

/-- `getattr` -/
def Zeile.text (zeile : Zeile) : Feld → Option String
  | .typ => some zeile.typ
  | .anzeigename => some zeile.anzeigename
  | .vorname => zeile.vorname
  | .nachname => zeile.nachname
  | .funktion => zeile.funktion
  | .organisation => zeile.organisation
  | .email => zeile.email
  | .erreichbarkeit => zeile.erreichbarkeit
  | .notizen => zeile.notizen

/-- `setattr`; a missing type is `person`, a missing display name is filled in later. -/
def Zeile.setText (zeile : Zeile) (wert : Option String) : Feld → Zeile
  | .typ => { zeile with typ := wert.getD "person" }
  | .anzeigename => { zeile with anzeigename := wert.getD "" }
  | .vorname => { zeile with vorname := wert }
  | .nachname => { zeile with nachname := wert }
  | .funktion => { zeile with funktion := wert }
  | .organisation => { zeile with organisation := wert }
  | .email => { zeile with email := wert }
  | .erreichbarkeit => { zeile with erreichbarkeit := wert }
  | .notizen => { zeile with notizen := wert }

/-- A row of `kontakt_telefon`. -/
structure Telefon where
  id : Nat
  kontaktId : Nat
  nummer : String
  nummerNormalisiert : String
  label : Option String := none
  sort : Nat := 0
  bevorzugt : Bool := false
  smsEignung : Option Bool := none
  typ : String := "sonstige"
  verwendung : String := "dienst"
  aktiv : Bool := true

/-- A row of `kontakt_kategorie`. -/
structure Kategorie where
  id : Nat
  orgId : Nat
  name : String

/-- A row of `kontakt_kategorie_zuordnung`. -/
structure Zuordnung where
  id : Nat
  kontaktId : Nat
  kategorieId : Nat

/-- A row of `kontakt_anhang`. -/
structure Anhang where
  id : Nat
  kontaktId : Nat
  dateiname : String

/-- A row of `kontakt_externe_referenz`. -/
structure Referenz where
  id : Nat
  kontaktId : Nat
  quelle : String
  quelleKontext : Option String := none
  externId : String

def Referenz.schluessel (ref : Referenz) : String × Option String × String :=
  (ref.quelle, ref.quelleKontext, ref.externId)

/-- A row of `kontakt_email`. -/
structure Email where
  id : Nat
  kontaktId : Nat
  email : String

/-- A row of `kontakt_adresse`; one of an organisation may have no contact. -/
structure Adresse where
  id : Nat
  kontaktId : Option Nat

/-- A row of `kontakt_organisation_funktion`. -/
structure OrganisationFunktion where
  id : Nat
  kontaktId : Nat
  organisationId : Nat
  funktion : String

/-- A row of `einsatz_kontakt`. -/
structure EinsatzKontakt where
  id : Nat
  incidentId : Nat
  kontaktId : Nat
  hinweis : Option String := none

/-- A row of `objekt_kontakt_freigabe`. -/
structure Freigabe where
  id : Nat
  kanal : String
  zielWert : String
  aktiv : Bool := false

def Freigabe.schluessel (freigabe : Freigabe) : String × String := (freigabe.kanal, freigabe.zielWert)

/-- A row of `objekt_kontakt_benachrichtigung`. -/
structure Benachrichtigung where
  id : Nat
  orgId : Nat
  incidentId : Nat
  kanal : String
  empfaenger : String

def Benachrichtigung.schluessel (zeile : Benachrichtigung) : Nat × String × String :=
  (zeile.incidentId, zeile.kanal, zeile.empfaenger)

/-- A row of `objekt_kontakt`, a role of a contact at an object, with the rows
that name it. `freigaben` is the collection the session loads; `zugezogen` are
rows that have been hung on the role since, which that collection does not show. -/
structure Rolle where
  id : Nat
  orgId : Nat
  objektId : Nat
  kontaktId : Nat
  art : String := "sonstig"
  freigaben : List Freigabe := []
  zugezogen : List Freigabe := []
  benachrichtigungen : List Benachrichtigung := []

def Rolle.schluessel (rolle : Rolle) : Nat × String := (rolle.objektId, rolle.art)

/-- The rows of `objekt_kontakt_freigabe` of the role. -/
def Rolle.alleFreigaben (rolle : Rolle) : List Freigabe := rolle.freigaben ++ rolle.zugezogen

def Rolle.Eindeutig (rolle : Rolle) : Prop :=
  (rolle.alleFreigaben.map Freigabe.schluessel).Nodup ∧ (rolle.benachrichtigungen.map Benachrichtigung.schluessel).Nodup

instance (rolle : Rolle) : Decidable rolle.Eindeutig := by unfold Rolle.Eindeutig; infer_instance

structure Db where
  kontakte : Keyed Zeile.id := .empty
  telefone : Keyed Telefon.id := .empty
  kategorien : Keyed Kategorie.id := .empty
  zuordnungen : Keyed Zuordnung.id := .empty
  anhaenge : Keyed Anhang.id := .empty
  referenzen : Keyed Referenz.id := .empty
  emails : Keyed Email.id := .empty
  adressen : Keyed Adresse.id := .empty
  funktionen : Keyed OrganisationFunktion.id := .empty
  einsaetze : Keyed EinsatzKontakt.id := .empty
  rollen : List Rolle := []
  aenderungen : Keyed KontaktSyncAenderung.id := .empty

inductive Fehler where
  | kontaktNichtGefunden
  | konflikt
  | wert (text : String)
  | integritaet

/-- A contact of the session, with the telephone numbers it has loaded. -/
structure Objekt where
  zeile : Zeile
  telefone : List Telefon

def telefoneVon (db : Db) (kontaktId : Nat) : List Telefon :=
  (db.telefone.rows.filter fun telefon => telefon.kontaktId = kontaktId).insertionSort fun a b => a.sort ≤ b.sort

/-- `get_kontakt` -/
def getKontakt (db : Db) (kontaktId : Nat) (includeArchiviert : Bool) : Option Objekt :=
  ((db.kontakte.get? kontaktId).filter fun zeile => includeArchiviert || !zeile.archiviert).map fun zeile =>
    { zeile, telefone := telefoneVon db zeile.id }

/-- `contact_payload` -/
def contactPayload (kontakt : Objekt) : ContactPayload where
  id := kontakt.zeile.id
  werte := {
    typ := kontakt.zeile.typ
    anzeigename := kontakt.zeile.anzeigename
    vorname := kontakt.zeile.vorname
    nachname := kontakt.zeile.nachname
    funktion := kontakt.zeile.funktion
    organisation := kontakt.zeile.organisation
    email := kontakt.zeile.email
    erreichbarkeit := kontakt.zeile.erreichbarkeit
    notizen := kontakt.zeile.notizen
    aktiv := kontakt.zeile.aktiv
    archiviert := kontakt.zeile.archiviert
    version := kontakt.zeile.version
    telefone := kontakt.telefone.map fun p =>
      { id := p.id, nummer := p.nummer, label := p.label, sort := p.sort, bevorzugt := p.bevorzugt,
        smsEignung := p.smsEignung } }

def Db.gelesen (db : Db) (zeile : Zeile) : KontaktSync.Kontakt where
  id := zeile.id
  orgId := zeile.orgId
  werte := (contactPayload { zeile, telefone := telefoneVon db zeile.id }).werte

def Db.feed (db : Db) : KontaktSync.Db where
  kontakte := db.kontakte.rows.map db.gelesen
  aenderungen := db.aenderungen.rows
  vergeben := db.aenderungen.last
  kontakteVergeben := db.kontakte.last

def zeileSchreiben (db : Db) (zeile : Zeile) : Db :=
  { db with kontakte := db.kontakte.modify zeile.id (fun alt => { zeile with id := alt.id }) fun _ => rfl }

/-- `record_change` -/
def recordChange (db : Db) (orgId entityId : Nat) (operation : KontaktSync.Operation) (payload : Option Payload) : Db :=
  { db with
    aenderungen := db.aenderungen.insert
      (fun id => { id, orgId, entitaet := .kontakt, entitaetId := entityId, operation, payload }) fun _ => rfl }

end Einsatzcockpit.Kontakt
