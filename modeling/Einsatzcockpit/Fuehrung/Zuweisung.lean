import Einsatzcockpit.Basis
import Einsatzcockpit.Lib.Raise
import Einsatzcockpit.Lib.Table

/-! Leaders and deputies of the units of an incident, `resource_service.py`. -/

namespace Einsatzcockpit.Fuehrung

open Raising

inductive Rolle where
  | fuehrer | stellvertreter
  deriving DecidableEq

/-- A row of `lage_einheit_leader`. -/
structure LageEinheitLeader where
  id : Nat
  einheitId : Nat
  memberId : Option Nat
  personName : Option String
  startAt : Zeit
  endAt : Option Zeit := none
  predecessorId : Option Nat := none
  note : Option String := none
  createdBy : Option Nat := none
  rolle : Rolle
  phone : Option String := none
  phoneE164 : Option String := none
  phoneVersion : Nat := 1
  phoneVerifiziertAt : Option Zeit := none
  endeGrund : Option String := none
  endeVon : Option Nat := none

structure LageEinheit where
  id : Nat
  lageId : Nat
  leaderAssignmentId : Option Nat := none
  commanderLabel : Option String := none

structure MajorIncident where
  id : Nat
  orgId : Nat

structure Member where
  id : Nat
  orgId : Nat
  active : Bool := true
  fullName : String
  phone : Option String := none

structure Bestand where
  einheiten : List LageEinheit := []
  leaders : List LageEinheitLeader := []
  members : List Member := []

namespace Bestand

variable (db : Bestand)

def einheit? (id : Nat) : Option LageEinheit := db.einheiten.find? fun e => e.id == id

def leader? (id : Nat) : Option LageEinheitLeader := db.leaders.find? fun l => l.id == id

def setEinheit (id : Nat) (werte : LageEinheit → LageEinheit) : Bestand :=
  { db with einheiten := Relational.update (fun e => e.id == id) werte db.einheiten }

def setLeader (id : Nat) (werte : LageEinheitLeader → LageEinheitLeader) : Bestand :=
  { db with leaders := Relational.update (fun l => l.id == id) werte db.leaders }

def naechsteId : Nat := db.leaders.length + 1

def addLeader (leader : LageEinheitLeader) : Bestand := { db with leaders := db.leaders ++ [leader] }

end Bestand

/-- `telefon_kompakt` -/
def telefonKompakt (wert : String) : List Char :=
  wert.toList.filter fun c => !(isSpace c || c == '-' || c == '(' || c == ')' || c == '/')

/-- `telefon_normalisiert` -/
def telefonNormalisiert (wert : String) : List Char :=
  match telefonKompakt wert with
  | '0' :: '0' :: rest => '+' :: rest
  | kompakt => kompakt

/-- `telefon_identitaet_at` -/
def telefonIdentitaetAt (wert : String) : List Char :=
  match telefonNormalisiert wert with
  | '0' :: rest => '+' :: '4' :: '3' :: rest
  | normalisiert => normalisiert

/-- `telefon_e164` -/
def telefonE164 (wert : String) : Option String :=
  match telefonNormalisiert wert with
  | '+' :: ziffern =>
    if 8 ≤ ziffern.length ∧ ziffern.length ≤ 15 ∧ ziffern.all fun c => '0' ≤ c && c ≤ '9' then
      some (String.ofList ('+' :: ziffern))
    else none
  | _ => none

/-- `telefon_zu_e164_at` -/
def telefonZuE164At (wert : Option String) : Option String :=
  telefonE164 (String.ofList (telefonIdentitaetAt (wert.getD "")))

/-- The person of a request: `member_id`, `person_name`, `telefon`. -/
structure Person where
  memberId : Option Nat := none
  personName : Option String := none
  telefon : Option String := none

/-- What `_fuehrungseingabe` returns. -/
structure Eingabe where
  memberId : Option Nat
  name : String
  phone : Option String
  phoneE164 : Option String

def mitglied (db : Bestand) (lage : MajorIncident) : Option Nat → Except String (Option Member)
  | none => .ok none
  | some id => some <$> demand (db.members.find? fun m => m.id == id && m.orgId == lage.orgId && m.active)
      "Mitglied nicht gefunden oder nicht aktiv"

/-- `_fuehrungseingabe` -/
def fuehrungseingabe (db : Bestand) (lage : MajorIncident) (person : Person) : Except String Eingabe := do
  let member ← mitglied db lage person.memberId
  let name := clip 120 (strip (match member with
    | none => person.personName.getD ""
    | some member => member.fullName))
  require (person.memberId ≠ none ∨ name ≠ "") "member_id oder person_name erforderlich"
  -- no number at all stands for the one of the member, an empty one for none
  let phone := match person.telefon, member with
    | none, some member => member.phone
    | telefon, _ => telefon
  let phone := (orNone phone).map strip
  let phoneE164 := telefonZuE164At phone
  require (orNone phone = none ∨ phoneE164 ≠ none) "Telefonnummer ungueltig"
  return { memberId := person.memberId, name, phone, phoneE164 }

/-- `_gleiche_person` -/
def gleichePerson (casefold : String → String) (leader : LageEinheitLeader) (eingabe : Eingabe) : Bool :=
  match eingabe.memberId with
  | some id => leader.memberId == some id
  | none => leader.memberId.isNone && casefold (leader.personName.getD "") == casefold eingabe.name

inductive Modus where
  | auto | wechsel | korrektur
  deriving DecidableEq

def Modus.lies : String → Option Modus
  | "auto" => some auto
  | "wechsel" => some wechsel
  | "korrektur" => some korrektur
  | _ => none

inductive Aenderung where
  | keine | korrektur | wechsel | neu | telefon
  deriving DecidableEq

/-- `GkErgebnis`, the text message apart. -/
structure GkErgebnis where
  aenderung : Aenderung
  leaderId : Nat
  zugangGesperrt : Bool := false

def LageEinheitLeader.korrigiert (eingabe : Eingabe) (note : Option String) (l : LageEinheitLeader) : LageEinheitLeader :=
  { l with
    memberId := eingabe.memberId
    personName := some eingabe.name
    phone := eingabe.phone
    phoneE164 := eingabe.phoneE164
    note
    phoneVersion := if l.phoneE164 = eingabe.phoneE164 then l.phoneVersion else l.phoneVersion + 1
    phoneVerifiziertAt := if l.phoneE164 = eingabe.phoneE164 then l.phoneVerifiziertAt else none }

def LageEinheitLeader.beendet (now : Zeit) (grund : String) (userId : Option Nat) (l : LageEinheitLeader) : LageEinheitLeader :=
  { l with endAt := some now, endeGrund := some grund, endeVon := userId }

structure Angaben where
  modus : String := "auto"
  note : Option String := none
  userId : Option Nat := none

/-- What both assignments do to the records of a role: `old` is its holder. -/
def weiseZu (casefold : String → String) (db : Bestand) (now : Zeit) (einheitId : Nat) (rolle : Rolle)
    (old : Option LageEinheitLeader) (eingabe : Eingabe) (modus : Modus) (angaben : Angaben) :
    Aenderung × Nat × Bestand :=
  let neu : LageEinheitLeader := {
    id := db.naechsteId
    einheitId
    memberId := eingabe.memberId
    personName := some eingabe.name
    startAt := now
    predecessorId := old.map (·.id)
    note := angaben.note
    createdBy := angaben.userId
    rolle
    phone := eingabe.phone
    phoneE164 := eingabe.phoneE164 }
  match old with
  | none => (.neu, neu.id, db.addLeader neu)
  | some old =>
    let gleich := gleichePerson casefold old eingabe
    if gleich ∧ old.phoneE164 = eingabe.phoneE164 ∧ modus ≠ .korrektur then (.keine, old.id, db)
    else if gleich ∨ modus = .korrektur then
      (if old.phoneE164 = eingabe.phoneE164 then .korrektur else .telefon, old.id,
        db.setLeader old.id (·.korrigiert eingabe angaben.note))
    else (.wechsel, neu.id, (db.setLeader old.id (·.beendet now "wechsel" angaben.userId)).addLeader neu)

def holeEinheit (db : Bestand) (lage : MajorIncident) (einheitId : Nat) : Except String LageEinheit := do
  let einheit ← demand (db.einheit? einheitId) "Einheit nicht gefunden"
  require (einheit.lageId = lage.id) "Einheit nicht gefunden"
  return einheit

def zeigtAuf (db : Bestand) (einheit : LageEinheit) : Option LageEinheitLeader :=
  einheit.leaderAssignmentId.bind db.leader?

/-- The leader `setze_gruppenkommandant` starts from. -/
def gruppenkommandant (db : Bestand) (einheit : LageEinheit) : Option LageEinheitLeader :=
  (zeigtAuf db einheit).filter fun old => old.endAt.isNone && old.rolle == .fuehrer

def stellvertreter (db : Bestand) (einheitId : Nat) : Option LageEinheitLeader :=
  db.leaders.find? fun l => l.einheitId == einheitId && l.rolle == .stellvertreter && l.endAt.isNone

/-- `setze_gruppenkommandant` -/
def setzeGruppenkommandant (casefold : String → String) (db : Bestand) (now : Zeit) (lage : MajorIncident) (einheitId : Nat)
    (person : Person) (angaben : Angaben) : Except String (GkErgebnis × Bestand) := do
  let einheit ← holeEinheit db lage einheitId
  let modus ← demand (Modus.lies angaben.modus) "Ungueltiger Modus"
  let eingabe ← fuehrungseingabe db lage person
  let (aenderung, leaderId, db) :=
    weiseZu casefold db now einheitId .fuehrer (gruppenkommandant db einheit) eingabe modus angaben
  return match aenderung with
    | .keine => ({ aenderung, leaderId }, db)
    | .korrektur | .telefon =>
      ({ aenderung, leaderId, zugangGesperrt := aenderung == .telefon },
        db.setEinheit einheitId fun e => { e with commanderLabel := some eingabe.name })
    | .wechsel | .neu =>
      ({ aenderung, leaderId, zugangGesperrt := aenderung == .wechsel },
        db.setEinheit einheitId fun e => { e with leaderAssignmentId := some leaderId, commanderLabel := some eingabe.name })

/-- `setze_stellvertreter` -/
def setzeStellvertreter (casefold : String → String) (db : Bestand) (now : Zeit) (lage : MajorIncident) (einheitId : Nat)
    (person : Person) (angaben : Angaben) : Except String (GkErgebnis × Bestand) := do
  let _ ← holeEinheit db lage einheitId
  let modus ← demand (Modus.lies angaben.modus) "Ungueltiger Modus"
  let eingabe ← fuehrungseingabe db lage person
  let (aenderung, leaderId, db) :=
    weiseZu casefold db now einheitId .stellvertreter (stellvertreter db einheitId) eingabe modus angaben
  return ({ aenderung, leaderId }, db)

/-- `entferne_gruppenkommandant` -/
def entferneGruppenkommandant (db : Bestand) (now : Zeit) (lage : MajorIncident) (einheitId : Nat) (userId : Option Nat) :
    Except String (Option Nat × Bestand) := do
  let einheit ← holeEinheit db lage einheitId
  return match (zeigtAuf db einheit).filter (·.endAt.isNone) with
    | none => (none, db)
    | some old =>
      (some old.id, (db.setLeader old.id (·.beendet now "entfernt" userId)).setEinheit einheitId fun e =>
        { e with leaderAssignmentId := none, commanderLabel := none })

/-- `entferne_stellvertreter` -/
def entferneStellvertreter (db : Bestand) (now : Zeit) (lage : MajorIncident) (einheitId : Nat) (userId : Option Nat) :
    Except String (Option Nat × Bestand) := do
  let _ ← holeEinheit db lage einheitId
  return match stellvertreter db einheitId with
    | none => (none, db)
    | some old => (some old.id, db.setLeader old.id (·.beendet now "entfernt" userId))

inductive Vorgang where
  | einheit (lageId : Nat)
  | mitglied (member : Member)
  | setzeGruppenkommandant (now : Zeit) (lage : MajorIncident) (einheitId : Nat) (person : Person) (angaben : Angaben)
  | setzeStellvertreter (now : Zeit) (lage : MajorIncident) (einheitId : Nat) (person : Person) (angaben : Angaben)
  | entferneGruppenkommandant (now : Zeit) (lage : MajorIncident) (einheitId : Nat) (userId : Option Nat)
  | entferneStellvertreter (now : Zeit) (lage : MajorIncident) (einheitId : Nat) (userId : Option Nat)

def transaktion {α : Type} (db : Bestand) : Except String (α × Bestand) → Bestand
  | .ok (_, db') => db'
  | .error _ => db

def step (casefold : String → String) (db : Bestand) : Vorgang → Bestand
  | .einheit lageId => { db with einheiten := db.einheiten ++ [{ id := db.einheiten.length + 1, lageId }] }
  | .mitglied member => { db with members := db.members ++ [member] }
  | .setzeGruppenkommandant now lage einheitId person angaben =>
    transaktion db (setzeGruppenkommandant casefold db now lage einheitId person angaben)
  | .setzeStellvertreter now lage einheitId person angaben =>
    transaktion db (setzeStellvertreter casefold db now lage einheitId person angaben)
  | .entferneGruppenkommandant now lage einheitId userId =>
    transaktion db (entferneGruppenkommandant db now lage einheitId userId)
  | .entferneStellvertreter now lage einheitId userId =>
    transaktion db (entferneStellvertreter db now lage einheitId userId)

end Einsatzcockpit.Fuehrung
