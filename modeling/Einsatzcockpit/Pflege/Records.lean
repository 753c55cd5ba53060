import Einsatzcockpit.Gsl.Records
import Einsatzcockpit.Lib.Raise

/-! Personnel and equipment of the units, `ressource_pflege_service.py`. -/

namespace Einsatzcockpit.Pflege

open Raising

/-- A value of a request; `wahr` is the truth value of one that is no integer. -/
inductive Wert where
  | fehlt
  | zahl (n : Int)
  | anderes (wahr : Bool)

def Wert.n : Wert → Int
  | zahl n => n
  | fehlt | anderes _ => 0

/-- `wert or 0` -/
def Wert.oderNull : Wert → Wert
  | zahl n => zahl n
  | anderes true => anderes true
  | fehlt | anderes false => zahl 0

/-- `_zahl` -/
def zahl (wert : Wert) (feld : String) : Except String Int :=
  match wert with
  | .zahl n =>
    if 0 ≤ n then .ok n else .error s!"{feld} muss eine ganze Zahl größer oder gleich 0 sein"
  | .fehlt | .anderes _ => .error s!"{feld} muss eine ganze Zahl größer oder gleich 0 sein"

theorem zahl_ok {wert : Wert} {feld : String} {n : Int} (ok : zahl wert feld = .ok n) : wert = .zahl n ∧ 0 ≤ n := by
  unfold zahl at ok
  split at ok
  · split at ok
    · cases ok
      exact ⟨rfl, ‹_›⟩
    · cases ok
  all_goals cases ok

/-- `_zahl(anzahl, "Anzahl") if anzahl is not None else 0` -/
def anzahlOderNull : Wert → Except String Int
  | .fehlt => .ok 0
  | wert => zahl wert "Anzahl"

inductive Modus where
  | summe | liste
  deriving DecidableEq

def Modus.lies : String → Option Modus
  | "summe" => some summe
  | "liste" => some liste
  | _ => none

def Modus.wert : Modus → String
  | summe => "summe"
  | liste => "liste"

/-- `PERSON_FUNKTIONEN` -/
inductive Funktion where
  | fuehrung | agt | sanitaeter | maschinist | mannschaft | sonstige
  deriving DecidableEq

def Funktion.lies : String → Option Funktion
  | "fuehrung" => some fuehrung
  | "agt" => some agt
  | "sanitaeter" => some sanitaeter
  | "maschinist" => some maschinist
  | "mannschaft" => some mannschaft
  | "sonstige" => some sonstige
  | _ => none

inductive Herkunft where
  | frei | stamm | verstaerkung | umbuchung
  deriving DecidableEq

/-- What `person_hinzufuegen` takes. -/
def Herkunft.lies : String → Option Herkunft
  | "frei" => some frei
  | "stamm" => some stamm
  | "verstaerkung" => some verstaerkung
  | _ => none

def teilTyp : String → Option Gsl.ResourceType
  | "fahrzeug" => some .fahrzeug
  | "extern" => some .externe
  | "material" => some .material
  | _ => none

structure MajorIncident where
  id : Nat
  orgId : Nat

/-- A row of `lage_einheit`. -/
structure LageEinheit where
  id : Nat
  lageId : Nat
  label : String
  resourceType : Gsl.ResourceType := .fahrzeug
  status : Gsl.RessourceStatus := .bereitgestellt
  sectorId : Option Nat := none
  verbandId : Option Nat := none
  aufgeteiltVonId : Option Nat := none
  personalModus : Modus := .summe
  staerkeGesamt : Option Int := none
  staerkeFuehrung : Option Int := none
  staerkeAgt : Option Int := none
  staerkeSanitaeter : Option Int := none
  personalBemerkung : Option String := none

/-- A row of `lage_einheit_person`. No writer sets `org_id`. -/
structure LageEinheitPerson where
  id : Nat
  orgId : Option Nat := none
  lageId : Nat
  einheitId : Nat
  memberId : Option Nat
  name : String
  funktion : Funktion
  qualifikationen : Option String
  vonAt : Zeit
  bisAt : Option Zeit := none
  herkunft : Herkunft
  abloesungVonId : Option Nat := none
  bemerkung : Option String := none
  aktivKey : Option Nat

/-- A row of `lage_einheit_ausstattung`. -/
structure LageEinheitAusstattung where
  id : Nat
  orgId : Option Nat
  lageId : Nat
  einheitId : Nat
  kategorie : String
  bezeichnung : String
  istFaehigkeit : Bool := false
  menge : Int
  status : String := "einsatzbereit"
  bemerkung : Option String := none
  stammRefTyp : Option String := none
  stammRefId : Option Nat := none

structure Member where
  id : Nat
  orgId : Nat
  active : Bool
  fullName : String
  qualifikationen : List String := []

/-- The tables. `zeilen` counts the equipment rows ever added. -/
structure Bestand where
  einheiten : List LageEinheit := []
  personen : List LageEinheitPerson := []
  ausstattung : List LageEinheitAusstattung := []
  zeilen : Nat := 0
  mitglieder : List Member := []

/-- A session: the tenant it is bound to (none for a system administrator and
for a request without a user), its clock, and how the database compares
designations. -/
structure Sitzung where
  kontext : Option Nat
  jetzt : Zeit
  gleich : String → String → Bool := fun a b => a == b

def Sitzung.sieht (s : Sitzung) (orgId : Option Nat) : Bool := s.kontext.all fun org => orgId == some org

namespace Bestand

variable (db : Bestand)

def einheit? (id : Nat) : Option LageEinheit := db.einheiten.find? fun e => e.id == id

def setEinheit (id : Nat) (werte : LageEinheit → LageEinheit) : Bestand :=
  { db with einheiten := Relational.update (fun e => e.id == id) werte db.einheiten }

def addEinheit (einheit : LageEinheit) : Bestand := { db with einheiten := db.einheiten ++ [einheit] }

def setPerson (id : Nat) (werte : LageEinheitPerson → LageEinheitPerson) : Bestand :=
  { db with personen := Relational.update (fun p => p.id == id) werte db.personen }

def setZeile (id : Nat) (werte : LageEinheitAusstattung → LageEinheitAusstattung) : Bestand :=
  { db with ausstattung := Relational.update (fun z => z.id == id) werte db.ausstattung }

def addZeile (zeile : LageEinheitAusstattung) : Bestand :=
  { db with ausstattung := db.ausstattung ++ [zeile], zeilen := db.zeilen + 1 }

def aktive (einheit : LageEinheit) : List LageEinheitPerson :=
  db.personen.filter fun p => p.lageId == einheit.lageId && p.einheitId == einheit.id && p.bisAt.isNone

/-- `_aktive_personen` -/
def aktivePersonen (s : Sitzung) (einheit : LageEinheit) : List LageEinheitPerson :=
  (db.aktive einheit).filter fun p => s.sieht p.orgId

end Bestand

/-- `str.upper()`, as far as it reaches the letters of a code. -/
def upper (s : String) : String :=
  String.ofList (s.toList.map fun c => if c = 'ſ' then 'S' else c.toUpper)

def hatCode (code : String) (qualifikationen : Option String) : Bool :=
  ((qualifikationen.getD "").splitOn ",").any fun x => upper (strip x) == code

structure Staerke where
  gesamt : Int
  fuehrung : Int
  agt : Int
  sanitaeter : Int
  deriving DecidableEq

/-- `_zahlen` -/
def LageEinheit.zahlen (einheit : LageEinheit) : Staerke where
  gesamt := einheit.staerkeGesamt.getD 0
  fuehrung := einheit.staerkeFuehrung.getD 0
  agt := einheit.staerkeAgt.getD 0
  sanitaeter := einheit.staerkeSanitaeter.getD 0

/-- The counts that `_neu_berechnen` writes. -/
def zaehlen (personen : List LageEinheitPerson) : Staerke where
  gesamt := personen.length
  fuehrung := personen.countP fun p => p.funktion == .fuehrung
  agt := personen.countP fun p => p.funktion == .agt || hatCode "AGT" p.qualifikationen
  sanitaeter := personen.countP fun p => p.funktion == .sanitaeter || hatCode "SAN" p.qualifikationen

def LageEinheit.setze (staerke : Staerke) (einheit : LageEinheit) : LageEinheit :=
  { einheit with
    staerkeGesamt := some staerke.gesamt
    staerkeFuehrung := some staerke.fuehrung
    staerkeAgt := some staerke.agt
    staerkeSanitaeter := some staerke.sanitaeter }

/-- A write of `staerke_gesamt`. -/
def LageEinheit.mitGesamt (gesamt : Int) (einheit : LageEinheit) : LageEinheit :=
  { einheit with staerkeGesamt := some gesamt }

/-- `_neu_berechnen` -/
def neuBerechnen (s : Sitzung) (db : Bestand) (einheitId : Nat) : Bestand :=
  db.setEinheit einheitId fun e => e.setze (zaehlen (db.aktivePersonen s e))

/-- The unit a route has loaded, after `_check_einheit`. -/
def holeEinheit (db : Bestand) (lage : MajorIncident) (einheitId : Nat) : Except String LageEinheit := do
  let einheit ← demand (db.einheit? einheitId) "Einheit nicht gefunden"
  require (einheit.lageId = lage.id) "Einheit gehört nicht zur Lage"
  return einheit

end Einsatzcockpit.Pflege
