import Einsatzcockpit.Pflege.Records

namespace Einsatzcockpit.Pflege

open Raising

/-- `personal_setzen` -/
def personalSetzen (db : Bestand) (lage : MajorIncident) (einheitId : Nat) (gesamt fuehrung agt sanitaeter : Wert)
    (bemerkung : Option String) : Except String Bestand := do
  let einheit ← holeEinheit db lage einheitId
  require (einheit.personalModus = .summe) "Mannschaft wird aus der Personenliste berechnet"
  let gesamt ← zahl gesamt "Gesamtstärke"
  let fuehrung ← zahl fuehrung.oderNull "Führung"
  let agt ← zahl agt.oderNull "AGT"
  let sanitaeter ← zahl sanitaeter.oderNull "Sanitäter"
  let neu : Staerke := { gesamt, fuehrung, agt, sanitaeter }
  require (fuehrung ≤ gesamt ∧ agt ≤ gesamt ∧ sanitaeter ≤ gesamt)
    "Teilsummen dürfen die Gesamtstärke nicht überschreiten"
  require (bemerkung.all fun text => decide (text.length ≤ 500)) "Bemerkung darf höchstens 500 Zeichen haben"
  return if einheit.zahlen = neu ∧ einheit.personalBemerkung = bemerkung then db
    else db.setEinheit einheitId fun e => { e.setze neu with personalBemerkung := bemerkung }

/-- `modus_wechseln` -/
def modusWechseln (s : Sitzung) (db : Bestand) (lage : MajorIncident) (einheitId : Nat) (modus : String) :
    Except String Bestand := do
  let einheit ← holeEinheit db lage einheitId
  let modus ← demand (Modus.lies modus) "Ungültiger Personalmodus"
  return if einheit.personalModus = modus then db
    else
      let db := db.setEinheit einheitId fun e => { e with personalModus := modus }
      match modus with
      | .liste => neuBerechnen s db einheitId
      | .summe => db

/-- The qualifications a caller can pass: a CSV or a list of codes. -/
inductive Qualifikationen where
  | text (csv : String)
  | codes (codes : List String)

/-- `_qualifikationen` -/
def qualifikationenText : Option Qualifikationen → Except String (Option String)
  | none => .ok none
  | some wert => do
    let teile := match wert with
      | .text csv => csv.splitOn ","
      | .codes codes => codes
    let text := String.intercalate "," ((teile.map strip).filter (· ≠ ""))
    require (text.length ≤ 200) "Qualifikationen dürfen höchstens 200 Zeichen haben"
    return if text = "" then none else some text

/-- What `_person_anlegen` is given. -/
structure NeuePerson where
  memberId : Option Nat := none
  name : Option String := none
  funktion : Option Funktion
  qualifikationen : Option Qualifikationen := none
  herkunft : Herkunft
  abloesungVonId : Option Nat := none
  bemerkung : Option String := none

/-- `_mitglied` -/
def mitglied (s : Sitzung) (db : Bestand) (lage : MajorIncident) (memberId : Nat) : Except String Member := do
  let found := db.mitglieder.find? fun m => m.id == memberId && s.sieht (some m.orgId)
  let member ← demand found "Mitglied gehört nicht zur Organisation der Lage oder ist nicht aktiv"
  require (member.orgId = lage.orgId ∧ member.active = true)
    "Mitglied gehört nicht zur Organisation der Lage oder ist nicht aktiv"
  return member

def memberVon (s : Sitzung) (db : Bestand) (lage : MajorIncident) : Option Nat → Except String (Option Member)
  | none => .ok none
  | some memberId => some <$> mitglied s db lage memberId

def pruefeMitglied (s : Sitzung) (db : Bestand) (lage : MajorIncident) : Option Nat → Except String Unit
  | none => .ok ()
  | some memberId => do
    let vorhanden := db.personen.find? fun p =>
      s.sieht p.orgId && p.lageId == lage.id && p.memberId == some memberId && p.bisAt.isNone
    let label := ((vorhanden.bind fun p => db.einheit? p.einheitId).map (·.label)).getD "einer anderen Einheit"
    require (vorhanden = none) s!"Mitglied ist bereits bei Einheit {label} aktiv"
    require ((db.personen.any fun p => p.lageId == lage.id && p.aktivKey == some memberId) = false)
      "Mitglied ist bereits bei Einheit einer anderen Einheit aktiv"

/-- `_person_anlegen` -/
def personAnlegen (s : Sitzung) (db : Bestand) (lage : MajorIncident) (einheitId : Nat) (daten : NeuePerson) :
    Except String Bestand := do
  let funktion ← demand daten.funktion "Ungültige Funktion"
  let member ← memberVon s db lage daten.memberId
  let name := strip (match member with
    | none => daten.name.getD ""
    | some member => member.fullName)
  let herkunft := if member.isSome && daten.herkunft == .frei then .stamm else daten.herkunft
  let qualifikationen := match member, daten.qualifikationen with
    | some member, none => some (.codes member.qualifikationen)
    | _, gegeben => gegeben
  require (name ≠ "" ∧ name.length ≤ 120) "Name ist erforderlich und darf höchstens 120 Zeichen haben"
  pruefeMitglied s db lage daten.memberId
  let text ← qualifikationenText qualifikationen
  return { db with
    personen := db.personen ++ [{
      id := db.personen.length + 1
      lageId := lage.id
      einheitId
      memberId := daten.memberId
      name
      funktion
      qualifikationen := text
      vonAt := s.jetzt
      herkunft
      abloesungVonId := daten.abloesungVonId
      bemerkung := daten.bemerkung
      aktivKey := daten.memberId }] }

/-- `person_hinzufuegen` -/
def personHinzufuegen (s : Sitzung) (db : Bestand) (lage : MajorIncident) (einheitId : Nat) (memberId : Option Nat)
    (name : Option String) (funktion : String) (qualifikationen : Option Qualifikationen) (herkunft : String)
    (bemerkung : Option String) : Except String Bestand := do
  let einheit ← holeEinheit db lage einheitId
  require (einheit.personalModus = .liste) "Personen können nur im Listenmodus hinzugefügt werden"
  let herkunft ← demand (Herkunft.lies herkunft) "Ungültige Herkunft"
  require (bemerkung.all fun text => decide (text.length ≤ 300)) "Bemerkung darf höchstens 300 Zeichen haben"
  let db ← personAnlegen s db lage einheitId
    { memberId, name, funktion := Funktion.lies funktion, qualifikationen, herkunft, bemerkung }
  return neuBerechnen s db einheitId

/-- `person.bis_at, person.aktiv_key = _now(), None` -/
def LageEinheitPerson.beendet (s : Sitzung) (person : LageEinheitPerson) : LageEinheitPerson :=
  { person with bisAt := some s.jetzt, aktivKey := none }

/-- The active person of the unit, as `db.get` finds it. -/
def holePerson (s : Sitzung) (db : Bestand) (lage : MajorIncident) (einheitId personId : Nat) :
    Except String LageEinheitPerson := do
  let found := db.personen.find? fun p => p.id == personId && s.sieht p.orgId
  let person ← demand found "Person gehört nicht zur Einheit und Lage"
  require (person.lageId = lage.id ∧ person.einheitId = einheitId ∧ person.bisAt = none)
    "Person gehört nicht zur Einheit und Lage"
  return person

/-- `person_entfernen` -/
def personEntfernen (s : Sitzung) (db : Bestand) (lage : MajorIncident) (einheitId personId : Nat) :
    Except String Bestand := do
  let _ ← holeEinheit db lage einheitId
  let person ← holePerson s db lage einheitId personId
  return neuBerechnen s (db.setPerson person.id (·.beendet s)) einheitId

/-- One of the persons `verstaerken` is given. -/
structure PersonDaten where
  memberId : Option Nat := none
  name : Option String := none
  funktion : String := ""
  qualifikationen : Option Qualifikationen := none

def PersonDaten.verstaerkung (daten : PersonDaten) : NeuePerson where
  memberId := daten.memberId
  name := daten.name
  funktion := Funktion.lies daten.funktion
  qualifikationen := daten.qualifikationen
  herkunft := .verstaerkung

/-- `verstaerken` -/
def verstaerken (s : Sitzung) (db : Bestand) (lage : MajorIncident) (einheitId : Nat) (anzahl : Wert)
    (personen : List PersonDaten) : Except String Bestand := do
  let einheit ← holeEinheit db lage einheitId
  match einheit.personalModus with
  | .summe =>
    let delta ← anzahlOderNull anzahl
    require (0 < delta) "Anzahl muss größer als 0 sein"
    return db.setEinheit einheitId fun e => e.mitGesamt (e.zahlen.gesamt + delta)
  | .liste =>
    require (personen ≠ []) "Personen sind erforderlich"
    let db ← personen.foldlM (fun db daten => personAnlegen s db lage einheitId daten.verstaerkung) db
    return neuBerechnen s db einheitId

/-- `abloesen` -/
def abloesen (s : Sitzung) (db : Bestand) (lage : MajorIncident) (einheitId personAltId : Nat) (memberId : Option Nat)
    (name funktion : Option String) : Except String Bestand := do
  let einheit ← holeEinheit db lage einheitId
  require (einheit.personalModus = .liste) "Ablösung ist nur im Listenmodus möglich"
  let alt ← holePerson s db lage einheitId personAltId
  let db ← personAnlegen s (db.setPerson alt.id (·.beendet s)) lage einheitId
    { memberId
      name
      funktion := match orNone funktion with
        | none => some alt.funktion
        | some text => Funktion.lies text
      qualifikationen := alt.qualifikationen.map .text
      herkunft := alt.herkunft
      abloesungVonId := some alt.id }
  return neuBerechnen s db einheitId

def verschiebePerson (s : Sitzung) (db : Bestand) (lage : MajorIncident) (zielId : Nat) (person : LageEinheitPerson) :
    Except String Bestand :=
  personAnlegen s (db.setPerson person.id (·.beendet s)) lage zielId
    { memberId := person.memberId
      name := some person.name
      funktion := some person.funktion
      qualifikationen := person.qualifikationen.map .text
      herkunft := .umbuchung }

def verschiebeAlle (s : Sitzung) (lage : MajorIncident) (wege : List (Nat × LageEinheitPerson)) (db : Bestand) :
    Except String Bestand :=
  wege.foldlM (fun db weg => verschiebePerson s db lage weg.1 weg.2) db

/-- `_umbuchen` -/
def umbuchen (s : Sitzung) (db : Bestand) (lage : MajorIncident) (vonId nachId : Nat) (anzahl : Wert)
    (personIds : List Nat) : Except String Bestand := do
  let von ← holeEinheit db lage vonId
  let nach ← holeEinheit db lage nachId
  require (vonId ≠ nachId) "Quelle und Ziel müssen verschieden sein"
  require (von.personalModus = nach.personalModus) "Umbuchung zwischen unterschiedlichen Personalmodi ist nicht möglich"
  match von.personalModus with
  | .summe =>
    let delta ← anzahlOderNull anzahl
    require (0 < delta) "Anzahl muss größer als 0 sein"
    let vorher := von.zahlen.gesamt
    require (delta ≤ vorher) "Nicht genügend Personal für Umbuchung"
    return (db.setEinheit vonId (·.mitGesamt (vorher - delta))).setEinheit nachId
      (·.mitGesamt (nach.zahlen.gesamt + delta))
  | .liste =>
    require (personIds ≠ []) "Personen sind erforderlich"
    let personen := (db.aktivePersonen s von).filter fun p => personIds.contains p.id
    require (personen.length = personIds.eraseDups.length) "Person gehört nicht zur Quelleinheit"
    let db ← verschiebeAlle s lage (personen.map fun person => (nachId, person)) db
    return [vonId, nachId].foldl (neuBerechnen s) db

def neuerVerband (lage : MajorIncident) (id : Nat) (label : String) (kinder : List LageEinheit) : LageEinheit where
  id
  lageId := lage.id
  label
  resourceType := .verband
  status := if kinder.any fun kind => kind.status == .imEinsatz then .imEinsatz else .bereitgestellt
  sectorId := if (kinder.map (·.sectorId)).eraseDups.length = 1 then kinder.head?.bind (·.sectorId) else none

/-- `verband_bilden`; `aktive` are the active dispatches of the members, by
their site and their text. -/
def verbandBilden (db : Bestand) (lage : MajorIncident) (label : String) (einheitIds : List Nat)
    (aktive : List (Nat × String)) : Except String Bestand := do
  let label := strip label
  require (label ≠ "" ∧ label.length ≤ 120) "Bezeichnung ist erforderlich und darf höchstens 120 Zeichen haben"
  require (2 ≤ einheitIds.eraseDups.length) "Ein Verband benötigt mindestens zwei Einheiten"
  let kinder := db.einheiten.filter fun e => einheitIds.contains e.id
  require (kinder.length = einheitIds.eraseDups.length) "Einheit nicht gefunden"
  kinder.forM fun kind => do
    require (kind.lageId = lage.id) "Einheit gehört nicht zur Lage"
    require (kind.status ≠ .abgerueckt) s!"Einheit {kind.label} ist abgerückt"
    require (kind.resourceType ≠ .verband) s!"Einheit {kind.label} ist selbst ein Verband"
    require (kind.verbandId = none) s!"Einheit {kind.label} ist bereits Teil eines Verbands"
  let details := String.intercalate ", " (aktive.map (·.2))
  require ((aktive.map (·.1)).eraseDups.length ≤ 1)
    s!"Aktive Dispositionen müssen dieselbe Stelle haben: {details}"
  let verbandId := db.einheiten.length + 1
  let db := db.addEinheit (neuerVerband lage verbandId label kinder)
  return { db with
    einheiten := Relational.update (fun e => einheitIds.contains e.id) (fun e => { e with verbandId := some verbandId })
      db.einheiten }

/-- `verband_aufloesen` -/
def verbandAufloesen (db : Bestand) (lage : MajorIncident) (verbandId : Nat) : Except String Bestand := do
  let verband ← holeEinheit db lage verbandId
  require (verband.resourceType = .verband) "Einheit ist kein Verband"
  let db := { db with
    einheiten := Relational.update (fun e => e.verbandId == some verbandId) (fun e => { e with verbandId := none })
      db.einheiten }
  return db.setEinheit verbandId fun e => { e with status := .abgerueckt }

end Einsatzcockpit.Pflege
