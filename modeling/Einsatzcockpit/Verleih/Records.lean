import Einsatzcockpit.Lib.Raise
import Einsatzcockpit.Lib.Run
import Einsatzcockpit.Lib.Table
import Einsatzcockpit.Basis

/-! Lending of equipment, `verleih_service.py`. -/

namespace Einsatzcockpit.Verleih

open Raising Relational

inductive VerleihStatus where
  | ausgeliehen | zurueckgegeben
  deriving DecidableEq

inductive ArtikelVerfuegbarkeit where
  | verfuegbar | ausgeliehen
  deriving DecidableEq

/-- A row of `verleih_artikel`. -/
structure VerleihArtikel where
  id : Nat
  orgId : Option Nat
  istMengenartikel : Bool := false
  verfuegbarkeit : Option ArtikelVerfuegbarkeit := none
  deriving DecidableEq

/-- A row of `verleih_position`. -/
structure VerleihPosition where
  id : Nat
  ausleiheId : Nat
  orgId : Nat
  artikelId : Option Nat
  bezeichnung : String
  artikelNr : Option String
  menge : Int
  status : VerleihStatus := .ausgeliehen
  zurueckgegebenAt : Option Zeit := none
  deriving DecidableEq

structure AusleiheDaten where
  lageId : Nat
  orgId : Nat
  name : String
  adresse : Option String := none
  telefon : Option String := none
  siteId : Option Nat := none
  userId : Option Nat := none
  pin : Option String := none
  notizen : Option String := none
  quelle : String := "verleih"
  einheitId : Option Nat := none
  createdByName : Option String := none
  deriving DecidableEq

/-- A row of `verleih_ausleihe`. -/
structure VerleihAusleihe where
  id : Nat
  daten : AusleiheDaten
  status : VerleihStatus := .ausgeliehen
  erinnerungGeplantAt : Option Zeit := none
  zurueckgegebenAt : Option Zeit := none
  deriving DecidableEq

structure Db where
  artikel : List VerleihArtikel := []
  ausleihen : List VerleihAusleihe := []
  positionen : List VerleihPosition := []
  deriving DecidableEq

structure Sitzung where
  kontext : Option Nat
  jetzt : Zeit

def Sitzung.sieht (s : Sitzung) (orgId : Option Nat) : Bool := s.kontext.all fun org => orgId == some org

/-- A position of a request; `menge` is what `int` makes of the quantity. -/
structure PositionDaten where
  artikelId : Option Nat := none
  bezeichnung : Option String
  artikelNr : Option String := none
  menge : Except String Int := .ok 1

/-- `_mark_artikel_ausgeliehen` and `_mark_artikel_verfuegbar` -/
def markArtikel (s : Sitzung) (wert : ArtikelVerfuegbarkeit) (artikel : List VerleihArtikel) (artikelId : Option Nat) :
    List VerleihArtikel :=
  match artikelId with
  | none | some 0 => artikel
  | some id => update (fun a => a.id == id && s.sieht a.orgId && !a.istMengenartikel)
      (fun a => { a with verfuegbarkeit := some wert }) artikel

def neuePosition (db : Db) (ausleiheId orgId : Nat) (artikelNr : Option String) (daten : PositionDaten) :
    Except String VerleihPosition := do
  let bezeichnung ← demand daten.bezeichnung "KeyError: bezeichnung"
  let menge ← daten.menge
  require (daten.artikelId.all fun id => db.artikel.any (·.id == id)) "IntegrityError"
  return {
    id := db.positionen.length + 1, ausleiheId, orgId, artikelId := daten.artikelId, bezeichnung, artikelNr, menge }

def addAlle (s : Sitzung) (ausleiheId orgId : Nat) (artikelNr : PositionDaten → Option String) (db : Db)
    (positionen : List PositionDaten) : Except String Db :=
  positionen.foldlM (fun db daten => do
    let position ← neuePosition db ausleiheId orgId (artikelNr daten) daten
    return { db with
      positionen := db.positionen ++ [position]
      artikel := markArtikel s .ausgeliehen db.artikel daten.artikelId }) db

/-- `create_ausleihe`; `erinnerungStunden` is what the settings of the
organisation say. -/
def createAusleihe (s : Sitzung) (db : Db) (daten : AusleiheDaten) (erinnerungStunden : Option Int)
    (positionen : List PositionDaten) : Except String Db :=
  let ausleihe : VerleihAusleihe := {
    id := db.ausleihen.length + 1
    daten := { daten with
      adresse := orNone daten.adresse
      telefon := orNone daten.telefon
      pin := orNone daten.pin
      notizen := orNone daten.notizen }
    erinnerungGeplantAt := (erinnerungStunden.filter (· ≠ 0)).map fun n => s.jetzt + stunden n }
  addAlle s ausleihe.id daten.orgId (·.artikelNr) { db with ausleihen := db.ausleihen ++ [ausleihe] } positionen

/-- `_fetch_ausleihe` -/
def Db.fetchAusleihe (s : Sitzung) (db : Db) (ausleiheId : Nat) : Option VerleihAusleihe :=
  db.ausleihen.find? fun a => a.id == ausleiheId && s.sieht (some a.daten.orgId)

def Db.setAusleihe (db : Db) (id : Nat) (werte : VerleihAusleihe → VerleihAusleihe) : Db :=
  { db with ausleihen := update (fun a => a.id == id) werte db.ausleihen }

def Db.positionenVon (db : Db) (ausleiheId : Nat) : List VerleihPosition :=
  db.positionen.filter fun p => p.ausleiheId == ausleiheId

def VerleihAusleihe.zurueck (jetzt : Zeit) (ausleihe : VerleihAusleihe) : VerleihAusleihe :=
  if ausleihe.status = .zurueckgegeben then ausleihe
  else { ausleihe with status := .zurueckgegeben, zurueckgegebenAt := some jetzt }

def VerleihPosition.zurueck (jetzt : Zeit) (position : VerleihPosition) : VerleihPosition :=
  { position with status := .zurueckgegeben, zurueckgegebenAt := some jetzt }

/-- `return_position` -/
def returnPosition (s : Sitzung) (db : Db) (positionId : Nat) : Except String Db := do
  let position ← demand (db.positionen.find? fun p => p.id == positionId) "Position nicht gefunden"
  let db := { db with
    positionen := update (fun p => p.id == position.id) (·.zurueck s.jetzt) db.positionen
    artikel := markArtikel s .verfuegbar db.artikel position.artikelId }
  let ausleihe ← demand (db.fetchAusleihe s position.ausleiheId) "AttributeError: positionen"
  return if (db.positionenVon ausleihe.id).all (·.status == .zurueckgegeben) then
      db.setAusleihe ausleihe.id (·.zurueck s.jetzt)
    else db

/-- `add_positionen` -/
def addPositionen (s : Sitzung) (db : Db) (ausleiheId orgId : Nat) (positionen : List PositionDaten) :
    Except String Db := do
  let db ← addAlle s ausleiheId orgId (fun daten => orNone daten.artikelNr) db positionen
  let ausleihe ← demand (db.fetchAusleihe s ausleiheId) "AttributeError: status"
  return if ausleihe.status = .zurueckgegeben then
      db.setAusleihe ausleihe.id fun a => { a with status := .ausgeliehen, zurueckgegebenAt := none }
    else db

/-- The loop of `return_all` over the open positions. -/
def alleZurueck (s : Sitzung) (db : Db) (ausleiheId : Nat) : Db :=
  let offen := (db.positionenVon ausleiheId).filter fun p => p.status == VerleihStatus.ausgeliehen
  { db with
    positionen := update (fun p => p.ausleiheId == ausleiheId && p.status == VerleihStatus.ausgeliehen)
      (fun p => p.zurueck s.jetzt) db.positionen
    artikel := (offen.map fun p => p.artikelId).foldl (markArtikel s .verfuegbar) db.artikel }

/-- `return_all` -/
def returnAll (s : Sitzung) (db : Db) (ausleiheId : Nat) : Except String Db := do
  let ausleihe ← demand (db.fetchAusleihe s ausleiheId) "Ausleihe nicht gefunden"
  return (alleZurueck s db ausleihe.id).setAusleihe ausleihe.id (·.zurueck s.jetzt)

inductive Aktion where
  | createAusleihe (daten : AusleiheDaten) (erinnerungStunden : Option Int) (positionen : List PositionDaten)
  | addPositionen (ausleiheId orgId : Nat) (positionen : List PositionDaten)
  | returnPosition (positionId : Nat)
  | returnAll (ausleiheId : Nat)

def ausfuehren (s : Sitzung) (db : Db) : Aktion → Except String Db
  | .createAusleihe daten erinnerungStunden positionen => createAusleihe s db daten erinnerungStunden positionen
  | .addPositionen ausleiheId orgId positionen => addPositionen s db ausleiheId orgId positionen
  | .returnPosition positionId => returnPosition s db positionId
  | .returnAll ausleiheId => returnAll s db ausleiheId

def step (db : Db) (anfrage : Sitzung × Aktion) : Db :=
  match ausfuehren anfrage.1 db anfrage.2 with
  | .ok db => db
  | .error _ => db

end Einsatzcockpit.Verleih
