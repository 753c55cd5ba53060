import Einsatzcockpit.Basis
import Einsatzcockpit.Lib.Run
import Einsatzcockpit.Lib.Unique

namespace Einsatzcockpit.Einheit

/-- `Quelle` -/
inductive Quelle where
  | tablet | funk | mcp | simulation | zugang | benutzer
  deriving DecidableEq

inductive Ergebnis where
  | ok | konflikt

def Ergebnis.status : Ergebnis → Nat
  | ok => 200
  | konflikt => 409

inductive Skalar where
  | null
  | bool (wert : Bool)
  | zahl (wert : Int)
  | text (wert : String)
  deriving DecidableEq

inductive Wert where
  | skalar (wert : Skalar)
  | objekt (felder : List (String × Skalar))
  deriving DecidableEq

abbrev Antwort := List (String × Wert)

/-- `antwort.get(name)` -/
def Antwort.get (antwort : Antwort) (name : String) : Option Wert :=
  (antwort.find? fun feld => feld.1 == name).map (·.2)

/-- `antwort[name] = wert` -/
def Antwort.setze (antwort : Antwort) (name : String) (wert : Wert) : Antwort :=
  if antwort.any fun feld => feld.1 == name then
    antwort.map fun feld => if feld.1 == name then (name, wert) else feld
  else antwort ++ [(name, wert)]

/-- The parts of `EinheitKontext` that name the caller, and the tenant of its
session, where none stands for the mode without a filter. -/
structure EinheitKontext where
  deviceToken : Option Nat := none
  zugang : Option Nat := none
  einheit : Nat
  orgId : Nat
  quelle : Quelle
  simulation : Bool := false
  mandant : Option Nat
  deriving DecidableEq

/-- A row of `einheit_aktion`. -/
structure EinheitAktion where
  id : Nat
  clientUuid : String
  orgId : Nat
  quelle : Quelle
  deviceTokenId : Option Nat
  zugangId : Option Nat
  einheitId : Nat
  dispatchId : Option Nat
  aktion : String
  ergebnis : Ergebnis
  entityType : Option Wert
  entityId : Option Wert
  antwortJson : Option Antwort
  erfasstAt : Option Zeit
  empfangenAt : Zeit

/-- The arguments of `fuehre_aktion_aus`, the callback apart. -/
structure Anfrage where
  ctx : EinheitKontext
  clientUuid : String
  aktion : String
  erfasstAt : Option Zeit := none
  dispatchId : Option Nat
  deriving DecidableEq

/-- The text without the occurrences of a part, the rest of one being skipped. -/
def ohne (teil : List Char) : Nat → List Char → List Char
  | _, [] => []
  | 0, c :: rest =>
    if teil.isPrefixOf (c :: rest) then ohne teil (teil.length - 1) rest else c :: ohne teil 0 rest
  | n + 1, _ :: rest => ohne teil n rest

/-- `UUID(text)` does not raise: 32 hexadecimal digits are left without the URN
prefix, the braces and the hyphens. -/
def istUuid (text : String) : Bool :=
  let rest := ohne "uuid:".toList 0 (ohne "urn:".toList 0 text.toList)
  let geklammert := fun c => c == '{' || c == '}'
  let innen := ((rest.dropWhile geklammert).reverse.dropWhile geklammert).reverse
  let ziffern := innen.filter (· != '-')
  ziffern.length == 32 && ziffern.all fun c => c.isDigit || ('a' ≤ c && c ≤ 'f') || ('A' ≤ c && c ≤ 'F')

/-- `_aktion_passt` -/
def aktionPasst (row : EinheitAktion) (ctx : EinheitKontext) (dispatchId : Option Nat) (aktion : String) : Bool :=
  if row.orgId ≠ ctx.orgId ∨ row.einheitId ≠ ctx.einheit ∨ row.dispatchId ≠ dispatchId ∨ row.aktion ≠ aktion ∨
      row.quelle ≠ ctx.quelle then false
  else if ctx.simulation ∨ ctx.quelle = .benutzer then true
  else row.deviceTokenId == ctx.deviceToken && row.zugangId == ctx.zugang

def vorhandene (rows : List EinheitAktion) (anfrage : Anfrage) : Option EinheitAktion :=
  rows.find? fun row =>
    anfrage.ctx.mandant.all (row.orgId == ·) && row.clientUuid == anfrage.clientUuid

def vergeben : Antwort × Nat := ([("code", .skalar (.text "client_uuid_vergeben"))], 409)

def wiedergabe (row : EinheitAktion) (anfrage : Anfrage) : Antwort × Nat :=
  if aktionPasst row anfrage.ctx anfrage.dispatchId anfrage.aktion then
    (row.antwortJson.getD [], row.ergebnis.status)
  else vergeben

section Zustand

variable (σ : Type*)

inductive Ausgang where
  | antwort (antwort : Antwort)
  | konflikt (code : String) (details : List (String × Skalar))
  | fehler

/-- One run of the callback: what it committed itself, what it left in the
transaction and how it ended. -/
structure Ausfuehrung where
  selbst : List (σ → σ) := []
  wirkung : σ → σ
  ausgang : Ausgang

inductive Sitzung where
  | frei
  | bereit (anfrage : Anfrage)
  | ausgefuehrt (anfrage : Anfrage) (antwort : Antwort) (ergebnis : Ergebnis) (wirkung : σ → σ)
  | geschrieben (anfrage : Anfrage) (wirkung : σ → σ)
  | kollidiert (anfrage : Anfrage)

/-- A change that was committed, by a request or from elsewhere. -/
structure Buchung where
  anfrage : Option Anfrage
  wirkung : σ → σ

/-- The database with its transactions, and the answers given so far. -/
structure Welt where
  db : σ
  aktionen : Unique.Table EinheitAktion := {}
  naechsteId : Nat := 1
  sitzungen : Nat → Sitzung σ := fun _ => .frei
  buchungen : List (Buchung σ) := []
  antworten : List (Anfrage × Antwort × Nat) := []

end Zustand

variable {σ : Type*}

def Welt.setze (welt : Welt σ) (s : Nat) (sitzung : Sitzung σ) : Welt σ :=
  { welt with sitzungen := Function.update welt.sitzungen s sitzung }

def Welt.antworte (welt : Welt σ) (anfrage : Anfrage) (antwort : Antwort × Nat) : Welt σ :=
  { welt with antworten := welt.antworten ++ [(anfrage, antwort)] }

def Welt.buche (welt : Welt σ) (anfrage : Option Anfrage) (wirkung : σ → σ) : Welt σ :=
  { welt with db := wirkung welt.db, buchungen := welt.buchungen ++ [{ anfrage, wirkung }] }

def beginne (s : Nat) (anfrage : Anfrage) (welt : Welt σ) : Welt σ :=
  if !istUuid anfrage.clientUuid then welt
  else
    match vorhandene welt.aktionen.rows anfrage with
    | some row => welt.antworte anfrage (wiedergabe row anfrage)
    | none => welt.setze s (.bereit anfrage)

/-- `ausfuehren()`; what else it raises ends the transaction. -/
def fuehreAus (s : Nat) (anfrage : Anfrage) (ausfuehrung : Ausfuehrung σ) (welt : Welt σ) : Welt σ :=
  let welt := ausfuehrung.selbst.foldl (fun welt wirkung => welt.buche (some anfrage) wirkung) welt
  match ausfuehrung.ausgang with
  | .antwort antwort => welt.setze s (.ausgefuehrt anfrage antwort .ok ausfuehrung.wirkung)
  | .konflikt code details =>
    let antwort : Antwort := [("code", .skalar (.text code))]
    let antwort := if details = [] then antwort else antwort.setze "details" (.objekt details)
    welt.setze s (.ausgefuehrt anfrage antwort .konflikt ausfuehrung.wirkung)
  | .fehler => welt.setze s .frei

def zeile (now : Zeit) (id : Nat) (anfrage : Anfrage) (antwort : Antwort) (ergebnis : Ergebnis) : EinheitAktion :=
  { id
    clientUuid := anfrage.clientUuid
    orgId := anfrage.ctx.orgId
    quelle := anfrage.ctx.quelle
    deviceTokenId := anfrage.ctx.deviceToken
    zugangId := anfrage.ctx.zugang
    einheitId := anfrage.ctx.einheit
    dispatchId := anfrage.dispatchId
    aktion := anfrage.aktion
    ergebnis
    entityType := antwort.get "entity_type"
    entityId := antwort.get "entity_id"
    antwortJson := some (antwort.setze "aktion_id" (.skalar (.zahl id)))
    erfasstAt := anfrage.erfasstAt
    empfangenAt := now }

/-- `db.flush()` and the answer with the id of the row; the insertion waits for
another transaction that holds the id of the request. -/
def schreibe (s : Nat) (now : Zeit) (anfrage : Anfrage) (antwort : Antwort) (ergebnis : Ergebnis) (wirkung : σ → σ)
    (welt : Welt σ) : Welt σ :=
  let row := zeile now welt.naechsteId anfrage antwort ergebnis
  match welt.aktionen.insert (·.clientUuid) s row with
  | (.inserted, aktionen) =>
    { welt with aktionen, naechsteId := welt.naechsteId + 1 }.setze s (.geschrieben anfrage wirkung)
  | (.duplicate, _) => { welt with naechsteId := welt.naechsteId + 1 }.setze s (.kollidiert anfrage)
  | (.waiting, _) => welt

/-- `db.commit()` -/
def schliesseAb (s : Nat) (anfrage : Anfrage) (wirkung : σ → σ) (welt : Welt σ) : Welt σ :=
  match welt.aktionen.row? s with
  | none => welt
  | some row =>
    let welt := { welt with aktionen := welt.aktionen.commit s }.buche (some anfrage) wirkung
    (welt.antworte anfrage (row.antwortJson.getD [], row.ergebnis.status)).setze s .frei

/-- The answer of the one who lost; without a row it sees the error is raised again. -/
def wiederhole (s : Nat) (anfrage : Anfrage) (welt : Welt σ) : Welt σ :=
  match vorhandene welt.aktionen.rows anfrage with
  | some row => (welt.antworte anfrage (wiedergabe row anfrage)).setze s .frei
  | none => welt.setze s .frei

def verwirf (s : Nat) (sitzung : Sitzung σ) (welt : Welt σ) : Welt σ :=
  { welt with aktionen := welt.aktionen.rollback s }.setze s sitzung

/-- The transaction of an endpoint that writes its row without `fuehre_aktion_aus`. -/
def schreibeFremd (s : Nat) (row : EinheitAktion) (wirkung : σ → σ) (welt : Welt σ) : Welt σ :=
  match welt.aktionen.insert (·.clientUuid) s row with
  | (.inserted, aktionen) => { welt with aktionen := aktionen.commit s }.buche none wirkung
  | _ => welt

inductive Schritt (σ : Type*) where
  | beginne (s : Nat) (anfrage : Anfrage)
  | fuehreAus (s : Nat) (ausfuehrung : Ausfuehrung σ)
  | schreibe (s : Nat) (now : Zeit)
  | schliesseAb (s : Nat)
  | verletzt (s : Nat)
  | wiederhole (s : Nat)
  | abbruch (s : Nat)
  | fremd (s : Nat) (row : EinheitAktion) (wirkung : σ → σ)
  | umwelt (wirkung : σ → σ)

def step (welt : Welt σ) : Schritt σ → Welt σ
  | .beginne s anfrage =>
    match welt.sitzungen s with
    | .frei => beginne s anfrage welt
    | _ => welt
  | .fuehreAus s ausfuehrung =>
    match welt.sitzungen s with
    | .bereit anfrage => fuehreAus s anfrage ausfuehrung welt
    | _ => welt
  | .schreibe s now =>
    match welt.sitzungen s with
    | .ausgefuehrt anfrage antwort ergebnis wirkung => schreibe s now anfrage antwort ergebnis wirkung welt
    | _ => welt
  | .schliesseAb s =>
    match welt.sitzungen s with
    | .geschrieben anfrage wirkung => schliesseAb s anfrage wirkung welt
    | _ => welt
  -- another constraint than the id of the request
  | .verletzt s =>
    match welt.sitzungen s with
    | .ausgefuehrt anfrage _ _ _ => verwirf s (.kollidiert anfrage) welt
    | .geschrieben anfrage _ => verwirf s (.kollidiert anfrage) welt
    | _ => welt
  | .wiederhole s =>
    match welt.sitzungen s with
    | .kollidiert anfrage => wiederhole s anfrage welt
    | _ => welt
  | .abbruch s => verwirf s .frei welt
  | .fremd s row wirkung =>
    match welt.sitzungen s with
    | .frei => schreibeFremd s row wirkung welt
    | _ => welt
  | .umwelt wirkung => welt.buche none wirkung

end Einsatzcockpit.Einheit
