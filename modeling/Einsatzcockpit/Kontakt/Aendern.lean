import Einsatzcockpit.Kontakt.Records

namespace Einsatzcockpit.Kontakt

open Relational Raising
open KontaktSync (Payload)

inductive Wert where
  | nichts
  | wahr (b : Bool)
  | zahl (n : Int)
  | text (s : String)

/-- `daten`; a field without an entry is left as it is. -/
structure Daten where
  texte : Feld → Option (Option String) := fun _ => none
  einsatzrelevant : Option Wert := none
  druckFreigegeben : Option Wert := none
  druckPrioritaet : Option Wert := none
  druckhinweis : Option Wert := none
  druckSortierung : Option Wert := none
  aktiv : Option Wert := none

structure TelefonEingabe where
  nummer : String
  label : Option String := none
  verwendung : Option String := none
  typ : Option String := none
  aktiv : Option Bool := none
  bevorzugt : Bool := false
  smsEignung : Option Bool := none

/-- `bereinigter_text` of a text -/
def bereinigterText (wert : String) : Option String :=
  let wert := strip wert
  if wert = "" ∨ wert.toLower ∈ ["none", "null"] then none else some wert

def kennzeichen (alt : Bool) : Option Wert → Except Fehler Bool
  | none => pure alt
  | some (.wahr b) => pure b
  | some _ => throw (.wert "Kennzeichnungen müssen boolesche Werte sein.")

def prioritaet (alt : String) : Option Wert → Except Fehler String
  | none => pure alt
  | some (.text s) =>
    if s ∈ ["hoch", "normal", "niedrig"] then pure s else throw (.wert "Priorität muss hoch, normal oder niedrig sein.")
  | some _ => throw (.wert "Priorität muss hoch, normal oder niedrig sein.")

def hinweis (alt : Option String) : Option Wert → Except Fehler (Option String)
  | none => pure alt
  | some .nichts => pure none
  | some (.text s) =>
    if s.length ≤ 500 then pure (some s) else throw (.wert "Druckhinweis darf höchstens 500 Zeichen enthalten.")
  | some _ => throw (.wert "Druckhinweis darf höchstens 500 Zeichen enthalten.")

def sortierung (alt : Int) : Option Wert → Except Fehler Int
  | none => pure alt
  | some (.zahl n) =>
    if -2147483648 ≤ n ∧ n ≤ 2147483647 then pure n else throw (.wert "Sortierung muss eine gültige ganze Zahl sein.")
  | some _ => throw (.wert "Sortierung muss eine gültige ganze Zahl sein.")

/-- `_werte` -/
def werte (zeile : Zeile) (daten : Daten) (userId : Option Nat) : Except Fehler Zeile := do
  let zeile := Feld.alle.foldl (fun zeile feld =>
    match daten.texte feld with
    | none => zeile
    | some wert => zeile.setText (wert.bind bereinigterText) feld) zeile
  require (zeile.typ ∈ ["person", "stelle"]) (.wert "Ungueltiger Kontakttyp")
  let anzeigename := if zeile.anzeigename = "" then
      strip (String.intercalate " " ([zeile.nachname, zeile.vorname].filterMap orNone))
    else zeile.anzeigename
  require (anzeigename ≠ "") (.wert "Bitte einen Anzeigenamen eingeben")
  let einsatzrelevant ← kennzeichen zeile.einsatzrelevant daten.einsatzrelevant
  let druckFreigegeben ← kennzeichen zeile.druckFreigegeben daten.druckFreigegeben
  let druckPrioritaet ← prioritaet zeile.druckPrioritaet daten.druckPrioritaet
  let druckhinweis ← hinweis zeile.druckhinweis daten.druckhinweis
  let druckSortierung ← sortierung zeile.druckSortierung daten.druckSortierung
  let aktiv ← kennzeichen zeile.aktiv daten.aktiv
  pure { zeile with
    anzeigename, einsatzrelevant, druckFreigegeben, druckPrioritaet, druckhinweis, druckSortierung, aktiv
    aktualisiertVonId := userId }

/-- `telefon_normalisiert` -/
def telefonNormalisiert (nummer : String) : String := String.ofList (Fuehrung.telefonNormalisiert nummer)

/-- `ist_oesterreichische_mobilnummer` -/
def istOesterreichischeMobilnummer (nummer : String) : Bool :=
  let vorwahl := match Fuehrung.telefonNormalisiert nummer with
    | '+' :: '4' :: '3' :: rest => rest.take 3
    | '0' :: rest => rest.take 3
    | _ => []
  let n := vorwahl.foldl (fun n c => 10 * n + (c.toNat - '0'.toNat)) 0
  vorwahl ≠ [] && vorwahl.all Char.isDigit &&
    (n ∈ [650, 651, 652, 653, 655, 657] || (659 ≤ n && n ≤ 661) || (663 ≤ n && n ≤ 699))

/-- The row a line of the list becomes; what it leaves open stays as the number
had it. -/
def neuesTelefon (bisher : List Telefon) (kontaktId index : Nat) (zeile : TelefonEingabe) : Telefon :=
  let alt := bisher.reverse.find? fun p => p.nummerNormalisiert = telefonNormalisiert zeile.nummer
  { id := 0
    kontaktId
    nummer := strip zeile.nummer
    nummerNormalisiert := telefonNormalisiert (strip zeile.nummer)
    label := orNone (some (strip (zeile.label.getD "")))
    sort := index
    bevorzugt := zeile.bevorzugt
    smsEignung := zeile.smsEignung.or (if istOesterreichischeMobilnummer zeile.nummer then some true else none)
    typ := (zeile.typ.or (alt.map (·.typ))).getD "sonstige"
    verwendung := (zeile.verwendung.or (alt.map (·.verwendung))).getD "dienst"
    aktiv := (zeile.aktiv.or (alt.map (·.aktiv))).getD true }

/-- `_telefone_sync`: the new collection, not yet written. -/
def telefoneSync (bisher : List Telefon) (kontaktId : Nat) (telefone : List TelefonEingabe) :
    Except Fehler (List Telefon) := do
  let zeilen := telefone.filter fun zeile => strip zeile.nummer ≠ ""
  require (zeilen.length ≤ 20) (.wert "Hoechstens 20 Telefonnummern sind erlaubt")
  pure (zeilen.mapIdx (neuesTelefon bisher kontaktId))

def kategorieHolen (orgId : Nat) (state : Keyed Kategorie.id × List Nat) (name : String) : Keyed Kategorie.id × List Nat :=
  match state.1.rows.find? fun kategorie => kategorie.name = name && kategorie.orgId = orgId with
  | some kategorie => (state.1, state.2 ++ [kategorie.id])
  | none => (state.1.insert (fun id => { id, orgId, name }) fun _ => rfl, state.2 ++ [state.1.last + 1])

/-- The flush of `_kategorien_sync`: the rows of the contact that its collection
no longer shows are deleted, the new ones are given their numbers. -/
def telefoneSchreiben (table : Keyed Telefon.id) (kontaktId : Nat) (neu : List Telefon) : Keyed Telefon.id :=
  let geloescht := (table.rows.filter (·.kontaktId = kontaktId)).foldl (fun table p => table.delete p.id) table
  neu.foldl (fun table p => table.insert (fun id => { p with id }) fun _ => rfl) geloescht

def nummeriert (last : Nat) (neu : List Telefon) : List Telefon :=
  neu.mapIdx fun i p => { p with id := last + 1 + i }

/-- `_kategorien_sync` -/
def kategorienSync (db : Db) (orgId kontaktId : Nat) (namen : List String) : Db :=
  let bereinigt := ((namen.map strip).filter (· ≠ "")).eraseDups
  let (kategorien, ids) := bereinigt.foldl (kategorieHolen orgId) (db.kategorien, [])
  let geloescht := (db.zuordnungen.rows.filter (·.kontaktId = kontaktId)).foldl (fun table z => table.delete z.id)
    db.zuordnungen
  { db with
    kategorien
    zuordnungen := ids.foldl (fun table kategorieId => table.insert (fun id => { id, kontaktId, kategorieId }) fun _ => rfl)
      geloescht }

/-- `update_kontakt` -/
def updateKontakt (db : Db) (kontaktId : Nat) (daten : Daten) (telefone : List TelefonEingabe) (kategorien : List String)
    (version orgId : Nat) (userId : Option Nat) : Except Fehler Db := do
  let kontakt ← demand (getKontakt db kontaktId true) .kontaktNichtGefunden
  require (kontakt.zeile.version = version) .konflikt
  let zeile ← werte kontakt.zeile daten userId
  let neu ← telefoneSync kontakt.telefone kontaktId telefone
  let db' := kategorienSync { db with telefone := telefoneSchreiben db.telefone kontaktId neu } orgId kontaktId kategorien
  let kontakt : Objekt :=
    { zeile := { zeile with version := zeile.version + 1 }, telefone := nummeriert db.telefone.last neu }
  pure (recordChange (zeileSchreiben db' kontakt.zeile) orgId kontaktId .upsert
    (some (.contact (contactPayload kontakt))))

/-- `archive_kontakt` -/
def archiveKontakt (db : Db) (kontaktId : Nat) (userId : Option Nat) : Except Fehler Db := do
  let kontakt ← demand (getKontakt db kontaktId false) .kontaktNichtGefunden
  let zeile := { kontakt.zeile with
    archiviert := true, aktiv := false, aktualisiertVonId := userId, version := kontakt.zeile.version + 1 }
  pure (recordChange (zeileSchreiben db zeile) zeile.orgId kontaktId .tombstone none)

end Einsatzcockpit.Kontakt
