import Einsatzcockpit.Lib.Absorb
import Einsatzcockpit.Kontakt.Records

namespace Einsatzcockpit.Kontakt

open Relational Raising
open KontaktSync (Payload)

/-- The roles in the session of a merge: `beimZiel` are the roles that the
database shows with the target, as of the last flush. -/
structure Rollenlauf where
  rollen : List Rolle
  beimZiel : List Nat
  konflikte : List String := []

/-- An approval of the source's role meets the collection of the target's. Its
key is unique there. -/
def freigabeUmhaengen (state : Rolle × List String) (freigabe : Freigabe) : Rolle × List String :=
  match state.1.freigaben.find? fun v => v.schluessel = freigabe.schluessel with
  | none => ({ state.1 with zugezogen := state.1.zugezogen ++ [freigabe] }, state.2)
  | some vorhanden =>
    if vorhanden.aktiv = freigabe.aktiv then state
    else
      ({ state.1 with
          freigaben := state.1.freigaben.map fun v =>
            if v.schluessel = freigabe.schluessel then { v with aktiv := false } else v },
        state.2 ++ ["Objektkontakt " ++ toString state.1.id ++ ": " ++ freigabe.kanal ++ " " ++ freigabe.zielWert ++
          " wurde wegen widerspruechlicher Freigaben deaktiviert."])

/-- The query for a role of the target at the same object and of the same kind. -/
def Rollenlauf.gleich? (state : Rollenlauf) (zuordnung : Rolle) : Option Rolle :=
  state.rollen.find? fun r => r.id ∈ state.beimZiel && r.schluessel = zuordnung.schluessel

def Rollenlauf.Eindeutig (state : Rollenlauf) : Prop := ∀ r ∈ state.rollen, r.Eindeutig

instance (state : Rollenlauf) : Decidable state.Eindeutig := by unfold Rollenlauf.Eindeutig; infer_instance

/-- The approvals of `zuordnung` are hung on `gleich`, up to the flush. -/
def freigabenUmhaengen (ziel : Nat) (state : Rollenlauf) (gleich zuordnung : Rolle) : Rollenlauf :=
  let rollen := state.rollen.map fun r =>
    if r.id = gleich.id then (zuordnung.freigaben.foldl freigabeUmhaengen (r, [])).1
    else if r.id = zuordnung.id then { r with freigaben := [] }
    else r
  { rollen
    beimZiel := (rollen.filter (·.kontaktId = ziel)).map (·.id)
    konflikte := state.konflikte ++ (zuordnung.freigaben.foldl freigabeUmhaengen (gleich, [])).2 }

def protokollUmhaengen (state : Rollenlauf) (gleich zuordnung : Rolle) : Rollenlauf :=
  { state with
    rollen := (state.rollen.filter (·.id ≠ zuordnung.id)).map fun r =>
      if r.id = gleich.id then
        { r with benachrichtigungen := r.benachrichtigungen ++
            zuordnung.benachrichtigungen.filter (·.orgId = zuordnung.orgId) }
      else r }

def rolleUmhaengen (ziel : Nat) (state : Rollenlauf) (zuordnung : Rolle) : Except Fehler Rollenlauf :=
  match state.gleich? zuordnung with
  | none => pure { state with
      rollen := state.rollen.map fun r => if r.id = zuordnung.id then { r with kontaktId := ziel } else r }
  | some gleich => do
    let geflusht := freigabenUmhaengen ziel state gleich zuordnung
    require geflusht.Eindeutig .integritaet
    pure (protokollUmhaengen geflusht gleich zuordnung)

def rollenBeginn (db : Db) (ziel : Nat) : Rollenlauf where
  rollen := db.rollen
  beimZiel := (db.rollen.filter (·.kontaktId = ziel)).map (·.id)

def rollenUmhaengen (db : Db) (quelle ziel : Nat) : Except Fehler Rollenlauf := do
  let state ← (db.rollen.filter (·.kontaktId = quelle)).foldlM (rolleUmhaengen ziel) (rollenBeginn db ziel)
  require state.Eindeutig .integritaet
  pure state

/-- `str.rstrip()` -/
def rstrip (s : String) : String := String.ofList (s.toList.reverse.dropWhile isSpace).reverse

def Zeile.Verwendbar (zeile : Zeile) : Prop := zeile.archiviert = false ∧ zeile.aktiv = true

instance (zeile : Zeile) : Decidable zeile.Verwendbar := by unfold Zeile.Verwendbar; infer_instance

def telefoneUmhaengen (db : Db) (quelle ziel : Objekt) : Keyed Telefon.id :=
  let nextSort := (ziel.telefone.map (·.sort + 1)).foldl max 0
  db.telefone.absorb (·.nummerNormalisiert) (fun n p => { p with kontaktId := ziel.zeile.id, sort := nextSort + n })
    (fun _ _ => rfl) (ziel.telefone.map (·.nummerNormalisiert)) 0 quelle.telefone

def kategorienUmhaengen (db : Db) (quelle ziel : Nat) : Keyed Zuordnung.id :=
  db.zuordnungen.absorb (·.kategorieId) (fun _ z => { z with kontaktId := ziel }) (fun _ _ => rfl)
    ((db.zuordnungen.rows.filter (·.kontaktId = ziel)).map (·.kategorieId)) 0
    (db.zuordnungen.rows.filter (·.kontaktId = quelle))

def anhaengeUmhaengen (db : Db) (quelle ziel : Nat) : Keyed Anhang.id :=
  db.anhaenge.map (fun a => if a.kontaktId = quelle then { a with kontaktId := ziel } else a) fun a => by
    split <;> rfl

def referenzenUmhaengen (db : Db) (quelle ziel : Nat) : Keyed Referenz.id :=
  db.referenzen.absorb Referenz.schluessel (fun _ ref => { ref with kontaktId := ziel }) (fun _ _ => rfl)
    ((db.referenzen.rows.filter (·.kontaktId = ziel)).map Referenz.schluessel) 0
    (db.referenzen.rows.filter (·.kontaktId = quelle))

/-- `zeit` is the clock as the note shows it. -/
def mergeHinweis (ziel : Nat) (zeit : String) : String :=
  "Zusammengefuehrt nach Kontakt #" ++ toString ziel ++ " am " ++ zeit ++ "."

def archivierteQuelle (zeile : Zeile) (ziel : Nat) (userId : Option Nat) (zeit : String) : Zeile :=
  { zeile with
    notizen := some (match orNone zeile.notizen with
      | some notizen => rstrip notizen ++ "\n" ++ mergeHinweis ziel zeit
      | none => mergeHinweis ziel zeit)
    archiviert := true
    aktiv := false
    aktualisiertVonId := userId
    version := zeile.version + 1 }

def gewaehlteFelder (feldwahl : Feld → String) (quelle ziel : Zeile) : Zeile :=
  Feld.alle.foldl (fun zeile feld =>
    if feldwahl feld = "quelle" then zeile.setText (quelle.text feld) feld else zeile) ziel

def zielNach (feldwahl : Feld → String) (quelle ziel : Zeile) (userId : Option Nat) : Zeile :=
  let zeile := gewaehlteFelder feldwahl quelle ziel
  { zeile with aktualisiertVonId := userId, version := zeile.version + 1 }

/-- The rows that a merge writes. The published target has the numbers its
collection had before. -/
def nachMerge (db : Db) (quelle ziel : Objekt) (feldwahl : Feld → String) (userId : Option Nat) (zeit : String)
    (rollen : List Rolle) : Db :=
  let zielZeile := zielNach feldwahl quelle.zeile ziel.zeile userId
  let geschrieben : Db := { db with
    telefone := telefoneUmhaengen db quelle ziel
    zuordnungen := kategorienUmhaengen db quelle.zeile.id ziel.zeile.id
    anhaenge := anhaengeUmhaengen db quelle.zeile.id ziel.zeile.id
    referenzen := referenzenUmhaengen db quelle.zeile.id ziel.zeile.id
    rollen }
  let geschrieben := zeileSchreiben (zeileSchreiben geschrieben
    (archivierteQuelle quelle.zeile ziel.zeile.id userId zeit)) zielZeile
  let gemeldet := recordChange geschrieben zielZeile.orgId ziel.zeile.id .upsert
    (some (.contact (contactPayload { ziel with zeile := zielZeile })))
  recordChange gemeldet zielZeile.orgId quelle.zeile.id .tombstone (some (.mergedInto ziel.zeile.id))

/-- `merge_kontakte`: the database after it, and the conflicts it reports. -/
def mergeKontakte (db : Db) (quelleId zielId : Nat) (feldwahl : Feld → String) (userId : Option Nat) (zeit : String) :
    Except Fehler (Db × List String) := do
  require (quelleId ≠ zielId) (.wert "Quelle und Ziel muessen verschieden sein")
  let quelle ← demand (getKontakt db quelleId true) .kontaktNichtGefunden
  let ziel ← demand (getKontakt db zielId true) .kontaktNichtGefunden
  require (quelle.zeile.Verwendbar ∧ ziel.zeile.Verwendbar)
    (.wert "Nur aktive, nicht archivierte Kontakte koennen zusammengefuehrt werden")
  require (quelle.zeile.orgId = ziel.zeile.orgId) (.wert "Kontakte gehoeren nicht zur selben Organisation")
  let lauf ← rollenUmhaengen db quelleId zielId
  pure (nachMerge db quelle ziel feldwahl userId zeit lauf.rollen, lauf.konflikte)

section Lemmas

variable {db : Db} {k quelleId zielId : Nat} {quelle ziel : Objekt} {feldwahl : Feld → String} {userId : Option Nat}
  {zeit : String}

theorem getKontakt_eq_some {includeArchiviert : Bool} {kontakt : Objekt} (found : getKontakt db k includeArchiviert = some kontakt) :
    db.kontakte.get? k = some kontakt.zeile ∧ kontakt.zeile.id = k ∧ kontakt.telefone = telefoneVon db k := by
  obtain ⟨zeile, kept, rfl⟩ := Option.map_eq_some_iff.mp found
  have there := (Option.filter_eq_some_iff.mp kept).1
  exact ⟨there, Keyed.key_of_get? there, by rw [Keyed.key_of_get? there]⟩

theorem setText_id (zeile : Zeile) (wert : Option String) (feld : Feld) : (zeile.setText wert feld).id = zeile.id := by
  cases feld <;> rfl

theorem foldl_setText_id {zeile : Zeile} {felder : List Feld} {f : Zeile → Feld → Zeile}
    (keeps : ∀ zeile feld, (f zeile feld).id = zeile.id) : (felder.foldl f zeile).id = zeile.id := by
  induction felder generalizing zeile with
  | nil => rfl
  | cons feld felder ih => rw [List.foldl_cons, ih, keeps]

theorem zielNach_id (feldwahl : Feld → String) (quelle ziel : Zeile) (userId : Option Nat) :
    (zielNach feldwahl quelle ziel userId).id = ziel.id := by
  refine foldl_setText_id fun zeile feld => ?_
  split
  · exact setText_id _ _ _
  · rfl

structure Angenommen (db : Db) (quelleId zielId : Nat) (quelle ziel : Objekt) : Prop where
  verschieden : quelleId ≠ zielId
  istQuelle : getKontakt db quelleId true = some quelle
  istZiel : getKontakt db zielId true = some ziel
  verwendbar : quelle.zeile.Verwendbar ∧ ziel.zeile.Verwendbar
  org : quelle.zeile.orgId = ziel.zeile.orgId

theorem mergeKontakte_eq_ok {ergebnis : Db × List String} :
    mergeKontakte db quelleId zielId feldwahl userId zeit = .ok ergebnis ↔
      ∃ quelle ziel lauf, Angenommen db quelleId zielId quelle ziel ∧ rollenUmhaengen db quelleId zielId = .ok lauf ∧
        ergebnis = (nachMerge db quelle ziel feldwahl userId zeit lauf.rollen, lauf.konflikte) := by
  simp only [mergeKontakte, bind_eq_ok, pure_eq_ok, demand_eq_ok, require_eq_ok]
  constructor
  · rintro ⟨-, apart, quelle, isQuelle, ziel, isZiel, -, usable, -, org, lauf, ran, rfl⟩
    exact ⟨quelle, ziel, lauf, ⟨apart, isQuelle, isZiel, usable, org⟩, ran, rfl⟩
  · rintro ⟨quelle, ziel, lauf, ⟨apart, isQuelle, isZiel, usable, org⟩, ran, rfl⟩
    exact ⟨(), apart, quelle, isQuelle, ziel, isZiel, (), usable, (), org, lauf, ran, rfl⟩

end Lemmas

end Einsatzcockpit.Kontakt
