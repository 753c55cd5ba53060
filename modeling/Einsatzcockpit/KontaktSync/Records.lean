import Einsatzcockpit.Lib.Paging
import Einsatzcockpit.Lib.Run

/-! The feed of the contacts, `kontakt_sync_service.py`, with the transactions of
`kontakt_service.py` that write to it and a client that reads it. -/

namespace Einsatzcockpit.KontaktSync

open Paging

structure KontaktTelefon where
  id : Nat
  nummer : String
  label : Option String
  sort : Nat
  bevorzugt : Bool
  smsEignung : Option Bool
  deriving DecidableEq

/-- The columns of a contact that are published, with its telephone numbers. -/
structure Werte where
  typ : String := "person"
  anzeigename : String
  vorname : Option String := none
  nachname : Option String := none
  funktion : Option String := none
  organisation : Option String := none
  email : Option String := none
  erreichbarkeit : Option String := none
  notizen : Option String := none
  aktiv : Bool := true
  archiviert : Bool := false
  version : Nat := 0
  telefone : List KontaktTelefon := []
  deriving DecidableEq

/-- A row of `kontakt`. -/
structure Kontakt where
  id : Nat
  orgId : Nat
  werte : Werte
  deriving DecidableEq

/-- A row of `objekt_kontakt`. -/
structure ObjektKontakt where
  id : Nat
  orgId : Nat
  kontaktId : Option Nat
  objektId : Nat
  art : String
  sort : Int
  erreichbarkeit : Option String
  einsatzSichtbar : Bool
  deriving DecidableEq

structure ContactPayload where
  id : Nat
  werte : Werte
  deriving DecidableEq

structure MappingPayload where
  id : Nat
  kontaktId : Option Nat
  objektId : Nat
  rolle : String
  sort : Int
  erreichbarkeit : Option String
  einsatzSichtbar : Bool
  deriving DecidableEq

def contactPayload (kontakt : Kontakt) : ContactPayload := { id := kontakt.id, werte := kontakt.werte }

def mappingPayload (mapping : ObjektKontakt) : MappingPayload := {
  id := mapping.id
  kontaktId := mapping.kontaktId
  objektId := mapping.objektId
  rolle := mapping.art
  sort := mapping.sort
  erreichbarkeit := mapping.erreichbarkeit
  einsatzSichtbar := mapping.einsatzSichtbar }

inductive Payload where
  | contact (payload : ContactPayload)
  | mapping (payload : MappingPayload)
  | mergedInto (kontaktId : Nat)
  deriving DecidableEq

inductive Entitaet where
  | kontakt | zuordnung
  deriving DecidableEq

inductive Operation where
  | upsert | tombstone | delete
  deriving DecidableEq

/-- A row of `kontakt_sync_aenderung`. -/
structure KontaktSyncAenderung where
  id : Nat
  orgId : Nat
  entitaet : Entitaet
  entitaetId : Nat
  operation : Operation
  payload : Option Payload := none
  deriving DecidableEq

/-- The committed rows, the autoincrements of the changes and of the contacts,
and what open transactions have flushed, each with the number of its
transaction; a mapping is flushed with whether it remains. -/
structure Db where
  kontakte : List Kontakt := []
  zuordnungen : List ObjektKontakt := []
  aenderungen : List KontaktSyncAenderung := []
  vergeben : Nat := 0
  kontakteVergeben : Nat := 0
  zeilen : List (Nat × Kontakt) := []
  zuordnungsZeilen : List (Nat × ObjektKontakt × Bool) := []
  neu : List (Nat × KontaktSyncAenderung) := []
  deriving DecidableEq

/-- `record_change`, flushed by the transaction `tx`. -/
def recordChange (db : Db) (tx orgId : Nat) (entity : Entitaet) (entityId : Nat) (operation : Operation)
    (payload : Option Payload) : Db :=
  { db with
    vergeben := db.vergeben + 1
    neu := db.neu ++ [(tx, {
      id := db.vergeben + 1, orgId, entitaet := entity, entitaetId := entityId, operation, payload })] }

/-- Another open transaction has written the contact: an `UPDATE` waits. -/
def gesperrt (db : Db) (tx kontaktId : Nat) : Bool :=
  db.zeilen.any fun zeile => zeile.1 != tx && zeile.2.id == kontaktId

/-- The row an `UPDATE` of the transaction meets. -/
def zeile? (db : Db) (kontaktId : Nat) : Option Kontakt :=
  ((db.zeilen.find? fun zeile => zeile.2.id == kontaktId).map (·.2)).or
    (db.kontakte.find? fun kontakt => kontakt.id == kontaktId)

def schreibeZeile (db : Db) (tx : Nat) (kontakt : Kontakt) : Db :=
  { db with zeilen := (tx, kontakt) :: db.zeilen.filter fun zeile => zeile.2.id != kontakt.id }

/-- `create_kontakt` -/
def createKontakt (db : Db) (tx orgId : Nat) (werte : Werte) : Db :=
  let kontakt : Kontakt := { id := db.kontakteVergeben + 1, orgId, werte }
  recordChange (schreibeZeile { db with kontakteVergeben := db.kontakteVergeben + 1 } tx kontakt) tx orgId
    .kontakt kontakt.id .upsert (some (.contact (contactPayload kontakt)))

/-- `update_kontakt`: the columns are set on the object `gelesen` that has been
read, and the `UPDATE` sets them on the row; the payload is that of the object. -/
def updateKontakt (db : Db) (tx : Nat) (gelesen : Kontakt) (setze : Werte → Werte) : Db :=
  match gesperrt db tx gelesen.id, zeile? db gelesen.id with
  | false, some row =>
    recordChange (schreibeZeile db tx { row with werte := setze row.werte }) tx row.orgId .kontakt row.id .upsert
      (some (.contact (contactPayload { gelesen with werte := setze gelesen.werte })))
  | _, _ => db

/-- `archive_kontakt`, and the source of a merge with where it has gone. -/
def archiveKontakt (db : Db) (tx kontaktId : Nat) (setze : Werte → Werte) (mergedInto : Option Nat) : Db :=
  match gesperrt db tx kontaktId, zeile? db kontaktId with
  | false, some row =>
    recordChange (schreibeZeile db tx { row with werte := { setze row.werte with archiviert := true, aktiv := false } })
      tx row.orgId .kontakt row.id .tombstone (mergedInto.map .mergedInto)
  | _, _ => db

def schreibeZuordnung (db : Db) (tx : Nat) (mapping : ObjektKontakt) (bleibt : Bool) : Db :=
  recordChange { db with zuordnungsZeilen := db.zuordnungsZeilen ++ [(tx, mapping, bleibt)] } tx mapping.orgId
    .zuordnung mapping.id (if bleibt then .upsert else .tombstone)
    (if bleibt then some (.mapping (mappingPayload mapping)) else none)

/-- `COMMIT` -/
def commit (db : Db) (tx : Nat) : Db :=
  let rows := (db.zeilen.filter (·.1 == tx)).map (·.2)
  let mappings := (db.zuordnungsZeilen.filter (·.1 == tx)).map (·.2)
  { db with
    kontakte := (db.kontakte.filter fun k => !rows.any (·.id == k.id)) ++ rows
    zuordnungen := mappings.foldl (fun zuordnungen m =>
      let others := zuordnungen.filter (·.id != m.1.id)
      if m.2 then others ++ [m.1] else others) db.zuordnungen
    aenderungen := db.aenderungen ++ (db.neu.filter (·.1 == tx)).map (·.2)
    zeilen := db.zeilen.filter (·.1 != tx)
    zuordnungsZeilen := db.zuordnungsZeilen.filter (·.1 != tx)
    neu := db.neu.filter (·.1 != tx) }

/-- `ROLLBACK` -/
def rollback (db : Db) (tx : Nat) : Db :=
  { db with
    zeilen := db.zeilen.filter (·.1 != tx)
    zuordnungsZeilen := db.zuordnungsZeilen.filter (·.1 != tx)
    neu := db.neu.filter (·.1 != tx) }

structure Snapshot where
  schemaVersion : Nat := 1
  orgId : Nat
  cursor : Nat
  nextPage : Option Nat
  contacts : List ContactPayload
  mappings : List MappingPayload

/-- `snapshot`, in one consistent read of the committed rows -/
def snapshot (db : Db) (orgId after limit : Nat) : Snapshot :=
  let (contacts, hasMore) := page Kontakt.id after limit (db.kontakte.filter (·.orgId == orgId))
  let mappings := db.zuordnungen.filter fun m => m.orgId == orgId && m.kontaktId.isSome
  let maxCursor := ((db.aenderungen.filter (·.orgId == orgId)).map (·.id)).max?
  { orgId
    cursor := maxCursor.getD 0
    nextPage := if hasMore then lastKey Kontakt.id contacts else none
    contacts := contacts.map contactPayload
    mappings := if after = 0 then mappings.map mappingPayload else [] }

structure Ereignis where
  cursor : Nat
  entity : Entitaet
  id : Nat
  operation : Operation
  payload : Option Payload

structure Delta where
  schemaVersion : Nat := 1
  orgId : Nat
  cursor : Nat
  hasMore : Bool
  changes : List Ereignis

def ereignis (change : KontaktSyncAenderung) : Ereignis := {
  cursor := change.id
  entity := change.entitaet
  id := change.entitaetId
  operation := if change.operation = .delete then .tombstone else change.operation
  payload := change.payload }

/-- `delta` -/
def delta (db : Db) (orgId cursor limit : Nat) : Delta :=
  let (changes, hasMore) := page KontaktSyncAenderung.id cursor limit (db.aenderungen.filter (·.orgId == orgId))
  { orgId, cursor := (lastKey KontaktSyncAenderung.id changes).getD cursor, hasMore, changes := changes.map ereignis }

inductive Phase where
  | snapshot (after : Nat)
  | delta
  deriving DecidableEq

/-- The cursor of which page of the snapshot a client goes on from. -/
inductive CursorWahl where
  | ersteSeite | letzteSeite
  deriving DecidableEq

structure Client where
  kontakte : List ContactPayload := []
  cursor : Option Nat := none
  phase : Phase := .snapshot 0
  deriving DecidableEq

def einsetzen (kontakte : List ContactPayload) (payload : ContactPayload) : List ContactPayload :=
  payload :: kontakte.filter (·.id != payload.id)

def anwenden (kontakte : List ContactPayload) (change : Ereignis) : List ContactPayload :=
  match change.entity, change.operation, change.payload with
  | .kontakt, .upsert, some (.contact payload) => einsetzen kontakte payload
  | .kontakt, .tombstone, _ => kontakte.filter (·.id != change.id)
  | _, _, _ => kontakte

def Client.lies (client : Client) (wahl : CursorWahl) (db : Db) (orgId limit : Nat) : Client :=
  match client.phase with
  | .snapshot after =>
    let seite := snapshot db orgId after limit
    { kontakte := seite.contacts.foldl einsetzen client.kontakte
      cursor := match wahl with
        | .ersteSeite => some (client.cursor.getD seite.cursor)
        | .letzteSeite => some seite.cursor
      phase := match seite.nextPage with
        | some after => .snapshot after
        | none => .delta }
  | .delta =>
    let seite := delta db orgId (client.cursor.getD 0) limit
    { client with kontakte := seite.changes.foldl anwenden client.kontakte, cursor := some seite.cursor }

structure Welt where
  db : Db
  client : Client := {}
  deriving DecidableEq

inductive Aktion where
  | create (tx orgId : Nat) (werte : Werte)
  | update (tx : Nat) (gelesen : Kontakt) (setze : Werte → Werte)
  | archive (tx kontaktId : Nat) (setze : Werte → Werte) (mergedInto : Option Nat)
  | zuordnung (tx : Nat) (mapping : ObjektKontakt) (bleibt : Bool)
  | commit (tx : Nat)
  | rollback (tx : Nat)
  | lies (limit : Nat)

/-- A step of a transaction, or of a client of the organisation; a limit out of
bounds is answered with an error. -/
def step (orgId : Nat) (wahl : CursorWahl) (welt : Welt) : Aktion → Welt
  | .create tx org werte => { welt with db := createKontakt welt.db tx org werte }
  | .update tx gelesen setze => { welt with db := updateKontakt welt.db tx gelesen setze }
  | .archive tx kontaktId setze mergedInto => { welt with db := archiveKontakt welt.db tx kontaktId setze mergedInto }
  | .zuordnung tx mapping bleibt => { welt with db := schreibeZuordnung welt.db tx mapping bleibt }
  | .commit tx => { welt with db := commit welt.db tx }
  | .rollback tx => { welt with db := rollback welt.db tx }
  | .lies limit =>
    if 1 ≤ limit ∧ limit ≤ 500 then { welt with client := welt.client.lies wahl welt.db orgId limit } else welt

end Einsatzcockpit.KontaktSync
