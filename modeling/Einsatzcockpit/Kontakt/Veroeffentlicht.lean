import Einsatzcockpit.Kontakt.Aendern
import Einsatzcockpit.Kontakt.Zusammenfuehren
import Einsatzcockpit.KontaktSync.Feed

namespace Einsatzcockpit.Kontakt

open Relational Raising
open KontaktSync (KontaktSyncAenderung ContactPayload Payload Spiegelt Ereignis ereignis anwenden einsetzen)

def Db.frisch (db : Db) (kontaktId : Nat) : Option KontaktSync.Kontakt :=
  db.feed.kontakte.find? (·.id = kontaktId)

/-- The change records of an operation that led from `db` to `db'`. -/
def neueAenderungen (db db' : Db) : List KontaktSyncAenderung := db'.aenderungen.rows.drop db.aenderungen.rows.length

def sichtbar (kopie : List ContactPayload) (kontaktId : Nat) : Option ContactPayload :=
  (kopie.find? (·.id = kontaktId)).filter (!·.werte.archiviert)

def Aktuell (kopie : List ContactPayload) (db : Db) : Prop :=
  ∀ k, sichtbar kopie k = sichtbar (db.feed.kontakte.map KontaktSync.contactPayload) k

/-- The change records written with the operation tell the contacts as they are
after it. -/
structure Veroeffentlicht (db db' : Db) : Prop where
  vollstaendig : ∀ k, db.frisch k ≠ db'.frisch k → ∃ a ∈ neueAenderungen db db', a.entitaetId = k
  richtig : ∀ a ∈ neueAenderungen db db', a.entitaet = .kontakt ∧
    ∃ row, db'.frisch a.entitaetId = some row ∧ Spiegelt a row
  nachgespielt : ∀ kopie, Aktuell kopie db → Aktuell (((neueAenderungen db db').map ereignis).foldl anwenden kopie) db'

section Frisch

variable {db : Db} {k : Nat}

theorem frisch_eq : db.frisch k = (db.kontakte.get? k).map db.gelesen := by
  unfold Db.frisch Db.feed Keyed.get?
  rw [List.find?_map]
  congr 1

theorem frisch_id {row : KontaktSync.Kontakt} (found : db.frisch k = some row) : row.id = k := by
  simpa using List.find?_some found

theorem sichtbar_feed : sichtbar (db.feed.kontakte.map KontaktSync.contactPayload) k =
    ((db.frisch k).map KontaktSync.contactPayload).filter (!·.werte.archiviert) := by
  unfold sichtbar Db.frisch
  rw [List.find?_map]
  rfl

end Frisch

section Nachspielen

variable {db db' : Db} {kopie : List ContactPayload} {k : Nat}

theorem sichtbar_filter (id : Nat) : sichtbar (kopie.filter (·.id != id)) k =
    if id = k then none else sichtbar kopie k := by
  unfold sichtbar
  rw [List.find?_filter]
  split
  · next same =>
    rw [same, List.find?_eq_none.mpr, Option.filter_none]
    intro payload _
    simp
  · next differs =>
    congr 2
    funext payload
    by_cases atK : payload.id = k
    · simp [atK, Ne.symm differs]
    · simp [atK]

theorem sichtbar_einsetzen (payload : ContactPayload) : sichtbar (einsetzen kopie payload) k =
    if payload.id = k then (some payload).filter (!·.werte.archiviert) else sichtbar kopie k := by
  have rest : sichtbar (kopie.filter (·.id != payload.id)) k = if payload.id = k then none else sichtbar kopie k :=
    sichtbar_filter payload.id
  unfold sichtbar einsetzen at *
  rw [List.find?_cons]
  split
  · next same => simp [of_decide_eq_true same]
  · next differs =>
    have other := of_decide_eq_false differs
    rw [if_neg other] at rest ⊢
    exact rest

theorem sichtbar_anwenden {a : KontaktSyncAenderung} (isKontakt : a.entitaet = .kontakt) {row : KontaktSync.Kontakt}
    (found : db'.frisch a.entitaetId = some row) (tells : Spiegelt a row) :
    sichtbar (anwenden kopie (ereignis a)) k = if a.entitaetId = k then
      (some (KontaktSync.contactPayload row)).filter (!·.werte.archiviert) else sichtbar kopie k := by
  have rowId := frisch_id found
  rcases tells with ⟨upsert, payload⟩ | ⟨tombstone, archived⟩
  · have shape : anwenden kopie (ereignis a) = einsetzen kopie (KontaktSync.contactPayload row) := by
      simp [anwenden, ereignis, isKontakt, upsert, payload]
    rw [shape, sichtbar_einsetzen]
    simp only [KontaktSync.contactPayload, rowId]
  · have shape : anwenden kopie (ereignis a) = kopie.filter (·.id != a.entitaetId) := by
      simp [anwenden, ereignis, isKontakt, tombstone]
    have hidden : (some (KontaktSync.contactPayload row)).filter (!·.werte.archiviert) = none := by
      simp [Option.filter, KontaktSync.contactPayload, archived]
    rw [shape, sichtbar_filter, hidden]

theorem sichtbar_nachgespielt {neu : List KontaktSyncAenderung}
    (richtig : ∀ a ∈ neu, a.entitaet = .kontakt ∧ ∃ row, db'.frisch a.entitaetId = some row ∧ Spiegelt a row) :
    sichtbar ((neu.map ereignis).foldl anwenden kopie) k = if ∃ a ∈ neu, a.entitaetId = k then
      ((db'.frisch k).map KontaktSync.contactPayload).filter (!·.werte.archiviert) else sichtbar kopie k := by
  induction neu generalizing kopie with
  | nil => simp
  | cons a neu ih =>
    obtain ⟨isKontakt, row, found, tells⟩ := richtig a (List.mem_cons_self ..)
    rw [List.map_cons, List.foldl_cons, ih fun b member => richtig b (List.mem_cons_of_mem _ member),
      sichtbar_anwenden isKontakt found tells]
    by_cases later : ∃ b ∈ neu, b.entitaetId = k
    · obtain ⟨b, member, about⟩ := later
      rw [if_pos ⟨b, member, about⟩, if_pos ⟨b, List.mem_cons_of_mem _ member, about⟩]
    · by_cases about : a.entitaetId = k
      · rw [if_neg later, if_pos about, if_pos ⟨a, List.mem_cons_self .., about⟩, ← about, found, Option.map_some]
      · rw [if_neg later, if_neg about, if_neg]
        rintro ⟨b, member, aboutB⟩
        rcases List.mem_cons.mp member with rfl | inRest
        · exact about aboutB
        · exact later ⟨b, inRest, aboutB⟩

theorem Veroeffentlicht.of_richtig
    (vollstaendig : ∀ k, db.frisch k ≠ db'.frisch k → ∃ a ∈ neueAenderungen db db', a.entitaetId = k)
    (richtig : ∀ a ∈ neueAenderungen db db', a.entitaet = .kontakt ∧
      ∃ row, db'.frisch a.entitaetId = some row ∧ Spiegelt a row) : Veroeffentlicht db db' := by
  refine ⟨vollstaendig, richtig, fun kopie aktuell k => ?_⟩
  rw [sichtbar_nachgespielt richtig, sichtbar_feed]
  split
  · rfl
  · next untold =>
    have same : db.frisch k = db'.frisch k := by_contra fun differs => untold (vollstaendig k differs)
    rw [aktuell k, sichtbar_feed, same]

end Nachspielen

section Schreiben

variable {db : Db} {k : Nat}

theorem werte_id {zeile neu : Zeile} {daten : Daten} {userId : Option Nat} (ok : werte zeile daten userId = .ok neu) :
    neu.id = zeile.id := by
  simp only [werte, bind_eq_ok, pure_eq_ok] at ok
  obtain ⟨-, -, -, -, -, -, -, -, -, -, -, -, -, -, -, -, rfl⟩ := ok
  refine foldl_setText_id fun zeile feld => ?_
  split
  · rfl
  · exact setText_id _ _ _

theorem telefoneSync_ok {bisher neu : List Telefon} {telefone : List TelefonEingabe}
    (ok : telefoneSync bisher k telefone = .ok neu) : ∃ zeilen : List TelefonEingabe, neu = zeilen.mapIdx (neuesTelefon bisher k) := by
  simp only [telefoneSync, bind_eq_ok, pure_eq_ok] at ok
  obtain ⟨-, -, rfl⟩ := ok
  exact ⟨_, rfl⟩

theorem foldl_delete (table : Keyed Telefon.id) (alt : List Telefon) :
    (alt.foldl (fun table p => table.delete p.id) table).rows = table.rows.filter (·.id ∉ alt.map (·.id)) ∧
    (alt.foldl (fun table p => table.delete p.id) table).last = table.last := by
  induction alt generalizing table with
  | nil => simp
  | cons p alt ih =>
    rw [List.foldl_cons, (ih _).1, (ih _).2]
    refine ⟨?_, rfl⟩
    rw [Keyed.delete, List.filter_filter]
    refine List.filter_congr fun other _ => ?_
    by_cases same : other.id = p.id <;> simp [same]

theorem foldl_insert (table : Keyed Telefon.id) (neu : List Telefon) :
    (neu.foldl (fun table p => table.insert (fun id => { p with id }) fun _ => rfl) table).rows =
      table.rows ++ nummeriert table.last neu := by
  induction neu generalizing table with
  | nil => simp [nummeriert]
  | cons p neu ih =>
    rw [List.foldl_cons, ih]
    simp only [Keyed.insert, nummeriert, List.mapIdx_cons, List.append_assoc, List.singleton_append, Nat.add_zero]
    congr 3
    funext i q
    have number : table.last + 1 + 1 + i = table.last + 1 + (i + 1) := by omega
    rw [number]

theorem telefoneSchreiben_rows (table : Keyed Telefon.id) (neu : List Telefon) :
    (telefoneSchreiben table k neu).rows = table.rows.filter (·.kontaktId ≠ k) ++ nummeriert table.last neu := by
  rw [telefoneSchreiben, foldl_insert, (foldl_delete _ _).1, (foldl_delete _ _).2]
  congr 1
  refine List.filter_congr fun p member => decide_eq_decide.mpr ?_
  constructor
  · intro outside own
    exact outside (List.mem_map_of_mem (List.mem_filter.mpr ⟨member, decide_eq_true own⟩))
  · intro other inside
    obtain ⟨q, isOwn, same⟩ := List.mem_map.mp inside
    obtain ⟨there, own⟩ := List.mem_filter.mp isOwn
    have equal : q = p := List.inj_on_of_nodup_map table.nodup there member same
    exact other (equal ▸ of_decide_eq_true own)

theorem frisch_recordChange (orgId entityId : Nat) (operation : KontaktSync.Operation) (payload : Option Payload) :
    (recordChange db orgId entityId operation payload).frisch k = db.frisch k := rfl

theorem frisch_zeileSchreiben {alt : Zeile} (zeile : Zeile) (found : db.kontakte.get? zeile.id = some alt) :
    (zeileSchreiben db zeile).frisch k = if k = zeile.id then some (db.gelesen zeile) else db.frisch k := by
  have row : { zeile with id := alt.id } = zeile := by rw [Keyed.key_of_get? found]
  rw [frisch_eq, frisch_eq, zeileSchreiben, Keyed.get?_modify_of_some found]
  split
  · rw [row]
    rfl
  · rfl

theorem filter_telefoneSchreiben {table : Keyed Telefon.id} {neu : List Telefon} (own : ∀ p ∈ neu, p.kontaktId = k)
    (other : Nat) : (telefoneSchreiben table k neu).rows.filter (·.kontaktId = other) =
      if other = k then nummeriert table.last neu else table.rows.filter (·.kontaktId = other) := by
  have numbered : ∀ p ∈ nummeriert table.last neu, p.kontaktId = k := by
    intro p member
    obtain ⟨i, bound, rfl⟩ := List.mem_mapIdx.mp member
    exact own neu[i] (List.getElem_mem bound)
  rw [telefoneSchreiben_rows, List.filter_append, List.filter_filter]
  split
  · next same =>
    subst same
    rw [List.filter_eq_self.mpr fun p member => decide_eq_true (numbered p member)]
    simp
  · next differs =>
    have none : (nummeriert table.last neu).filter (·.kontaktId = other) = [] :=
      List.filter_eq_nil_iff.mpr fun p member => by simp [numbered p member, Ne.symm differs]
    rw [none, List.append_nil]
    refine List.filter_congr fun p _ => ?_
    by_cases atOther : p.kontaktId = other
    · simp [atOther, differs]
    · simp [atOther]

theorem nummeriert_sorted (last : Nat) (bisher : List Telefon) (zeilen : List TelefonEingabe) :
    (nummeriert last (zeilen.mapIdx (neuesTelefon bisher k))).Pairwise fun a b => a.sort ≤ b.sort := by
  rw [List.pairwise_iff_getElem]
  intro i j _ _ before
  simp only [nummeriert, List.getElem_mapIdx, neuesTelefon]
  exact before.le

theorem Veroeffentlicht.of_eine {db' : Db} {a : KontaktSyncAenderung} (row : KontaktSync.Kontakt)
    (neu : db'.aenderungen.rows = db.aenderungen.rows ++ [a]) (isKontakt : a.entitaet = .kontakt) (about : a.entitaetId = k)
    (found : db'.frisch k = some row) (tells : Spiegelt a row) (others : ∀ other, other ≠ k → db'.frisch other = db.frisch other) :
    Veroeffentlicht db db' := by
  have only : neueAenderungen db db' = [a] := by rw [neueAenderungen, neu, List.drop_left]
  refine .of_richtig (fun other differs => ⟨a, ?_, ?_⟩) fun b member => ?_
  · rw [only]
    exact List.mem_singleton_self a
  · exact about.trans (by_contra fun apart => differs (others other (Ne.symm apart)).symm)
  · rw [only, List.mem_singleton] at member
    subst member
    exact ⟨isKontakt, row, by rw [about, found], tells⟩

theorem frisch_geschrieben (db db' : Db) {alt : Zeile} (zeile : Zeile) {neu : List Telefon}
    (found : db.kontakte.get? zeile.id = some alt) (kontakte : db'.kontakte = db.kontakte)
    (telefone : db'.telefone = telefoneSchreiben db.telefone zeile.id neu) (own : ∀ p ∈ neu, p.kontaktId = zeile.id)
    (sorted : (nummeriert db.telefone.last neu).Pairwise fun a b => a.sort ≤ b.sort) (k : Nat) :
    (zeileSchreiben db' zeile).frisch k =
      if k = zeile.id then some {
        id := zeile.id, orgId := zeile.orgId
        werte := (contactPayload { zeile, telefone := nummeriert db.telefone.last neu }).werte }
      else db.frisch k := by
  have filtered : ∀ other, db'.telefone.rows.filter (·.kontaktId = other) =
      if other = zeile.id then nummeriert db.telefone.last neu else db.telefone.rows.filter (·.kontaktId = other) := by
    rw [telefone]
    exact filter_telefoneSchreiben own
  rw [frisch_zeileSchreiben zeile (kontakte ▸ found)]
  split
  · simp only [Db.gelesen, telefoneVon, filtered, if_true, sorted.insertionSort_eq]
  · next differs =>
    rw [frisch_eq, frisch_eq, kontakte]
    cases there : db.kontakte.get? k with
    | none => rfl
    | some other =>
      have otherId := Keyed.key_of_get? there
      simp only [Option.map_some, Db.gelesen, telefoneVon, filtered, otherId, if_neg differs]

theorem updateKontakt_veroeffentlicht {db' : Db} {daten : Daten} {telefone : List TelefonEingabe} {kategorien : List String}
    {version orgId : Nat} {userId : Option Nat}
    (ok : updateKontakt db k daten telefone kategorien version orgId userId = .ok db') : Veroeffentlicht db db' := by
  simp only [updateKontakt, bind_eq_ok, pure_eq_ok, demand_eq_ok] at ok
  obtain ⟨kontakt, found, -, -, zeile, isWerte, neu, isNeu, rfl⟩ := ok
  obtain ⟨there, kontaktId, -⟩ := getKontakt_eq_some found
  have zeileId : zeile.id = k := (werte_id isWerte).trans kontaktId
  obtain ⟨zeilen, rfl⟩ := telefoneSync_ok isNeu
  have sorted := nummeriert_sorted (k := k) db.telefone.last kontakt.telefone zeilen
  have own : ∀ p ∈ zeilen.mapIdx (neuesTelefon kontakt.telefone k), p.kontaktId = k := by
    intro p member
    obtain ⟨i, -, rfl⟩ := List.mem_mapIdx.mp member
    rfl
  generalize zeilen.mapIdx (neuesTelefon kontakt.telefone k) = neu at *
  generalize isWritten : { zeile with version := zeile.version + 1 } = zeile'
  have atK : zeile'.id = k := isWritten ▸ zeileId
  have written := frisch_geschrieben db
    (kategorienSync { db with telefone := telefoneSchreiben db.telefone k neu } orgId k kategorien) zeile'
    (by rw [atK]; exact there) rfl (by rw [atK]; rfl) (by rw [atK]; exact own) sorted
  refine .of_eine (k := k)
    { id := zeile'.id, orgId := zeile'.orgId
      werte := (contactPayload { zeile := zeile', telefone := nummeriert db.telefone.last neu }).werte }
    rfl rfl rfl ?_ (Or.inl ⟨rfl, rfl⟩) fun other differs => ?_
  · rw [frisch_recordChange, written, if_pos atK.symm]
  · rw [frisch_recordChange, written, if_neg (by rw [atK]; exact differs)]

theorem archiveKontakt_veroeffentlicht {db' : Db} {userId : Option Nat} (ok : archiveKontakt db k userId = .ok db') :
    Veroeffentlicht db db' := by
  simp only [archiveKontakt, bind_eq_ok, pure_eq_ok, demand_eq_ok] at ok
  obtain ⟨kontakt, found, rfl⟩ := ok
  obtain ⟨there, kontaktId, -⟩ := getKontakt_eq_some found
  generalize isArchived : { kontakt.zeile with
    archiviert := true, aktiv := false, aktualisiertVonId := userId, version := kontakt.zeile.version + 1 } = zeile
  have atK : zeile.id = k := isArchived ▸ kontaktId
  have archived : zeile.archiviert = true := isArchived ▸ rfl
  have atRow : db.kontakte.get? zeile.id = some kontakt.zeile := by rw [atK]; exact there
  refine .of_eine (k := k) (db.gelesen zeile) rfl rfl rfl ?_ (Or.inr ⟨rfl, archived⟩) fun other differs => ?_
  · rw [frisch_recordChange, frisch_zeileSchreiben zeile atRow, if_pos atK.symm]
  · rw [frisch_recordChange, frisch_zeileSchreiben zeile atRow, if_neg (by rw [atK]; exact differs)]

end Schreiben

section Zusammenfuehren

variable {db db' : Db} {quelleId zielId : Nat} {quelle ziel : Objekt} {k : Nat}

def AlleBekannt (db : Db) (quelleId zielId : Nat) : Prop :=
  ∀ p ∈ db.telefone.rows, p.kontaktId = quelleId →
    ∃ t ∈ db.telefone.rows, t.kontaktId = zielId ∧ t.nummerNormalisiert = p.nummerNormalisiert

theorem telefoneVon_perm : (telefoneVon db k).Perm (db.telefone.rows.filter (·.kontaktId = k)) :=
  List.perm_insertionSort _ _

theorem mem_telefoneVon {p : Telefon} : p ∈ telefoneVon db k ↔ p ∈ db.telefone.rows ∧ p.kontaktId = k := by
  rw [telefoneVon_perm.mem_iff, List.mem_filter, decide_eq_true_eq]

theorem telefone_pending : Keyed.Pending db.telefone (telefoneVon db k) :=
  ⟨fun _ member => Keyed.get?_of_mem (mem_telefoneVon.mp member).1,
    (telefoneVon_perm.map _).nodup_iff.mpr ((List.filter_sublist.map _).nodup db.telefone.nodup)⟩

def umgehaengt (quelle ziel : Objekt) : List Telefon :=
  Keyed.moved (·.nummerNormalisiert)
    (fun n p => { p with
      kontaktId := ziel.zeile.id, sort := (ziel.telefone.map (·.sort + 1)).foldl max 0 + n })
    (ziel.telefone.map (·.nummerNormalisiert)) 0 quelle.telefone

theorem umgehaengt_eq_nil (quelleTelefone : quelle.telefone = telefoneVon db quelleId)
    (zielTelefone : ziel.telefone = telefoneVon db zielId) :
    umgehaengt quelle ziel = [] ↔ AlleBekannt db quelleId zielId := by
  rw [umgehaengt, Keyed.moved_eq_nil, quelleTelefone, zielTelefone]
  constructor
  · intro known p member own
    obtain ⟨t, isZiel, same⟩ := List.mem_map.mp (known p (mem_telefoneVon.mpr ⟨member, own⟩))
    exact ⟨t, (mem_telefoneVon.mp isZiel).1, (mem_telefoneVon.mp isZiel).2, same⟩
  · intro known p member
    obtain ⟨there, own⟩ := mem_telefoneVon.mp member
    obtain ⟨t, isRow, isZiel, same⟩ := known p there own
    exact List.mem_map.mpr ⟨t, mem_telefoneVon.mpr ⟨isRow, isZiel⟩, same⟩

theorem telefone_perm (apart : quelleId ≠ zielId) (quelleTelefone : quelle.telefone = telefoneVon db quelleId)
    (zielId' : ziel.zeile.id = zielId) (telefone : db'.telefone = telefoneUmhaengen db quelle ziel) :
    (telefoneVon db' zielId).Perm (telefoneVon db zielId ++ umgehaengt quelle ziel) := by
  refine telefoneVon_perm.trans ?_
  rw [telefone, telefoneUmhaengen]
  refine (Keyed.absorb_perm (quelleTelefone ▸ telefone_pending) (fun p member => ?_) fun n p => ?_).trans
    (telefoneVon_perm.symm.append_right _)
  · rw [quelleTelefone] at member
    simp [(mem_telefoneVon.mp member).2, apart]
  · simp [zielId']

theorem telefoneVon_same (differs : k ≠ quelleId) (quelleTelefone : quelle.telefone = telefoneVon db quelleId)
    (zielTelefone : ziel.telefone = telefoneVon db zielId) (zielId' : ziel.zeile.id = zielId)
    (telefone : db'.telefone = telefoneUmhaengen db quelle ziel) (untouched : k ≠ zielId ∨ AlleBekannt db quelleId zielId) :
    telefoneVon db' k = telefoneVon db k := by
  unfold telefoneVon
  rw [telefone, telefoneUmhaengen, Keyed.absorb_filter (quelleTelefone ▸ telefone_pending)]
  · intro p member
    rw [quelleTelefone] at member
    simp [(mem_telefoneVon.mp member).2, Ne.symm differs]
  · intro p member fresh n
    rcases untouched with other | known
    · simp [zielId', Ne.symm other]
    · have none := (umgehaengt_eq_nil quelleTelefone zielTelefone).mpr known
      rw [umgehaengt, Keyed.moved_eq_nil] at none
      exact absurd (none p member) fresh

variable {feldwahl : Feld → String} {userId : Option Nat} {zeit : String} {rollen : List Rolle}

theorem frisch_nachMerge (angenommen : Angenommen db quelleId zielId quelle ziel) (feldwahl : Feld → String)
    (userId : Option Nat) (zeit : String) (rollen : List Rolle) (k : Nat) :
    (nachMerge db quelle ziel feldwahl userId zeit rollen).frisch k =
      if k = zielId then
        some ((nachMerge db quelle ziel feldwahl userId zeit rollen).gelesen (zielNach feldwahl quelle.zeile ziel.zeile userId))
      else if k = quelleId then
        some ((nachMerge db quelle ziel feldwahl userId zeit rollen).gelesen
          (archivierteQuelle quelle.zeile ziel.zeile.id userId zeit))
      else db.frisch k := by
  obtain ⟨isQuelle, quelleAt, quelleTelefone⟩ := getKontakt_eq_some angenommen.istQuelle
  obtain ⟨isZiel, zielAt, zielTelefone⟩ := getKontakt_eq_some angenommen.istZiel
  generalize later : nachMerge db quelle ziel feldwahl userId zeit rollen = db'
  have kontakte : ∀ k, db'.kontakte.get? k =
      if k = zielId then some (zielNach feldwahl quelle.zeile ziel.zeile userId)
      else if k = quelleId then some (archivierteQuelle quelle.zeile ziel.zeile.id userId zeit)
      else db.kontakte.get? k := by
    intro k
    have zielRow := zielNach_id feldwahl quelle.zeile ziel.zeile userId
    rw [← later]
    simp only [nachMerge, recordChange, zeileSchreiben, Keyed.get?_modify, zielRow, zielAt, archivierteQuelle, quelleAt]
    split
    · next same =>
      rw [if_neg (by rw [same]; exact Ne.symm angenommen.verschieden), same, isZiel, Option.map_some]
      congr 1
      rw [← zielRow]
    · split
      · next same =>
        rw [same, isQuelle, Option.map_some, quelleAt]
      · rfl
  have telefone : db'.telefone = telefoneUmhaengen db quelle ziel := later ▸ rfl
  rw [frisch_eq, kontakte]
  split
  · rfl
  · next notZiel =>
    split
    · rfl
    · next notQuelle =>
      rw [frisch_eq]
      cases there : db.kontakte.get? k with
      | none => rfl
      | some row =>
        have same := telefoneVon_same notQuelle quelleTelefone zielTelefone zielAt telefone (Or.inl notZiel)
        rw [Option.map_some, Option.map_some, Db.gelesen, Db.gelesen, Keyed.key_of_get? there, same]

theorem neueAenderungen_nachMerge (db : Db) (quelle ziel : Objekt) (feldwahl : Feld → String) (userId : Option Nat)
    (zeit : String) (rollen : List Rolle) : ∃ a b, neueAenderungen db (nachMerge db quelle ziel feldwahl userId zeit rollen) = [a, b] ∧
    a.entitaet = .kontakt ∧ a.entitaetId = ziel.zeile.id ∧ a.operation = .upsert ∧
    a.payload = some (.contact (contactPayload { ziel with zeile := zielNach feldwahl quelle.zeile ziel.zeile userId })) ∧
    b.entitaet = .kontakt ∧ b.entitaetId = quelle.zeile.id ∧ b.operation = .tombstone := by
  let zielZeile := zielNach feldwahl quelle.zeile ziel.zeile userId
  refine ⟨{ id := db.aenderungen.last + 1, orgId := zielZeile.orgId, entitaet := .kontakt, entitaetId := ziel.zeile.id,
            operation := .upsert, payload := some (.contact (contactPayload { ziel with zeile := zielZeile })) },
    { id := db.aenderungen.last + 2, orgId := zielZeile.orgId, entitaet := .kontakt, entitaetId := quelle.zeile.id,
      operation := .tombstone, payload := some (.mergedInto ziel.zeile.id) },
    ?_, rfl, rfl, rfl, rfl, rfl, rfl, rfl⟩
  rw [neueAenderungen]
  simp only [nachMerge, recordChange, zeileSchreiben, Keyed.insert, List.append_assoc, List.drop_left,
    List.singleton_append]
  rfl

theorem nachMerge_veroeffentlicht (angenommen : Angenommen db quelleId zielId quelle ziel) :
    Veroeffentlicht db (nachMerge db quelle ziel feldwahl userId zeit rollen) ↔ AlleBekannt db quelleId zielId := by
  obtain ⟨isQuelle, quelleAt, quelleTelefone⟩ := getKontakt_eq_some angenommen.istQuelle
  obtain ⟨isZiel, zielAt, zielTelefone⟩ := getKontakt_eq_some angenommen.istZiel
  obtain ⟨a, b, neu, aKontakt, aId, upsert, aPayload, bKontakt, bId, tombstone⟩ := 
    neueAenderungen_nachMerge db quelle ziel feldwahl userId zeit rollen
  have frisch : ∀ k, _ := frisch_nachMerge angenommen feldwahl userId zeit rollen
  have zielRow := zielNach_id feldwahl quelle.zeile ziel.zeile userId
  have telefone : (nachMerge db quelle ziel feldwahl userId zeit rollen).telefone = telefoneUmhaengen db quelle ziel := rfl
  generalize nachMerge db quelle ziel feldwahl userId zeit rollen = db' at *
  constructor
  · intro published
    obtain ⟨-, row, found, tells⟩ := published.richtig a (by rw [neu]; exact List.mem_cons_self ..)
    rw [aId, zielAt, frisch, if_pos rfl] at found
    cases found
    have told : contactPayload { ziel with zeile := zielNach feldwahl quelle.zeile ziel.zeile userId } =
        KontaktSync.contactPayload (db'.gelesen (zielNach feldwahl quelle.zeile ziel.zeile userId)) := by
      rcases tells with ⟨-, payload⟩ | ⟨other, -⟩
      · rw [aPayload] at payload
        simpa using payload
      · rw [upsert] at other
        cases other
    have counted := congrArg (fun payload => payload.werte.telefone.length) told
    simp only [contactPayload, KontaktSync.contactPayload, Db.gelesen, List.length_map, zielRow, zielAt] at counted
    rw [(telefone_perm angenommen.verschieden quelleTelefone zielAt telefone).length_eq, zielTelefone,
      List.length_append] at counted
    exact (umgehaengt_eq_nil quelleTelefone zielTelefone).mp (List.eq_nil_of_length_eq_zero (by omega))
  · intro known
    have same := telefoneVon_same (Ne.symm angenommen.verschieden) quelleTelefone zielTelefone zielAt telefone (Or.inr known)
    refine .of_richtig (fun k differs => ?_) fun c member => ?_
    · rw [neu]
      by_cases atZiel : k = zielId
      · exact ⟨a, List.mem_cons_self .., by rw [aId, zielAt, atZiel]⟩
      by_cases atQuelle : k = quelleId
      · exact ⟨b, List.mem_cons_of_mem _ (List.mem_singleton_self b), by rw [bId, quelleAt, atQuelle]⟩
      rw [frisch, if_neg atZiel, if_neg atQuelle] at differs
      exact absurd rfl differs
    · rw [neu] at member
      rcases List.mem_cons.mp member with rfl | isB
      · refine ⟨aKontakt, _, by rw [aId, zielAt, frisch, if_pos rfl], Or.inl ⟨upsert, ?_⟩⟩
        rw [aPayload, zielTelefone]
        simp only [contactPayload, KontaktSync.contactPayload, Db.gelesen, zielRow, zielAt, same]
      · rw [List.mem_singleton.mp isB]
        exact ⟨bKontakt, _, by rw [bId, quelleAt, frisch, if_neg angenommen.verschieden, if_pos rfl],
          Or.inr ⟨tombstone, rfl⟩⟩

end Zusammenfuehren

inductive Vorgang where
  | update (kontaktId : Nat) (daten : Daten) (telefone : List TelefonEingabe) (kategorien : List String)
      (version orgId : Nat) (userId : Option Nat)
  | archive (kontaktId : Nat) (userId : Option Nat)
  | merge (quelleId zielId : Nat) (feldwahl : Feld → String) (userId : Option Nat) (zeit : String)

def ausfuehren (db : Db) : Vorgang → Except Fehler Db
  | .update kontaktId daten telefone kategorien version orgId userId =>
    updateKontakt db kontaktId daten telefone kategorien version orgId userId
  | .archive kontaktId userId => archiveKontakt db kontaktId userId
  | .merge quelleId zielId feldwahl userId zeit => Prod.fst <$> mergeKontakte db quelleId zielId feldwahl userId zeit

def Vorgang.HaeltNummern (db : Db) : Vorgang → Prop
  | .merge quelleId zielId _ _ _ => AlleBekannt db quelleId zielId
  | _ => True

/-- The change records of an operation tell the contacts it leaves behind just if
it moves no number: an update flushes its new numbers first, but a merge
serialises the collection that the target had before. -/
theorem veroeffentlicht_iff {db db' : Db} {vorgang : Vorgang} (ok : ausfuehren db vorgang = .ok db') :
    Veroeffentlicht db db' ↔ vorgang.HaeltNummern db := by
  cases vorgang with
  | update => exact iff_of_true (updateKontakt_veroeffentlicht ok) trivial
  | archive => exact iff_of_true (archiveKontakt_veroeffentlicht ok) trivial
  | merge =>
    obtain ⟨ergebnis, ran, rfl⟩ := map_eq_ok.mp ok
    obtain ⟨quelle, ziel, lauf, angenommen, -, rfl⟩ := mergeKontakte_eq_ok.mp ran
    exact nachMerge_veroeffentlicht angenommen

def zweiKontakte (telefone : List (Nat × String)) : Db where
  kontakte := (Keyed.empty.insert (fun id => { id, orgId := 7, anzeigename := "Huber Franz" }) fun _ => rfl).insert
    (fun id => { id, orgId := 7, anzeigename := "Franz Huber" }) fun _ => rfl
  telefone := telefone.foldl (fun table p => table.insert
    (fun id => { id, kontaktId := p.1, nummer := p.2, nummerNormalisiert := telefonNormalisiert p.2 }) fun _ => rfl) .empty

theorem veroeffentlicht_iff_ohne_nummern : ∃ db', Veroeffentlicht (zweiKontakte [(2, "05572 1")]) db' := by
  have comesThrough : (ausfuehren (zweiKontakte [(2, "05572 1")])
    (.merge 1 2 (fun _ => "ziel") none "2026-05-04 10:00 UTC")).isOk = true := by decide +kernel
  have noNumber : ∀ p ∈ (zweiKontakte [(2, "05572 1")]).telefone.rows, p.kontaktId ≠ 1 := by decide +kernel
  cases ran : ausfuehren (zweiKontakte [(2, "05572 1")]) (.merge 1 2 (fun _ => "ziel") none "2026-05-04 10:00 UTC") with
  | error => rw [ran] at comesThrough; cases comesThrough
  | ok db' => exact ⟨db', (veroeffentlicht_iff ran).mpr fun p member own => absurd own (noNumber p member)⟩

theorem veroeffentlicht_verfehlt : ∃ db', ausfuehren (zweiKontakte [(1, "05572 1")])
      (.merge 1 2 (fun _ => "ziel") none "2026-05-04 10:00 UTC") = .ok db' ∧
    ¬ Veroeffentlicht (zweiKontakte [(1, "05572 1")]) db' := by
  have comesThrough : (mergeKontakte (zweiKontakte [(1, "05572 1")]) 1 2 (fun _ => "ziel") none
    "2026-05-04 10:00 UTC").isOk = true := by decide +kernel
  cases ran : mergeKontakte (zweiKontakte [(1, "05572 1")]) 1 2 (fun _ => "ziel") none "2026-05-04 10:00 UTC" with
  | error => rw [ran] at comesThrough; cases comesThrough
  | ok ergebnis =>
    obtain ⟨quelle, ziel, lauf, angenommen, -, rfl⟩ := mergeKontakte_eq_ok.mp ran
    refine ⟨_, map_eq_ok.mpr ⟨_, ran, rfl⟩, fun published => ?_⟩
    have known := (nachMerge_veroeffentlicht angenommen).mp published
    exact absurd known (by unfold AlleBekannt; decide +kernel)

end Einsatzcockpit.Kontakt
