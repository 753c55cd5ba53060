import Einsatzcockpit.KontaktSync.Feed

namespace Einsatzcockpit.KontaktSync

open Paging Transition

/-- The client and the server agree on a contact of the organisation, as far as
it is published. -/
def Gleich (orgId : Nat) (db : Db) (kontakte : List ContactPayload) (k : Nat) : Prop :=
  ∀ p : ContactPayload, p.id = k → p.werte.archiviert = false →
    (p ∈ kontakte ↔ ∃ row ∈ db.kontakte, row.orgId = orgId ∧ contactPayload row = p)

section Anwenden

variable {kontakte : List ContactPayload}

variable {p : ContactPayload} {a : KontaktSyncAenderung} {changes : List KontaktSyncAenderung}

theorem mem_einsetzen {q : ContactPayload} : p ∈ einsetzen kontakte q ↔ p = q ∨ p ∈ kontakte ∧ p.id ≠ q.id := by
  rw [einsetzen, List.mem_cons, List.mem_filter, bne_iff_ne]

theorem mem_foldl_einsetzen {seite : List ContactPayload} (distinct : (seite.map (·.id)).Nodup) :
    p ∈ seite.foldl einsetzen kontakte ↔ p ∈ seite ∨ p ∈ kontakte ∧ ∀ q ∈ seite, p.id ≠ q.id := by
  induction seite generalizing kontakte with
  | nil => simp
  | cons first rest ih =>
    rw [List.map_cons, List.nodup_cons] at distinct
    have others : ∀ q ∈ rest, first.id ≠ q.id := fun q member same =>
      distinct.1 (List.mem_map.mpr ⟨q, member, same.symm⟩)
    rw [List.foldl_cons, ih distinct.2, mem_einsetzen, List.forall_mem_cons, List.mem_cons]
    constructor
    · rintro (later | ⟨rfl | ⟨old, differs⟩, none⟩)
      · exact Or.inl (Or.inr later)
      · exact Or.inl (Or.inl rfl)
      · exact Or.inr ⟨old, differs, none⟩
    · rintro ((rfl | later) | ⟨old, differs, none⟩)
      · exact Or.inr ⟨Or.inl rfl, others⟩
      · exact Or.inl later
      · exact Or.inr ⟨Or.inr ⟨old, differs⟩, none⟩

theorem mem_anwenden_other (other : ¬ Betrifft a p.id)
    (wohl : ∀ q, Betrifft a a.entitaetId → a.payload = some (.contact q) → q.id = a.entitaetId) :
    p ∈ anwenden kontakte (ereignis a) ↔ p ∈ kontakte := by
  unfold anwenden
  split
  · next q entity _ payload =>
    have isKontakt : a.entitaet = .kontakt := entity
    have isId := wohl q ⟨isKontakt, rfl⟩ payload
    have differs : p.id ≠ q.id := fun same => other ⟨isKontakt, by rw [same, isId]⟩
    rw [mem_einsetzen, and_iff_left differs]
    exact or_iff_right fun same => differs (congrArg _ same)
  · next entity _ =>
    rw [List.mem_filter, bne_iff_ne, and_iff_left_iff_imp]
    exact fun _ same => other ⟨entity, same.symm⟩
  · rfl

theorem mem_anwenden_self {row : Kontakt} (about : Betrifft a row.id)
    (spiegelt : Spiegelt a row) (isId : p.id = row.id) (published : p.werte.archiviert = false) :
    p ∈ anwenden kontakte (ereignis a) ↔ contactPayload row = p := by
  rcases spiegelt with ⟨upsert, payload⟩ | ⟨tombstone, archived⟩
  · have shown : anwenden kontakte (ereignis a) = einsetzen kontakte (contactPayload row) := by
      simp [anwenden, ereignis, about.1, upsert, payload]
    rw [shown, mem_einsetzen]
    exact ⟨fun inside => (inside.resolve_right fun old => old.2 isId).symm, fun same => Or.inl same.symm⟩
  · have gone : anwenden kontakte (ereignis a) = kontakte.filter (·.id != a.entitaetId) := by
      simp [anwenden, ereignis, about.1, tombstone]
    rw [gone, List.mem_filter, bne_iff_ne]
    refine iff_of_false (fun inside => inside.2 (isId.trans about.2.symm)) fun same => ?_
    rw [← same, contactPayload, archived] at published
    cases published

theorem mem_foldl_anwenden
    (member : p ∈ (changes.map ereignis).foldl anwenden kontakte) :
    p ∈ kontakte ∨ ∃ a ∈ changes, a.entitaet = .kontakt ∧ a.payload = some (.contact p) := by
  induction changes generalizing kontakte with
  | nil => exact Or.inl member
  | cons first rest ih =>
    rw [List.map_cons, List.foldl_cons] at member
    rcases ih member with now | ⟨a, later, found⟩
    · unfold anwenden at now
      split at now
      · next q entity _ payload =>
        rcases mem_einsetzen.mp now with rfl | ⟨old, -⟩
        · exact Or.inr ⟨first, List.mem_cons_self .., entity, payload⟩
        · exact Or.inl old
      · exact Or.inl (List.mem_of_mem_filter now)
      · exact Or.inl now
    · exact Or.inr ⟨a, List.mem_cons_of_mem _ later, found⟩

theorem mem_foldl_anwenden_other
    (other : ∀ a ∈ changes, ¬ Betrifft a p.id)
    (wohl : ∀ a ∈ changes, ∀ q, Betrifft a a.entitaetId → a.payload = some (.contact q) → q.id = a.entitaetId) :
    p ∈ (changes.map ereignis).foldl anwenden kontakte ↔ p ∈ kontakte := by
  induction changes generalizing kontakte with
  | nil => rfl
  | cons first rest ih =>
    rw [List.map_cons, List.foldl_cons, ih (fun a later => other a (List.mem_cons_of_mem _ later))
      fun a later => wohl a (List.mem_cons_of_mem _ later)]
    exact mem_anwenden_other (other first (List.mem_cons_self ..)) (wohl first (List.mem_cons_self ..))

theorem mem_foldl_anwenden_last {row : Kontakt}
    (sorted : changes.Pairwise (·.id ≤ ·.id)) (distinct : (changes.map (·.id)).Nodup)
    (wohl : ∀ a ∈ changes, ∀ q, Betrifft a a.entitaetId → a.payload = some (.contact q) → q.id = a.entitaetId)
    (member : a ∈ changes) (about : Betrifft a row.id) (last : ∀ b ∈ changes, Betrifft b row.id → b.id ≤ a.id)
    (spiegelt : Spiegelt a row) (isId : p.id = row.id) (published : p.werte.archiviert = false) :
    p ∈ (changes.map ereignis).foldl anwenden kontakte ↔ contactPayload row = p := by
  obtain ⟨before, after, rfl⟩ := List.append_of_mem member
  rw [List.map_append, List.map_cons, List.foldl_append, List.foldl_cons]
  have order := (List.pairwise_cons.mp (List.pairwise_append.mp sorted).2.1).1
  rw [List.map_append, List.map_cons] at distinct
  have fresh := (List.nodup_cons.mp (List.nodup_append'.mp distinct).2.1).1
  refine (mem_foldl_anwenden_other (fun b later about' => ?_) fun b later => wohl b ?_).trans
    (mem_anwenden_self about spiegelt isId published)
  · rw [isId] at about'
    have same := Nat.le_antisymm (order b later) (last b (List.mem_append_right _ (List.mem_cons_of_mem _ later)) about')
    exact fresh (List.mem_map.mpr ⟨b, later, same.symm⟩)
  · exact List.mem_append_right _ (List.mem_cons_of_mem _ later)

end Anwenden

def Client.Erfasst (client : Client) (k : Nat) : Prop :=
  0 < k ∧ ∀ after, client.phase = .snapshot after → k ≤ after

/-- What the client has read agrees with the server but for the contacts with a
change beyond its cursor, and no open change is before the cursor. -/
structure Client.Aktuell (orgId : Nat) (db : Db) (client : Client) : Prop where
  anfang : client.cursor = none → client.phase = .snapshot 0
  positiv : ∀ p ∈ client.kontakte, 0 < p.id
  gelesen : ∀ after, client.phase = .snapshot after → ∀ p ∈ client.kontakte, p.id ≤ after
  grenze : client.cursor.getD 0 ≤ db.vergeben
  offen : ∀ p ∈ db.neu, p.2.orgId = orgId → client.cursor.getD 0 < p.2.id
  gleich : ∀ k, client.Erfasst k →
    (∀ a ∈ db.aenderungen, a.orgId = orgId → Betrifft a k → a.id ≤ client.cursor.getD 0) →
      Gleich orgId db client.kontakte k

section Server

variable {orgId tx : Nat} {db db' : Db} {client : Client}

theorem Client.Aktuell.flush (aktuell : client.Aktuell orgId db) (kontakte : db'.kontakte = db.kontakte)
    (aenderungen : db'.aenderungen = db.aenderungen) (vergeben : db.vergeben ≤ db'.vergeben)
    (neu : ∀ p ∈ db'.neu, p ∈ db.neu ∨ db.vergeben < p.2.id) : client.Aktuell orgId db' := by
  refine ⟨aktuell.anfang, aktuell.positiv, aktuell.gelesen, aktuell.grenze.trans vergeben, fun p member org => ?_,
    fun k erfasst none p isId published => ?_⟩
  · rcases neu p member with old | new
    · exact aktuell.offen p old org
    · exact aktuell.grenze.trans_lt new
  · rw [kontakte]
    rw [aenderungen] at none
    exact aktuell.gleich k erfasst none p isId published

theorem Client.Aktuell.commit (stimmt : db.Stimmt) (aktuell : client.Aktuell orgId db) :
    client.Aktuell orgId (commit db tx) := by
  refine ⟨aktuell.anfang, aktuell.positiv, aktuell.gelesen, aktuell.grenze, fun p member => ?_,
    fun k erfasst none p isId published => ?_⟩
  · exact aktuell.offen p (List.mem_of_mem_filter member)
  · have before := aktuell.gleich k erfasst fun a committed => none a (mem_commit_aenderungen.mpr (Or.inl committed))
    refine (before p isId published).trans ⟨?_, ?_⟩
    · rintro ⟨row, isRow, org, rfl⟩
      refine ⟨row, mem_commit_kontakte.mpr (Or.inl ⟨isRow, fun z isZ own same => ?_⟩), org, rfl⟩
      -- a contact of the organisation that is written now has a change beyond the cursor
      obtain ⟨q, isQ, isTx, about, isOrg⟩ := stimmt.gespiegelt.geschrieben z isZ
      have atOrg : q.2.orgId = orgId := by
        rw [isOrg, ← stimmt.gespiegelt.org z isZ row isRow same.symm, org]
      have committed : q.2 ∈ (KontaktSync.commit db tx).aenderungen := by
        refine mem_commit_aenderungen.mpr (Or.inr ?_)
        rw [show (tx, q.2) = q from Prod.ext (own.symm.trans isTx.symm) rfl]
        exact isQ
      have atK : z.2.id = k := same.trans isId
      have below := none q.2 committed atOrg (atK ▸ about)
      have above := aktuell.offen q isQ atOrg
      omega
    · rintro ⟨row, isRow, org, rfl⟩
      rcases mem_commit_kontakte.mp isRow with ⟨old, -⟩ | written
      · exact ⟨row, old, org, rfl⟩
      · obtain ⟨q, isQ, isTx, about, isOrg⟩ := stimmt.gespiegelt.geschrieben _ written
        have committed : q.2 ∈ (KontaktSync.commit db tx).aenderungen := by
          refine mem_commit_aenderungen.mpr (Or.inr ?_)
          rw [show (tx, q.2) = q from Prod.ext isTx.symm rfl]
          exact isQ
        have atK : row.id = k := isId
        have below := none q.2 committed (isOrg.trans org) (atK ▸ about)
        have above := aktuell.offen q isQ (isOrg.trans org)
        omega

end Server

/-- No transaction is open with a change of the organisation that has an
earlier number than a committed one. -/
def Geordnet (orgId : Nat) (db : Db) : Prop :=
  ∀ p ∈ db.neu, p.2.orgId = orgId → ∀ a ∈ db.aenderungen, a.orgId = orgId → a.id < p.2.id

section Lesen

variable {orgId limit : Nat} {db : Db} {client : Client}

variable {after : Nat}

theorem snapshot_contacts {p : ContactPayload} : p ∈ (snapshot db orgId after limit).contacts ↔
    ∃ row ∈ (page Kontakt.id after limit (db.kontakte.filter (·.orgId == orgId))).1, contactPayload row = p :=
  List.mem_map

theorem snapshot_cursor (stimmt : db.Stimmt) (geordnet : Geordnet orgId db) :
    (snapshot db orgId after limit).cursor ≤ db.vergeben ∧
      ∀ p ∈ db.neu, p.2.orgId = orgId → (snapshot db orgId after limit).cursor < p.2.id := by
  simp only [snapshot]
  cases largest : ((db.aenderungen.filter (·.orgId == orgId)).map (·.id)).max? with
  | none => exact ⟨Nat.zero_le _, fun p member _ => (stimmt.nummern.neuId p member).1⟩
  | some m =>
    obtain ⟨a, inside, rfl⟩ := List.mem_map.mp (List.max?_eq_some_iff.mp largest).1
    obtain ⟨committed, org⟩ := List.mem_filter.mp inside
    have atOrg := beq_iff_eq.mp org
    exact ⟨stimmt.nummern.aenderungId a committed, fun p member isOrg => geordnet p member isOrg a committed atOrg⟩

theorem mem_page_kontakte {row : Kontakt}
    (member : row ∈ (page Kontakt.id after limit (db.kontakte.filter (·.orgId == orgId))).1) :
    row ∈ db.kontakte ∧ row.orgId = orgId ∧ after < row.id := by
  obtain ⟨isRow, later⟩ := mem_page member
  obtain ⟨inside, org⟩ := List.mem_filter.mp isRow
  exact ⟨inside, beq_iff_eq.mp org, later⟩

section

variable (stimmt : db.Stimmt)
include stimmt

theorem snapshot_complete {row : Kontakt} (positive : 1 ≤ limit)
    (isRow : row ∈ db.kontakte) (org : row.orgId = orgId) (later : after < row.id)
    (early : ∀ next, (snapshot db orgId after limit).nextPage = some next → row.id ≤ next) :
    contactPayload row ∈ (snapshot db orgId after limit).contacts := by
  have member : row ∈ db.kontakte.filter (·.orgId == orgId) := List.mem_filter.mpr ⟨isRow, beq_iff_eq.mpr org⟩
  refine snapshot_contacts.mpr ⟨row, ?_, rfl⟩
  simp only [snapshot] at early
  cases more : (page Kontakt.id after limit (db.kontakte.filter (·.orgId == orgId))).2 with
  | false => exact page_complete more member later
  | true =>
    obtain ⟨next, last⟩ := lastKey_of_more positive more
    rw [more, if_pos rfl] at early
    exact page_until ((List.filter_sublist.map _).nodup stimmt.nummern.kontakte) last member later (early next last)

theorem Client.Aktuell.snapshot {wahl : CursorWahl} (aktuell : client.Aktuell orgId db)
    (geordnet : Geordnet orgId db) (positive : 1 ≤ limit) (phase : client.phase = .snapshot after)
    (still : wahl = .letzteSeite → ∀ c, client.cursor = some c → ∀ a ∈ db.aenderungen, a.orgId = orgId → a.id ≤ c) :
    (client.lies wahl db orgId limit).Aktuell orgId db := by
  obtain ⟨grenze, offen⟩ := @snapshot_cursor orgId limit db after stimmt geordnet
  have distinct : ((KontaktSync.snapshot db orgId after limit).contacts.map (·.id)).Nodup := by
    have rows : ((db.kontakte.filter (·.orgId == orgId)).map (·.id)).Nodup :=
      (List.filter_sublist.map _).nodup stimmt.nummern.kontakte
    simp only [KontaktSync.snapshot, List.map_map]
    exact page_nodup rows
  have contacts : ∀ p, p ∈ (KontaktSync.snapshot db orgId after limit).contacts →
      ∃ row ∈ db.kontakte, row.orgId = orgId ∧ after < row.id ∧ contactPayload row = p := by
    intro p member
    obtain ⟨row, isRow, same⟩ := snapshot_contacts.mp member
    obtain ⟨inside, org, later⟩ := mem_page_kontakte isRow
    exact ⟨row, inside, org, later, same⟩
  have next : ∀ m, (KontaktSync.snapshot db orgId after limit).nextPage = some m →
      after < m ∧ ∀ p ∈ (KontaktSync.snapshot db orgId after limit).contacts, p.id ≤ m := by
    intro m isNext
    simp only [KontaktSync.snapshot] at isNext
    split at isNext
    · refine ⟨after_lt_lastKey isNext, fun p member => ?_⟩
      obtain ⟨row, isRow, rfl⟩ := snapshot_contacts.mp member
      have bound := page_lastKey isNext isRow
      exact bound
    · cases isNext
  have cursor : (client.lies wahl db orgId limit).cursor.getD 0 ≤ db.vergeben ∧
      (∀ p ∈ db.neu, p.2.orgId = orgId → (client.lies wahl db orgId limit).cursor.getD 0 < p.2.id) ∧
      (client.cursor ≠ none → ∀ a ∈ db.aenderungen, a.orgId = orgId →
        a.id ≤ (client.lies wahl db orgId limit).cursor.getD 0 → a.id ≤ client.cursor.getD 0) := by
    simp only [Client.lies, phase]
    cases wahl with
    | ersteSeite =>
      cases isCursor : client.cursor with
      | none => exact ⟨grenze, offen, fun some_ => absurd rfl some_⟩
      | some c =>
        have oldGrenze := aktuell.grenze
        have oldOffen := aktuell.offen
        rw [isCursor] at oldGrenze oldOffen
        exact ⟨oldGrenze, oldOffen, fun _ a _ _ bound => bound⟩
    | letzteSeite =>
      refine ⟨grenze, offen, fun some_ a committed org _ => ?_⟩
      obtain ⟨c, isCursor⟩ := Option.ne_none_iff_exists'.mp some_
      rw [isCursor]
      exact still rfl c isCursor a committed org
  have kontakte : ∀ p, p ∈ (client.lies wahl db orgId limit).kontakte ↔
      p ∈ (KontaktSync.snapshot db orgId after limit).contacts ∨
        p ∈ client.kontakte ∧ ∀ q ∈ (KontaktSync.snapshot db orgId after limit).contacts, p.id ≠ q.id := by
    intro p
    simp only [Client.lies, phase]
    exact mem_foldl_einsetzen distinct
  have seite : ∀ m, (client.lies wahl db orgId limit).phase = .snapshot m ↔
      (KontaktSync.snapshot db orgId after limit).nextPage = some m := by
    intro m
    simp only [Client.lies, phase]
    split
    · next next_ isNext => rw [isNext, Phase.snapshot.injEq, Option.some.injEq]
    · next isNext => simp [isNext]
  refine ⟨fun isNone => ?_, fun p member => ?_, fun m isNext p member => ?_, cursor.1, cursor.2.1,
    fun k erfasst bekannt p isId published => ?_⟩
  · simp only [Client.lies, phase] at isNone
    cases wahl <;> cases isNone
  · rcases (kontakte p).mp member with new | ⟨old, -⟩
    · obtain ⟨row, isRow, -, -, rfl⟩ := contacts p new
      exact (stimmt.nummern.kontaktId row isRow).1
    · exact aktuell.positiv p old
  · obtain ⟨beyond, bound⟩ := next m ((seite m).mp isNext)
    rcases (kontakte p).mp member with new | ⟨old, -⟩
    · exact bound p new
    · exact (aktuell.gelesen after phase p old).trans beyond.le
  · rw [kontakte]
    by_cases early : k ≤ after
    · have some_ : client.cursor ≠ none := by
        intro isNone
        have first := aktuell.anfang isNone
        rw [phase] at first
        cases first
        exact absurd erfasst.1 (by omega)
      have before : client.Erfasst k := by
        refine ⟨erfasst.1, fun m same => ?_⟩
        rw [phase] at same
        cases same
        exact early
      have held := aktuell.gleich k before fun a committed org about =>
        cursor.2.2 some_ a committed org (bekannt a committed org about)
      rw [← held p isId published]
      have apart : ∀ q ∈ (KontaktSync.snapshot db orgId after limit).contacts, p.id ≠ q.id := by
        intro q member
        obtain ⟨row, -, -, later, rfl⟩ := contacts q member
        have isLater : after < (contactPayload row).id := later
        omega
      constructor
      · rintro (new | ⟨old, -⟩)
        · exact absurd rfl (apart p new)
        · exact old
      · exact fun old => Or.inr ⟨old, apart⟩
    · have new : p ∉ client.kontakte := fun old => early (isId ▸ aktuell.gelesen after phase p old)
      rw [or_iff_left fun old => new old.1]
      constructor
      · intro member
        obtain ⟨row, isRow, org, -, same⟩ := contacts p member
        exact ⟨row, isRow, org, same⟩
      · rintro ⟨row, isRow, org, rfl⟩
        have atK : row.id = k := isId
        refine snapshot_complete stimmt positive isRow org (by omega) fun m isNext => ?_
        exact atK ▸ erfasst.2 m ((seite m).mpr isNext)

theorem Db.Stimmt.wohl {a : KontaktSyncAenderung} (committed : a ∈ db.aenderungen) {k : Nat}
    (about : Betrifft a k) {p : ContactPayload} (payload : a.payload = some (.contact p)) : p.id = k :=
  stimmt.gespiegelt.payload a (List.mem_append_left _ committed) k about p payload

theorem Client.Aktuell.delta {wahl : CursorWahl} (aktuell : client.Aktuell orgId db)
    (geordnet : Geordnet orgId db) (phase : client.phase = .delta) :
    (client.lies wahl db orgId limit).Aktuell orgId db := by
  let rows := db.aenderungen.filter (·.orgId == orgId)
  let c := client.cursor.getD 0
  let changes := (page KontaktSyncAenderung.id c limit rows).1
  let c' := (lastKey KontaktSyncAenderung.id changes).getD c
  have gelesen : client.lies wahl db orgId limit =
      { client with kontakte := (changes.map ereignis).foldl anwenden client.kontakte, cursor := some c' } := by
    simp only [Client.lies, phase]
    rfl
  have committed : ∀ a, a ∈ rows ↔ a ∈ db.aenderungen ∧ a.orgId = orgId := fun a => by
    rw [List.mem_filter, beq_iff_eq]
  have inPage : ∀ a ∈ changes, a ∈ db.aenderungen ∧ a.orgId = orgId ∧ c < a.id := by
    intro a member
    obtain ⟨isRow, later⟩ := mem_page member
    exact ⟨((committed a).mp isRow).1, ((committed a).mp isRow).2, later⟩
  have distinct : (rows.map (·.id)).Nodup := (List.filter_sublist.map _).nodup stimmt.nummern.aenderungen
  have bis : c ≤ c' ∧ (∀ a ∈ changes, a.id ≤ c') ∧ (∀ a ∈ rows, c < a.id → a.id ≤ c' → a ∈ changes) ∧
      (c' = c ∨ ∃ a ∈ changes, a.id = c') := by
    cases last : lastKey KontaktSyncAenderung.id changes with
    | none =>
      have same : c' = c := by simp only [c', last, Option.getD_none]
      have empty := lastKey_eq_none.mp last
      refine ⟨same ▸ le_refl _, fun a member => ?_, fun a _ later early => ?_, Or.inl same⟩
      · rw [empty] at member
        cases member
      · exact absurd early (by omega)
    | some m =>
      have same : c' = m := by simp only [c', last, Option.getD_some]
      have beyond : c < m := after_lt_lastKey last
      obtain ⟨a, atEnd, isEnd⟩ := Option.map_eq_some_iff.mp last
      refine ⟨by omega, fun a member => same ▸ page_lastKey last member, fun a isRow later early => ?_,
        Or.inr ⟨a, List.mem_of_getLast? atEnd, isEnd.trans same.symm⟩⟩
      exact page_until distinct last isRow later (same ▸ early)
  have wohl : ∀ a ∈ changes, ∀ q, Betrifft a a.entitaetId → a.payload = some (.contact q) → q.id = a.entitaetId :=
    fun a member q about payload => stimmt.wohl (inPage a member).1 about payload
  rw [gelesen]
  refine ⟨fun isNone => (by cases isNone), fun p member => ?_, fun m isNext => ?_, ?_, fun p isNew org => ?_,
    fun k erfasst bekannt p isId published => ?_⟩
  · rcases mem_foldl_anwenden member with old | ⟨a, isChange, entity, payload⟩
    · exact aktuell.positiv p old
    · have isA := (inPage a isChange).1
      obtain ⟨row, isRow, atRow, -⟩ := stimmt.gespiegelt.kontakt a isA _ ⟨entity, rfl⟩
      rw [stimmt.wohl isA ⟨entity, rfl⟩ payload, ← atRow]
      exact (stimmt.nummern.kontaktId row isRow).1
  · have isDelta : client.phase = .snapshot m := isNext
    rw [phase] at isDelta
    cases isDelta
  · rcases bis.2.2.2 with same | ⟨a, isChange, same⟩
    · exact (same ▸ aktuell.grenze : c' ≤ db.vergeben)
    · exact (same ▸ stimmt.nummern.aenderungId a (inPage a isChange).1 : c' ≤ db.vergeben)
  · rcases bis.2.2.2 with same | ⟨a, isChange, same⟩
    · exact (same ▸ aktuell.offen p isNew org : c' < p.2.id)
    · exact (same ▸ geordnet p isNew org a (inPage a isChange).1 (inPage a isChange).2.1 : c' < p.2.id)
  · by_cases changed : ∃ a ∈ changes, Betrifft a k
    · obtain ⟨a, isChange, about, last⟩ := exists_last KontaktSyncAenderung.id changed
      obtain ⟨isA, org, later⟩ := inPage a isChange
      obtain ⟨row, isRow, atRow, rowOrg⟩ := stimmt.gespiegelt.kontakt a isA k about
      -- the last change of the page is the last committed one
      have latest : ∀ b ∈ db.aenderungen, Betrifft b k → b.id ≤ a.id := by
        intro b isB aboutB
        obtain ⟨row', isRow', atRow', rowOrg'⟩ := stimmt.gespiegelt.kontakt b isB k aboutB
        obtain rfl := List.inj_on_of_nodup_map stimmt.nummern.kontakte isRow' isRow (atRow'.trans atRow.symm)
        have orgB : b.orgId = orgId := by rw [← rowOrg', rowOrg, org]
        by_cases early : b.id ≤ c
        · omega
        · have inside := bis.2.2.1 b ((committed b).mpr ⟨isB, orgB⟩) (by omega) (bekannt b isB orgB aboutB)
          exact last b inside aboutB
      have spiegelt := stimmt.gespiegelt.fest a isA k about latest row isRow atRow
      subst atRow
      refine (mem_foldl_anwenden_last page_sorted (page_nodup distinct) wohl isChange about last spiegelt isId
        published).trans ⟨fun same => ⟨row, isRow, rowOrg.trans org, same⟩, ?_⟩
      rintro ⟨row', isRow', -, rfl⟩
      rw [List.inj_on_of_nodup_map stimmt.nummern.kontakte isRow' isRow isId]
    · have before := aktuell.gleich k ⟨erfasst.1, erfasst.2⟩ fun a isA org about => by
        by_contra beyond
        refine changed ⟨a, ?_, about⟩
        exact bis.2.2.1 a ((committed a).mpr ⟨isA, org⟩) (Nat.lt_of_not_le beyond) (bekannt a isA org about)
      refine (mem_foldl_anwenden_other (fun a member about => changed ⟨a, member, ?_⟩) wohl).trans (before p isId published)
      exact isId ▸ about

end

end Lesen

/-- What keeps the feed complete: an update is made on an object that shows the
row as it is; and when the client reads a page no transaction is open with a
change of an earlier number than a committed one. A client that goes on from the
last page of the snapshot reads its pages while no change is committed. -/
def Zulaessig (orgId : Nat) (wahl : CursorWahl) (welt : Welt) : Aktion → Prop
  | .update _ gelesen setze => Frisch welt.db gelesen setze
  | .lies _ =>
    Geordnet orgId welt.db ∧ (wahl = .letzteSeite → welt.client.phase ≠ .delta → ∀ c ∈ welt.client.cursor,
      ∀ a ∈ welt.db.aenderungen, a.orgId = orgId → a.id ≤ c)
  | _ => True

instance (orgId : Nat) (wahl : CursorWahl) (welt : Welt) (aktion : Aktion) :
    Decidable (Zulaessig orgId wahl welt aktion) := by
  unfold Zulaessig Frisch Geordnet
  split <;> infer_instance

section Lauf

variable {orgId : Nat} {wahl : CursorWahl}

variable {db : Db} {client : Client}

theorem Client.Aktuell.schreibe (aktuell : client.Aktuell orgId db) (tx : Nat) (row : Kontakt)
    (entity : Entitaet) (entityId org : Nat) (operation : Operation) (payload : Option Payload) :
    client.Aktuell orgId (recordChange (schreibeZeile db tx row) tx org entity entityId operation payload) := by
  refine aktuell.flush rfl rfl (Nat.le_succ _) fun p member => ?_
  rcases List.mem_append.mp member with old | new
  · exact Or.inl old
  · rw [List.mem_singleton.mp new]
    exact Or.inr (Nat.lt_succ_self _)

def rest (orgId : Nat) (db : Db) (client : Client) : Nat :=
  let changes := db.aenderungen.filter (·.orgId == orgId)
  match client.phase with
  | .snapshot after => (above Kontakt.id after (db.kontakte.filter (·.orgId == orgId))).length + 1 + changes.length
  | .delta => (above KontaktSyncAenderung.id (client.cursor.getD 0) changes).length

end Lauf

end Einsatzcockpit.KontaktSync
