import Einsatzcockpit.KontaktSync.Records

namespace Einsatzcockpit.KontaktSync

def Spiegelt (a : KontaktSyncAenderung) (row : Kontakt) : Prop :=
  a.operation = .upsert ∧ a.payload = some (.contact (contactPayload row)) ∨
    a.operation = .tombstone ∧ row.werte.archiviert = true

def Betrifft (a : KontaktSyncAenderung) (kontaktId : Nat) : Prop :=
  a.entitaet = .kontakt ∧ a.entitaetId = kontaktId

/-- No two changes and no two rows of one table have the same number. -/
structure Db.Nummern (db : Db) : Prop where
  kontakte : (db.kontakte.map (·.id)).Nodup
  zeilen : (db.zeilen.map (·.2.id)).Nodup
  aenderungen : (db.aenderungen.map (·.id)).Nodup
  neu : (db.neu.map (·.2.id)).Nodup
  getrennt : ∀ a ∈ db.aenderungen, ∀ p ∈ db.neu, a.id ≠ p.2.id
  kontaktId : ∀ row ∈ db.kontakte, 0 < row.id ∧ row.id ≤ db.kontakteVergeben
  zeilenId : ∀ z ∈ db.zeilen, 0 < z.2.id ∧ z.2.id ≤ db.kontakteVergeben
  aenderungId : ∀ a ∈ db.aenderungen, a.id ≤ db.vergeben
  neuId : ∀ p ∈ db.neu, 0 < p.2.id ∧ p.2.id ≤ db.vergeben

/-- The last change of a contact tells its row, among the committed rows and in
the transaction that has written it. -/
structure Db.Gespiegelt (db : Db) : Prop where
  org : ∀ z ∈ db.zeilen, ∀ row ∈ db.kontakte, row.id = z.2.id → row.orgId = z.2.orgId
  geschrieben : ∀ z ∈ db.zeilen, ∃ p ∈ db.neu, p.1 = z.1 ∧ Betrifft p.2 z.2.id ∧ p.2.orgId = z.2.orgId
  zeile : ∀ p ∈ db.neu, ∀ k, Betrifft p.2 k → ∃ z ∈ db.zeilen, z.1 = p.1 ∧ z.2.id = k ∧ z.2.orgId = p.2.orgId
  kontakt : ∀ a ∈ db.aenderungen, ∀ k, Betrifft a k → ∃ row ∈ db.kontakte, row.id = k ∧ row.orgId = a.orgId
  spaeter : ∀ p ∈ db.neu, ∀ k, Betrifft p.2 k → ∀ a ∈ db.aenderungen, Betrifft a k → a.id < p.2.id
  offen : ∀ p ∈ db.neu, ∀ k, Betrifft p.2 k → (∀ q ∈ db.neu, Betrifft q.2 k → q.2.id ≤ p.2.id) →
    ∀ z ∈ db.zeilen, z.2.id = k → Spiegelt p.2 z.2
  fest : ∀ a ∈ db.aenderungen, ∀ k, Betrifft a k → (∀ b ∈ db.aenderungen, Betrifft b k → b.id ≤ a.id) →
    ∀ row ∈ db.kontakte, row.id = k → Spiegelt a row
  payload : ∀ a ∈ db.aenderungen ++ db.neu.map (·.2), ∀ k, Betrifft a k → ∀ p, a.payload = some (.contact p) → p.id = k

structure Db.Stimmt (db : Db) : Prop where
  nummern : db.Nummern
  gespiegelt : db.Gespiegelt

section Schreiben

variable {db : Db} {tx : Nat} {row : Kontakt} {operation : Operation} {payload : Option Payload}

theorem frei_iff {kontaktId : Nat} :
    gesperrt db tx kontaktId = false ↔ ∀ z ∈ db.zeilen, z.2.id = kontaktId → z.1 = tx := by
  simp only [gesperrt, List.any_eq_false, Bool.and_eq_true, bne_iff_ne, beq_iff_eq, not_and]
  exact forall₂_congr fun z _ => ⟨fun h same => by_contra fun other => h other same, fun h other same => other (h same)⟩

theorem Db.Nummern.schreibe (nummern : db.Nummern) (positiv : 0 < row.id ∧ row.id ≤ db.kontakteVergeben)
    (entity : Entitaet) (entityId orgId : Nat) :
    (recordChange (schreibeZeile db tx row) tx orgId entity entityId operation payload).Nummern := by
  refine ⟨nummern.kontakte, ?_, nummern.aenderungen, ?_, fun a member p isNew => ?_, nummern.kontaktId, fun z member => ?_,
    fun a member => Nat.le_succ_of_le (nummern.aenderungId a member), fun p member => ?_⟩
  · simp only [recordChange, schreibeZeile, List.map_cons, List.nodup_cons]
    refine ⟨fun inside => ?_, (List.filter_sublist.map _).nodup nummern.zeilen⟩
    obtain ⟨z, kept, same⟩ := List.mem_map.mp inside
    have differs := (List.mem_filter.mp kept).2
    rw [bne_iff_ne] at differs
    exact differs same
  · simp only [recordChange, schreibeZeile, List.map_append, List.map_singleton]
    refine List.nodup_append'.mpr ⟨nummern.neu, List.nodup_singleton _, ?_⟩
    rw [List.disjoint_singleton]
    intro inside
    obtain ⟨p, member, same⟩ := List.mem_map.mp inside
    have bound := (nummern.neuId p member).2
    omega
  · rcases List.mem_append.mp isNew with old | new
    · exact nummern.getrennt a member p old
    · rw [List.mem_singleton.mp new]
      have bound := nummern.aenderungId a member
      simp only [schreibeZeile]
      omega
  · rcases List.mem_cons.mp member with rfl | kept
    · exact positiv
    · exact nummern.zeilenId z (List.mem_of_mem_filter kept)
  · rcases List.mem_append.mp member with old | new
    · have bound := nummern.neuId p old
      exact ⟨bound.1, Nat.le_succ_of_le bound.2⟩
    · rw [List.mem_singleton.mp new]
      exact ⟨Nat.succ_pos _, le_refl _⟩

theorem Db.Stimmt.schreibe (stimmt : db.Stimmt) (positiv : 0 < row.id ∧ row.id ≤ db.kontakteVergeben)
    (frei : gesperrt db tx row.id = false) (alt : ∀ old ∈ db.kontakte, old.id = row.id → old.orgId = row.orgId)
    (eigen : ∀ z ∈ db.zeilen, z.2.id = row.id → z.2.orgId = row.orgId)
    (spiegelt : operation = .upsert ∧ payload = some (.contact (contactPayload row)) ∨
      operation = .tombstone ∧ row.werte.archiviert = true ∧ ∀ p, payload ≠ some (.contact p)) :
    (recordChange (schreibeZeile db tx row) tx row.orgId .kontakt row.id operation payload).Stimmt := by
  obtain ⟨nummern, gespiegelt⟩ := stimmt
  have own := frei_iff.mp frei
  have zeilen : ∀ z, z ∈ (tx, row) :: db.zeilen.filter (fun z => z.2.id != row.id) ↔
      z = (tx, row) ∨ z ∈ db.zeilen ∧ z.2.id ≠ row.id := by
    intro z
    rw [List.mem_cons, List.mem_filter, bne_iff_ne]
  let neu : KontaktSyncAenderung := {
    id := db.vergeben + 1, orgId := row.orgId, entitaet := .kontakt, entitaetId := row.id, operation, payload }
  have rows : ∀ p, p ∈ db.neu ++ [(tx, neu)] ↔ p ∈ db.neu ∨ p = (tx, neu) := by
    intro p
    rw [List.mem_append, List.mem_singleton]
  refine ⟨nummern.schreibe positiv _ _ _, ⟨fun z member old isOld same => ?_, fun z member => ?_, fun p member k about => ?_,
    gespiegelt.kontakt, fun p member k about a isOld same => ?_, fun p member k about latest z isRow same => ?_,
    gespiegelt.fest, fun a member k about p given_ => ?_⟩⟩
  · rcases (zeilen z).mp member with rfl | ⟨kept, -⟩
    · exact alt old isOld same
    · exact gespiegelt.org z kept old isOld same
  · rcases (zeilen z).mp member with rfl | ⟨kept, -⟩
    · exact ⟨(tx, neu), (rows _).mpr (Or.inr rfl), rfl, ⟨rfl, rfl⟩, rfl⟩
    · obtain ⟨p, inside, found⟩ := gespiegelt.geschrieben z kept
      exact ⟨p, (rows p).mpr (Or.inl inside), found⟩
  · rcases (rows p).mp member with old | rfl
    · obtain ⟨z, inside, same, isId, org⟩ := gespiegelt.zeile p old k about
      by_cases atRow : z.2.id = row.id
      · refine ⟨(tx, row), (zeilen _).mpr (Or.inl rfl), ?_, atRow ▸ isId, ?_⟩
        · rw [← own z inside atRow, same]
        · rw [← eigen z inside atRow, org]
      · exact ⟨z, (zeilen z).mpr (Or.inr ⟨inside, atRow⟩), same, isId, org⟩
    · exact ⟨(tx, row), (zeilen _).mpr (Or.inl rfl), rfl, about.2, rfl⟩
  · rcases (rows p).mp member with old | rfl
    · exact gespiegelt.spaeter p old k about a isOld same
    · exact Nat.lt_succ_of_le (nummern.aenderungId a isOld)
  · have newest : row.id = k → p = (tx, neu) := by
      intro atRow
      rcases (rows p).mp member with old | new
      · have above := latest (tx, neu) ((rows _).mpr (Or.inr rfl)) ⟨rfl, atRow⟩
        have bound := (nummern.neuId p old).2
        exact absurd above (by simp only [neu]; omega)
      · exact new
    rcases (zeilen z).mp isRow with rfl | ⟨kept, other⟩
    · rw [newest same]
      exact spiegelt.imp_right fun gone => ⟨gone.1, gone.2.1⟩
    · rcases (rows p).mp member with old | rfl
      · refine gespiegelt.offen p old k about (fun q inside => latest q ((rows q).mpr (Or.inl inside))) z kept same
      · exact absurd (same.trans about.2.symm) other
  · rw [List.mem_append, List.mem_map] at member
    rcases member with old | ⟨q, inside, rfl⟩
    · exact gespiegelt.payload a (List.mem_append_left _ old) k about p given_
    · rcases (rows q).mp inside with old | rfl
      · exact gespiegelt.payload _ (List.mem_append_right _ (List.mem_map_of_mem old)) k about p given_
      · rcases spiegelt with ⟨-, isPayload⟩ | ⟨-, -, none⟩
        · have same : payload = some (.contact p) := given_
          rw [isPayload] at same
          cases same
          exact about.2
        · exact absurd given_ (none p)

theorem zeile?_mem (stimmt : db.Stimmt) {kontaktId : Nat} (found : zeile? db kontaktId = some row) :
    row.id = kontaktId ∧ (0 < row.id ∧ row.id ≤ db.kontakteVergeben) ∧
      (∀ old ∈ db.kontakte, old.id = row.id → old.orgId = row.orgId) ∧
      ∀ z ∈ db.zeilen, z.2.id = row.id → z.2.orgId = row.orgId := by
  rcases Option.or_eq_some_iff.mp found with written | ⟨unwritten, committed⟩
  · obtain ⟨z, first, rfl⟩ := Option.map_eq_some_iff.mp written
    have member := List.mem_of_find?_eq_some first
    refine ⟨by simpa using List.find?_some first, stimmt.nummern.zeilenId z member, fun old isOld same => ?_,
      fun z' other same => ?_⟩
    · exact stimmt.gespiegelt.org z member old isOld same
    · rw [List.inj_on_of_nodup_map stimmt.nummern.zeilen other member same]
  · have member := List.mem_of_find?_eq_some committed
    have isId : row.id = kontaktId := by simpa using List.find?_some committed
    refine ⟨isId, stimmt.nummern.kontaktId row member, fun old isOld same => ?_, fun z written same => ?_⟩
    · rw [List.inj_on_of_nodup_map stimmt.nummern.kontakte isOld member same]
    · rw [Option.map_eq_none_iff, List.find?_eq_none] at unwritten
      exact absurd (beq_iff_eq.mpr (same.trans isId)) (unwritten z written)

theorem Db.Stimmt.create (stimmt : db.Stimmt) (orgId : Nat) (werte : Werte) : (createKontakt db tx orgId werte).Stimmt := by
  obtain ⟨nummern, gespiegelt⟩ := stimmt
  have fresh : ∀ z ∈ db.zeilen, z.2.id ≠ db.kontakteVergeben + 1 := by
    intro z member
    have bound := (nummern.zeilenId z member).2
    omega
  have grown : Db.Stimmt { db with kontakteVergeben := db.kontakteVergeben + 1 } := by
    refine ⟨⟨nummern.kontakte, nummern.zeilen, nummern.aenderungen, nummern.neu, nummern.getrennt, fun row member => ?_,
      fun z member => ?_, nummern.aenderungId, nummern.neuId⟩, ⟨gespiegelt.org, gespiegelt.geschrieben, gespiegelt.zeile,
        gespiegelt.kontakt, gespiegelt.spaeter, gespiegelt.offen, gespiegelt.fest, gespiegelt.payload⟩⟩
    · exact (nummern.kontaktId row member).imp_right Nat.le_succ_of_le
    · exact (nummern.zeilenId z member).imp_right Nat.le_succ_of_le
  refine grown.schreibe ⟨Nat.succ_pos _, le_refl _⟩ ?_ (fun old member same => ?_) (fun z member same => ?_)
    (Or.inl ⟨rfl, rfl⟩)
  · exact frei_iff.mpr fun z member same => absurd same (fresh z member)
  · have bound := (nummern.kontaktId old member).2
    exact absurd same (by dsimp only; omega)
  · exact absurd same (fresh z member)

def Frisch (db : Db) (gelesen : Kontakt) (setze : Werte → Werte) : Prop :=
  ∀ row ∈ zeile? db gelesen.id, setze gelesen.werte = setze row.werte

theorem Db.Stimmt.update {gelesen : Kontakt} {setze : Werte → Werte} (stimmt : db.Stimmt)
    (frisch : Frisch db gelesen setze) : (updateKontakt db tx gelesen setze).Stimmt := by
  unfold updateKontakt
  split
  · next row frei found =>
    obtain ⟨isId, positiv, alt, eigen⟩ := zeile?_mem stimmt found
    refine @Db.Stimmt.schreibe db tx { row with werte := setze row.werte } _ _ stimmt positiv (isId ▸ frei) alt eigen
      (Or.inl ⟨rfl, ?_⟩)
    rw [contactPayload, contactPayload, frisch row found, isId]
  · exact stimmt

theorem Db.Stimmt.archive {kontaktId : Nat} {setze : Werte → Werte} {mergedInto : Option Nat} (stimmt : db.Stimmt) :
    (archiveKontakt db tx kontaktId setze mergedInto).Stimmt := by
  unfold archiveKontakt
  split
  · next row frei found =>
    obtain ⟨isId, positiv, alt, eigen⟩ := zeile?_mem stimmt found
    let row' : Kontakt := { row with werte := { setze row.werte with archiviert := true, aktiv := false } }
    refine @Db.Stimmt.schreibe db tx row' _ _ stimmt positiv (isId ▸ frei) alt eigen (Or.inr ⟨rfl, rfl, fun p same => ?_⟩)
    cases mergedInto <;> cases same
  · exact stimmt

theorem Db.Stimmt.zuordnung {mapping : ObjektKontakt} {bleibt : Bool} (stimmt : db.Stimmt) :
    (schreibeZuordnung db tx mapping bleibt).Stimmt := by
  obtain ⟨nummern, gespiegelt⟩ := stimmt
  have old : ∀ p ∈ (schreibeZuordnung db tx mapping bleibt).neu, ∀ k, Betrifft p.2 k → p ∈ db.neu := by
    intro p member k about
    rcases List.mem_append.mp member with old | new
    · exact old
    · rw [List.mem_singleton.mp new] at about
      cases about.1
  have kept : ∀ p ∈ db.neu, p ∈ (schreibeZuordnung db tx mapping bleibt).neu := fun p => List.mem_append_left _
  refine ⟨⟨nummern.kontakte, nummern.zeilen, nummern.aenderungen, ?_, fun a member p isNew => ?_, nummern.kontaktId,
    nummern.zeilenId, fun a member => Nat.le_succ_of_le (nummern.aenderungId a member), fun p member => ?_⟩,
    ⟨gespiegelt.org, fun z member => ?_, fun p member k about => gespiegelt.zeile p (old p member k about) k about,
      gespiegelt.kontakt, fun p member k about => gespiegelt.spaeter p (old p member k about) k about,
      fun p member k about latest => ?_, gespiegelt.fest, fun a member k about => ?_⟩⟩
  · simp only [schreibeZuordnung, recordChange, List.map_append, List.map_singleton]
    refine List.nodup_append'.mpr ⟨nummern.neu, List.nodup_singleton _, ?_⟩
    rw [List.disjoint_singleton]
    intro inside
    obtain ⟨p, member, same⟩ := List.mem_map.mp inside
    have bound := (nummern.neuId p member).2
    omega
  · rcases List.mem_append.mp isNew with old | new
    · exact nummern.getrennt a member p old
    · rw [List.mem_singleton.mp new]
      have bound := nummern.aenderungId a member
      dsimp only
      omega
  · rcases List.mem_append.mp member with old | new
    · exact (nummern.neuId p old).imp_right Nat.le_succ_of_le
    · rw [List.mem_singleton.mp new]
      exact ⟨Nat.succ_pos _, le_refl _⟩
  · obtain ⟨p, inside, found⟩ := gespiegelt.geschrieben z member
    exact ⟨p, kept p inside, found⟩
  · exact gespiegelt.offen p (old p member k about) k about fun q inside => latest q (kept q inside)
  · rw [List.mem_append, List.mem_map] at member
    rcases member with committed | ⟨q, inside, rfl⟩
    · exact gespiegelt.payload a (List.mem_append_left _ committed) k about
    · exact gespiegelt.payload _ (List.mem_append_right _ (List.mem_map_of_mem (old q inside k about))) k about

end Schreiben

section Abschluss

variable {db : Db} {tx : Nat}

theorem Db.Stimmt.eine (stimmt : db.Stimmt) {p q : Nat × KontaktSyncAenderung} {k : Nat} (isP : p ∈ db.neu) (isQ : q ∈ db.neu)
    (aboutP : Betrifft p.2 k) (aboutQ : Betrifft q.2 k) : p.1 = q.1 := by
  obtain ⟨z, inside, same, isId, -⟩ := stimmt.gespiegelt.zeile p isP k aboutP
  obtain ⟨z', inside', same', isId', -⟩ := stimmt.gespiegelt.zeile q isQ k aboutQ
  have equal := List.inj_on_of_nodup_map stimmt.nummern.zeilen inside inside' (isId.trans isId'.symm)
  rw [← same, ← same', equal]

theorem Db.Stimmt.rollback (stimmt : db.Stimmt) : (rollback db tx).Stimmt := by
  have ⟨nummern, gespiegelt⟩ := stimmt
  have neu : ∀ p, p ∈ db.neu.filter (·.1 != tx) ↔ p ∈ db.neu ∧ p.1 ≠ tx := by
    intro p
    rw [List.mem_filter, bne_iff_ne]
  have zeilen : ∀ z, z ∈ db.zeilen.filter (·.1 != tx) ↔ z ∈ db.zeilen ∧ z.1 ≠ tx := by
    intro z
    rw [List.mem_filter, bne_iff_ne]
  refine ⟨⟨nummern.kontakte, (List.filter_sublist.map _).nodup nummern.zeilen, nummern.aenderungen,
      (List.filter_sublist.map _).nodup nummern.neu, fun a member p isNew => ?_, nummern.kontaktId, fun z member => ?_,
      nummern.aenderungId, fun p member => ?_⟩,
    ⟨fun z member => ?_, fun z member => ?_, fun p member k about => ?_, gespiegelt.kontakt, fun p member => ?_,
      fun p member k about latest z isRow same => ?_, gespiegelt.fest, fun a member k about => ?_⟩⟩
  · exact nummern.getrennt a member p ((neu p).mp isNew).1
  · exact nummern.zeilenId z ((zeilen z).mp member).1
  · exact nummern.neuId p ((neu p).mp member).1
  · exact gespiegelt.org z ((zeilen z).mp member).1
  · obtain ⟨inside, other⟩ := (zeilen z).mp member
    obtain ⟨p, isP, same, found⟩ := gespiegelt.geschrieben z inside
    exact ⟨p, (neu p).mpr ⟨isP, same ▸ other⟩, same, found⟩
  · obtain ⟨inside, other⟩ := (neu p).mp member
    obtain ⟨z, isZ, same, found⟩ := gespiegelt.zeile p inside k about
    exact ⟨z, (zeilen z).mpr ⟨isZ, same ▸ other⟩, same, found⟩
  · exact gespiegelt.spaeter p ((neu p).mp member).1
  · obtain ⟨inside, other⟩ := (neu p).mp member
    refine gespiegelt.offen p inside k about (fun q isQ aboutQ => ?_) z ((zeilen z).mp isRow).1 same
    exact latest q ((neu q).mpr ⟨isQ, stimmt.eine inside isQ about aboutQ ▸ other⟩) aboutQ
  · rw [List.mem_append, List.mem_map] at member
    rcases member with committed | ⟨q, inside, rfl⟩
    · exact gespiegelt.payload a (List.mem_append_left _ committed) k about
    · exact gespiegelt.payload _ (List.mem_append_right _ (List.mem_map_of_mem ((neu q).mp inside).1)) k about

theorem mem_commit_aenderungen {a : KontaktSyncAenderung} :
    a ∈ (commit db tx).aenderungen ↔ a ∈ db.aenderungen ∨ (tx, a) ∈ db.neu := by
  simp only [commit, List.mem_append, List.mem_map, List.mem_filter, beq_iff_eq]
  refine or_congr_right ⟨?_, fun isNew => ⟨(tx, a), ⟨isNew, rfl⟩, rfl⟩⟩
  rintro ⟨⟨tx', a'⟩, ⟨isNew, rfl⟩, rfl⟩
  exact isNew

theorem mem_commit_kontakte {row : Kontakt} : row ∈ (commit db tx).kontakte ↔
    (row ∈ db.kontakte ∧ ∀ z ∈ db.zeilen, z.1 = tx → z.2.id ≠ row.id) ∨ (tx, row) ∈ db.zeilen := by
  simp only [commit, List.mem_append, List.mem_map, List.mem_filter, beq_iff_eq, Bool.not_eq_true', List.any_eq_false]
  refine or_congr (and_congr_right fun _ => ?_) ⟨?_, fun written => ⟨(tx, row), ⟨written, rfl⟩, rfl⟩⟩
  · exact ⟨fun none z isZ own => none z.2 ⟨z, ⟨isZ, own⟩, rfl⟩, fun none x ⟨z, ⟨isZ, own⟩, same⟩ => same ▸ none z isZ own⟩
  · rintro ⟨⟨tx', row'⟩, ⟨written, rfl⟩, rfl⟩
    exact written

theorem Db.Nummern.commit (nummern : db.Nummern) : (commit db tx).Nummern := by
  refine ⟨?_, (List.filter_sublist.map _).nodup nummern.zeilen, ?_, (List.filter_sublist.map _).nodup nummern.neu,
    fun a member p isNew => ?_, fun row member => ?_, fun z member => nummern.zeilenId z (List.mem_of_mem_filter member),
    fun a member => ?_, fun p member => nummern.neuId p (List.mem_of_mem_filter member)⟩
  · simp only [KontaktSync.commit, List.map_append, List.map_map]
    refine List.nodup_append'.mpr ⟨(List.filter_sublist.map _).nodup nummern.kontakte,
      (List.filter_sublist.map _).nodup nummern.zeilen, ?_⟩
    rintro id inside own
    obtain ⟨row, kept, rfl⟩ := List.mem_map.mp inside
    obtain ⟨z, isZ, same⟩ := List.mem_map.mp own
    have none := (List.mem_filter.mp kept).2
    rw [Bool.not_eq_true', List.any_eq_false] at none
    exact none z.2 (List.mem_map_of_mem isZ) (beq_iff_eq.mpr same)
  · simp only [KontaktSync.commit, List.map_append, List.map_map]
    refine List.nodup_append'.mpr ⟨nummern.aenderungen, (List.filter_sublist.map _).nodup nummern.neu, ?_⟩
    rintro id inside own
    obtain ⟨a, committed, rfl⟩ := List.mem_map.mp inside
    obtain ⟨p, isNew, same⟩ := List.mem_map.mp own
    exact nummern.getrennt a committed p (List.mem_of_mem_filter isNew) same.symm
  · obtain ⟨inside, other⟩ := List.mem_filter.mp isNew
    rcases mem_commit_aenderungen.mp member with committed | own
    · exact nummern.getrennt a committed p inside
    · intro same
      have equal := List.inj_on_of_nodup_map nummern.neu own inside same
      rw [bne_iff_ne, ← equal] at other
      exact other rfl
  · rcases mem_commit_kontakte.mp member with ⟨old, -⟩ | written
    · exact nummern.kontaktId row old
    · exact nummern.zeilenId _ written
  · rcases mem_commit_aenderungen.mp member with committed | own
    · exact nummern.aenderungId a committed
    · exact (nummern.neuId _ own).2

theorem Db.Stimmt.commit (stimmt : db.Stimmt) : (commit db tx).Stimmt := by
  have ⟨nummern, gespiegelt⟩ := stimmt
  have neu : ∀ p, p ∈ (KontaktSync.commit db tx).neu ↔ p ∈ db.neu ∧ p.1 ≠ tx := by
    intro p
    exact List.mem_filter.trans (and_congr_right fun _ => bne_iff_ne)
  have zeilen : ∀ z, z ∈ (KontaktSync.commit db tx).zeilen ↔ z ∈ db.zeilen ∧ z.1 ≠ tx := by
    intro z
    exact List.mem_filter.trans (and_congr_right fun _ => bne_iff_ne)
  refine ⟨nummern.commit, ⟨fun z member row isRow same => ?_, fun z member => ?_, fun p member k about => ?_,
    fun a member k about => ?_, fun p member k about a isOld same => ?_, fun p member k about latest z isRow same => ?_,
    fun a member k about latest row isRow same => ?_, fun a member k about => ?_⟩⟩
  · obtain ⟨inside, other⟩ := (zeilen z).mp member
    rcases mem_commit_kontakte.mp isRow with ⟨old, -⟩ | written
    · exact gespiegelt.org z inside row old same
    · exact absurd (congrArg Prod.fst (List.inj_on_of_nodup_map nummern.zeilen written inside same)).symm other
  · obtain ⟨inside, other⟩ := (zeilen z).mp member
    obtain ⟨p, isP, same, found⟩ := gespiegelt.geschrieben z inside
    exact ⟨p, (neu p).mpr ⟨isP, same ▸ other⟩, same, found⟩
  · obtain ⟨inside, other⟩ := (neu p).mp member
    obtain ⟨z, isZ, same, found⟩ := gespiegelt.zeile p inside k about
    exact ⟨z, (zeilen z).mpr ⟨isZ, same ▸ other⟩, same, found⟩
  · rcases mem_commit_aenderungen.mp member with committed | own
    · obtain ⟨row, isRow, isId, org⟩ := gespiegelt.kontakt a committed k about
      by_cases rewritten : ∃ z ∈ db.zeilen, z.1 = tx ∧ z.2.id = row.id
      · obtain ⟨z, isZ, rfl, same⟩ := rewritten
        refine ⟨z.2, mem_commit_kontakte.mpr (Or.inr isZ), same.trans isId, ?_⟩
        rw [← gespiegelt.org z isZ row isRow same.symm, org]
      · refine ⟨row, mem_commit_kontakte.mpr (Or.inl ⟨isRow, fun z isZ own same => ?_⟩), isId, org⟩
        exact rewritten ⟨z, isZ, own, same⟩
    · obtain ⟨z, isZ, same, isId, org⟩ := gespiegelt.zeile _ own k about
      obtain rfl : z.1 = tx := same
      exact ⟨z.2, mem_commit_kontakte.mpr (Or.inr isZ), isId, org⟩
  · obtain ⟨inside, other⟩ := (neu p).mp member
    rcases mem_commit_aenderungen.mp isOld with committed | own
    · exact gespiegelt.spaeter p inside k about a committed same
    · exact absurd (stimmt.eine inside own about same) other
  · obtain ⟨inside, other⟩ := (neu p).mp member
    refine gespiegelt.offen p inside k about (fun q isQ aboutQ => ?_) z ((zeilen z).mp isRow).1 same
    exact latest q ((neu q).mpr ⟨isQ, stimmt.eine inside isQ about aboutQ ▸ other⟩) aboutQ
  · rcases mem_commit_kontakte.mp isRow with ⟨old, unwritten⟩ | written
    · rcases mem_commit_aenderungen.mp member with committed | own
      · refine gespiegelt.fest a committed k about (fun b isB => ?_) row old same
        exact latest b (mem_commit_aenderungen.mpr (Or.inl isB))
      · obtain ⟨z, isZ, isTx, isId, -⟩ := gespiegelt.zeile _ own k about
        exact absurd (isId.trans same.symm) (unwritten z isZ isTx)
    · -- the transaction has recorded what it has written, later than all before
      obtain ⟨p, isP, isTx, aboutP, -⟩ := gespiegelt.geschrieben _ written
      have ownP : (tx, p.2) ∈ db.neu := by
        rw [show (tx, p.2) = p from Prod.ext isTx.symm rfl]
        exact isP
      have about' : Betrifft p.2 k := ⟨aboutP.1, aboutP.2.trans same⟩
      have atLeast := latest p.2 (mem_commit_aenderungen.mpr (Or.inr ownP)) about'
      rcases mem_commit_aenderungen.mp member with committed | own
      · have before := gespiegelt.spaeter p isP k about' a committed about
        omega
      · refine gespiegelt.offen (tx, a) own k about (fun q isQ aboutQ => ?_) (tx, row) written same
        obtain rfl : q.1 = tx := stimmt.eine isQ own aboutQ about
        exact latest q.2 (mem_commit_aenderungen.mpr (Or.inr isQ)) aboutQ
  · refine gespiegelt.payload a ?_ k about
    rw [List.mem_append, List.mem_map] at member ⊢
    rcases member with committed | ⟨q, isQ, rfl⟩
    · rcases mem_commit_aenderungen.mp committed with old | own
      · exact Or.inl old
      · exact Or.inr ⟨_, own, rfl⟩
    · exact Or.inr ⟨q, ((neu q).mp isQ).1, rfl⟩

end Abschluss

end Einsatzcockpit.KontaktSync
