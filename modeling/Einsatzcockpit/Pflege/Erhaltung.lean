import Einsatzcockpit.Pflege.Umlagerung

namespace Einsatzcockpit.Pflege

open Raising Relational

/-- No person and no equipment is lost or made up, and nothing falls below
zero. -/
structure Erhalten (db db' : Bestand) : Prop where
  personen : ∀ lageId, db'.personenzahl lageId = db.personenzahl lageId
  menge : ∀ k, db'.menge k = db.menge k
  ausstattungNonneg : ∀ z ∈ db'.ausstattung, 0 ≤ z.menge
  personenNonneg : (∀ e ∈ db.einheiten, 0 ≤ e.zahlen.gesamt) → ∀ e ∈ db'.einheiten, 0 ≤ e.zahlen.gesamt

section Einheiten

variable {db : Bestand}

def NichtNegativ (db : Bestand) : Prop := ∀ e ∈ db.einheiten, 0 ≤ e.zahlen.gesamt

section

variable (nonneg : NichtNegativ db)
include nonneg

theorem NichtNegativ.setEinheit (id : Nat) {f : LageEinheit → LageEinheit}
    (holds : ∀ e, 0 ≤ (f e).zahlen.gesamt) : NichtNegativ (db.setEinheit id f) := by
  intro e' member
  obtain ⟨e, old, rfl⟩ := mem_update.mp member
  split
  · exact holds e
  · exact nonneg e old

theorem NichtNegativ.mitGesamt (id : Nat) {n : Int} (holds : 0 ≤ n) :
    NichtNegativ (db.setEinheit id (·.mitGesamt n)) :=
  nonneg.setEinheit id fun _ => holds

theorem NichtNegativ.neuBerechnen (s : Sitzung) (ids : List Nat) :
    NichtNegativ (ids.foldl (neuBerechnen s) db) := by
  induction ids generalizing db with
  | nil => exact nonneg
  | cons id rest ih => exact ih (nonneg.setEinheit id fun e => Int.natCast_nonneg _)

theorem NichtNegativ.mengen {ziele : List (Nat × Int)} (holds : ∀ ziel ∈ ziele, 0 ≤ ziel.2) :
    NichtNegativ (ziele.foldl (fun db ziel => db.setEinheit ziel.1 (·.mitGesamt ziel.2)) db) := by
  induction ziele generalizing db with
  | nil => exact nonneg
  | cons ziel rest ih =>
    exact ih (nonneg.mitGesamt ziel.1 (holds ziel (List.mem_cons_self ..)))
      fun other inside => holds other (List.mem_cons_of_mem _ inside)

end

theorem verschiebeAlle_rest {s : Sitzung} {lage : MajorIncident} {wege : List (Nat × LageEinheitPerson)} {db' : Bestand}
    (ok : verschiebeAlle s lage wege db = .ok db') :
    db'.einheiten = db.einheiten ∧ db'.ausstattung = db.ausstattung ∧ db'.zeilen = db.zeilen := by
  refine Transition.foldlM_keeps
    (P := fun v : Bestand => v.einheiten = db.einheiten ∧ v.ausstattung = db.ausstattung ∧ v.zeilen = db.zeilen)
    (fun v weg v' held moved => ?_) ⟨rfl, rfl, rfl⟩ ok
  obtain ⟨_, -, rfl⟩ := verschiebePerson_bleibt moved
  exact held

theorem neuBerechnen_rest (s : Sitzung) (ids : List Nat) (db : Bestand) :
    (ids.foldl (neuBerechnen s) db).ausstattung = db.ausstattung ∧
      (ids.foldl (neuBerechnen s) db).zeilen = db.zeilen := by
  rw [neuBerechnen_foldl]
  exact ⟨rfl, rfl⟩

theorem mengenSetzen_rest (ziele : List (Nat × Int)) (db : Bestand) :
    (ziele.foldl (fun db ziel => db.setEinheit ziel.1 (·.mitGesamt ziel.2)) db).ausstattung = db.ausstattung ∧
      (ziele.foldl (fun db ziel => db.setEinheit ziel.1 (·.mitGesamt ziel.2)) db).zeilen = db.zeilen := by
  induction ziele generalizing db with
  | nil => exact ⟨rfl, rfl⟩
  | cons ziel rest ih => exact ih (db.setEinheit ziel.1 (·.mitGesamt ziel.2))

end Einheiten

section Operationen

variable {s : Sitzung} {db db' : Bestand} {lage : MajorIncident}

theorem umbuchen_rest {vonId nachId : Nat} {anzahl : Wert} {personIds : List Nat}
    (ok : umbuchen s db lage vonId nachId anzahl personIds = .ok db') :
    db'.ausstattung = db.ausstattung ∧ (NichtNegativ db → NichtNegativ db') := by
  obtain ⟨von, nach, -, ⟨hasNach, -⟩, -, -, ⟨-, delta, -, positive, genug, rfl⟩ | ⟨-, personen, db₁, -, -, moved, rfl⟩⟩ :=
    umbuchen_ok ok
  · refine ⟨rfl, fun nonneg => ?_⟩
    have total := nonneg nach (einheit?_spec hasNach).1
    exact (nonneg.mitGesamt vonId (Int.sub_nonneg_of_le genug)).mitGesamt nachId (Int.add_nonneg total positive.le)
  · obtain ⟨einheiten, ausstattung, -⟩ := verschiebeAlle_rest moved
    refine ⟨(neuBerechnen_rest s _ db₁).1.trans ausstattung, fun nonneg => NichtNegativ.neuBerechnen ?_ s _⟩
    unfold NichtNegativ
    rw [einheiten]
    exact nonneg

theorem umbuchen_erhalten (geformt : db.Geformt) (zeilen : AusstattungGeformt db) {vonId nachId : Nat} {anzahl : Wert}
    {personIds : List Nat} (ok : umbuchen s db lage vonId nachId anzahl personIds = .ok db') : Erhalten db db' where
  personen := umbuchen_zahl geformt ok
  menge := fun k => by rw [Bestand.menge, Bestand.menge, (umbuchen_rest ok).1]
  ausstattungNonneg := fun z member => zeilen.menge z ((umbuchen_rest ok).1 ▸ member)
  personenNonneg := (umbuchen_rest ok).2

theorem ausstattungUmbuchen_erhalten (zeilen : AusstattungGeformt db) {vonId nachId zeileId : Nat} {menge : Wert}
    (ok : ausstattungUmbuchen s db lage vonId nachId zeileId menge = .ok db') :
    Erhalten db db' ↔ ∀ zeile ziel, quelle? s db lage vonId zeileId = some zeile →
      ziel? s db lage nachId zeile = some ziel → ziel.bezeichnung = zeile.bezeichnung := by
  obtain ⟨zeile, n, found, positive, buchbar, booked⟩ := ausstattungUmbuchen_menge zeilen ok
  have nur := ausstattungUmbuchen_nur ok
  constructor
  · intro erhalten zeile' ziel found' target
    obtain rfl := Option.some.inj (found.symm.trans found')
    have kept := booked zeile.schluessel
    rw [erhalten.menge, target, Option.getD_some, if_pos rfl] at kept
    by_contra differs
    have other : ziel.schluessel ≠ zeile.schluessel := fun same => differs (congrArg (·.bezeichnung) same)
    rw [if_neg other] at kept
    omega
  · intro same
    have key : ((ziel? s db lage nachId zeile).getD zeile).schluessel = zeile.schluessel := by
      cases target : ziel? s db lage nachId zeile with
      | none => rfl
      | some ziel =>
        obtain ⟨-, ofLage, -, kategorie, status⟩ := ziel?_spec target
        rw [Option.getD_some, LageEinheitAusstattung.schluessel, LageEinheitAusstattung.schluessel, ofLage, kategorie,
          status, same zeile ziel found target, (quelle?_spec found).2.2.1]
    exact {
      personen := fun id => personenzahl_of_gewicht nur.einheiten id (by rw [nur.personen])
      menge := fun k => by
        have kept := booked k
        rw [key] at kept
        omega
      ausstattungNonneg := buchbar.menge
      personenNonneg := fun nonneg => by
        rw [nur.einheiten]
        exact nonneg }

theorem personalVerteilen_rest {mutter : LageEinheit} {ziele : List (Nat × Teil)}
    (ok : personalVerteilen s db lage mutter ziele = .ok db') :
    db'.ausstattung = db.ausstattung ∧ db'.zeilen = db.zeilen ∧ (NichtNegativ db → NichtNegativ db') := by
  unfold personalVerteilen at ok
  split at ok
  · obtain ⟨mengen, given, genug, rfl⟩ := mengenVerteilen_ok ok
    refine ⟨(mengenSetzen_rest _ _).1, (mengenSetzen_rest _ _).2, fun nonneg => ?_⟩
    refine (nonneg.mitGesamt mutter.id (Int.sub_nonneg_of_le genug)).mengen fun ziel inside => ?_
    obtain ⟨_, -, -, nonneg⟩ := forall₂_right given (List.of_mem_zip inside).2
    exact nonneg
  · obtain ⟨wege, db₁, -, -, moved, rfl⟩ := personenVerteilen_ok ok
    obtain ⟨einheiten, ausstattung, zeilen⟩ := verschiebeAlle_rest moved
    refine ⟨(neuBerechnen_rest s _ db₁).1.trans ausstattung, (neuBerechnen_rest s _ db₁).2.trans zeilen,
      fun nonneg => NichtNegativ.neuBerechnen ?_ s _⟩
    unfold NichtNegativ
    rw [einheiten]
    exact nonneg

theorem einheitAufteilen_erhalten (geformt : db.Geformt) (zeilen : AusstattungGeformt db) {einheitId : Nat}
    {teile : List Teil} (ok : einheitAufteilen s db lage einheitId teile = .ok db') :
    Erhalten db db' ↔ ∀ z ∈ db.ausstattung, verlangt (teile.flatMap (·.ausstattung)) z.id ≤ z.menge := by
  have personen := einheitAufteilen_zahl geformt ok
  obtain ⟨mutter, neu, db₂, u, ⟨found, -⟩, ids, jeder, verteilt, umgelagert, rfl⟩ := einheitAufteilen_ok ok
  obtain ⟨rows, next, nonneg⟩ := personalVerteilen_rest verteilt
  have anders (ziel : Nat × Teil) (inside : ziel ∈ zieleVon db teile) : ziel.1 ≠ mutter.id := by
    have beyond := (zieleVon_neu.mp (List.mem_map_of_mem inside)).1
    have bound := geformt.einheiten.le (einheit?_spec found).1
    omega
  have asked : (zieleVon db teile).flatMap (·.2.ausstattung) = teile.flatMap (·.ausstattung) := by
    rw [← List.flatMap_map, zieleVon_teile]
  have start : Buch db mutter.id [] { db := db₂ } := .start zeilen rows next
  have buch := start.teile zeilen anders umgelagert
  rw [List.nil_append, asked] at buch
  refine ⟨fun erhalten => buch.menge_iff.mp erhalten.menge, fun bounded => ?_⟩
  exact {
    personen
    menge := buch.menge_iff.mpr bounded
    ausstattungNonneg := buch.nonneg
    personenNonneg := fun before => by
      rw [(umlagern_nur umgelagert).einheiten]
      refine nonneg fun e member => ?_
      rcases List.mem_append.mp member with old | new
      · exact before e old
      · rw [LageEinheit.zahlen, (jeder e new).gesamt]
        exact le_rfl }

end Operationen

/-- `umbuchen` keeps persons and equipment; a transfer of equipment does when
the row it is added to has the very same designation, a split when no row is
asked for more than it has, summed over the request. -/
theorem personen_und_material_erhalten (s : Sitzung) (db : Bestand) (geformt : db.Geformt)
    (zeilen : AusstattungGeformt db) (lage : MajorIncident) :
    (∀ vonId nachId anzahl personIds db', umbuchen s db lage vonId nachId anzahl personIds = .ok db' → Erhalten db db') ∧
    (∀ vonId nachId zeileId menge db', ausstattungUmbuchen s db lage vonId nachId zeileId menge = .ok db' →
      (Erhalten db db' ↔ ∀ zeile ziel, quelle? s db lage vonId zeileId = some zeile →
        ziel? s db lage nachId zeile = some ziel → ziel.bezeichnung = zeile.bezeichnung)) ∧
    (∀ einheitId teile db', einheitAufteilen s db lage einheitId teile = .ok db' →
      (Erhalten db db' ↔ ∀ z ∈ db.ausstattung, verlangt (teile.flatMap (·.ausstattung)) z.id ≤ z.menge)) :=
  ⟨fun _ _ _ _ _ ok => umbuchen_erhalten geformt zeilen ok,
    fun _ _ _ _ _ ok => ausstattungUmbuchen_erhalten zeilen ok,
    fun _ _ _ ok => einheitAufteilen_erhalten geformt zeilen ok⟩


/-- Five pumps, two and three of which go to two parts. -/
theorem personen_und_material_erhalten_teilung :
    let lage : MajorIncident := { id := 1, orgId := 1 }
    let s : Sitzung := { kontext := some 1, jetzt := 0 }
    let db : Bestand := {
      einheiten := [{ id := 1, lageId := 1, label := "RLF", staerkeGesamt := some 4 }]
      ausstattung := [
        { id := 1, orgId := some 1, lageId := 1, einheitId := 1, kategorie := "geraet", bezeichnung := "Pumpe", menge := 5 }]
      zeilen := 1 }
    let teile : List Teil := [{ label := some "Trupp 1", anzahl := .zahl 2, ausstattung := [⟨1, .zahl 2⟩] },
      { label := some "Trupp 2", anzahl := .zahl 2, ausstattung := [⟨1, .zahl 3⟩] }]
    ∃ db', einheitAufteilen s db lage 1 teile = .ok db' ∧ db'.ausstattung.map (·.menge) = [2, 3] ∧ Erhalten db db' := by
  intro lage s db teile
  have geformt : db.Geformt := ⟨rfl, rfl, List.forall_mem_nil _, List.forall_mem_nil _⟩
  have zeilen : AusstattungGeformt db := ⟨List.nodup_singleton 1, List.forall_mem_singleton.mpr le_rfl,
    List.forall_mem_singleton.mpr (by decide)⟩
  have genug : ∀ z ∈ db.ausstattung, verlangt (teile.flatMap (·.ausstattung)) z.id ≤ z.menge :=
    List.forall_mem_singleton.mpr (by decide)
  exact ⟨_, rfl, rfl, ((personen_und_material_erhalten s db geformt zeilen lage).2.2 1 teile _ rfl).mpr genug⟩

/-- A row of five that is asked for twice makes ten; a transfer into a row the
database takes for the same changes the designation. -/
theorem material_vermehrt :
    let lage : MajorIncident := { id := 1, orgId := 1 }
    let s : Sitzung := { kontext := some 1, jetzt := 0 }
    let row (id einheitId : Nat) (bezeichnung : String) (menge : Int) : LageEinheitAusstattung :=
      { id, orgId := some 1, lageId := 1, einheitId, kategorie := "geraet", bezeichnung, menge }
    let db : Bestand := {
      einheiten := [{ id := 1, lageId := 1, label := "RLF" }, { id := 2, lageId := 1, label := "TLF" }]
      ausstattung := [row 1 1 "Pumpe" 5, row 2 2 "pumpe" 1]
      zeilen := 2 }
    let k : Schluessel := ⟨1, "geraet", "Pumpe", "einsatzbereit"⟩
    db.menge k = 5 ∧
    (einheitAufteilen s db lage 1 [
      { label := some "Trupp", anzahl := .zahl 0, ausstattung := [⟨1, .zahl 5⟩, ⟨1, .zahl 5⟩] }]).map (·.menge k) =
      .ok 10 ∧
    (ausstattungUmbuchen { s with gleich := fun a b => a.toLower == b.toLower } db lage 1 2 1 (.zahl 2)).map (·.menge k) =
      .ok 3 := by
  decide +kernel

end Einsatzcockpit.Pflege
