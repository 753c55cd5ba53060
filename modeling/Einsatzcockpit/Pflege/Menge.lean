import Einsatzcockpit.Pflege.Personenzahl

namespace Einsatzcockpit.Pflege

open Raising Relational

structure Schluessel where
  lageId : Nat
  kategorie : String
  bezeichnung : String
  status : String
  deriving DecidableEq

def LageEinheitAusstattung.schluessel (z : LageEinheitAusstattung) : Schluessel :=
  ⟨z.lageId, z.kategorie, z.bezeichnung, z.status⟩

def posten (k : Schluessel) (z : LageEinheitAusstattung) : Int := if z.schluessel = k then z.menge else 0

def Bestand.menge (db : Bestand) (k : Schluessel) : Int := (db.ausstattung.map (posten k)).sum

/-- The equipment rows: ids are given out once, quantities are not negative. -/
structure AusstattungGeformt (db : Bestand) : Prop where
  nodup : (db.ausstattung.map (·.id)).Nodup
  vergeben : ∀ z ∈ db.ausstattung, z.id ≤ db.zeilen
  menge : ∀ z ∈ db.ausstattung, 0 ≤ z.menge

theorem sum_map_filter {α : Type} (p : α → Bool) (f : α → Int) (rows : List α) :
    ((rows.filter p).map f).sum = (rows.map fun r => if p r then f r else 0).sum := by
  induction rows with
  | nil => rfl
  | cons r rest ih =>
    rw [List.filter_cons, List.map_cons, List.sum_cons]
    split
    · rw [List.map_cons, List.sum_cons, ih]
    · rw [ih, zero_add]

theorem posten_mit (k : Schluessel) (z : LageEinheitAusstattung) (menge : Int) :
    posten k { z with menge } = if z.schluessel = k then menge else 0 := rfl

theorem posten_plus (k : Schluessel) (z : LageEinheitAusstattung) (n : Int) :
    posten k { z with menge := z.menge + n } = posten k z + if z.schluessel = k then n else 0 := by
  rw [posten_mit]
  unfold posten
  split
  · rfl
  · rfl

section Buchen

variable {rows : List LageEinheitAusstattung} (nodup : (rows.map (·.id)).Nodup) {z : LageEinheitAusstattung}
  (member : z ∈ rows) (k : Schluessel) (n : Int)
include nodup member

theorem summe_erhoeht :
    ((update (fun r => r.id == z.id) (fun r => { r with menge := r.menge + n }) rows).map (posten k)).sum =
      (rows.map (posten k)).sum + if z.schluessel = k then n else 0 := by
  have moved := sum_map_except (·.id) nodup member (f := posten k)
    (g := fun r => posten k (if r.id == z.id then { r with menge := r.menge + n } else r)) fun r _ differs => by
      rw [beq_eq_false_iff_ne.mpr differs, if_neg Bool.false_ne_true]
  rw [beq_self_eq_true, if_pos rfl, posten_plus] at moved
  have mapped : ((update (fun r => r.id == z.id) (fun r => { r with menge := r.menge + n }) rows).map (posten k)).sum =
      (rows.map fun r => posten k (if r.id == z.id then { r with menge := r.menge + n } else r)).sum := by
    rw [update, List.map_map]
    rfl
  omega

theorem summe_geloescht :
    ((rows.filter fun r => r.id != z.id).map (posten k)).sum =
      (rows.map (posten k)).sum - if z.schluessel = k then z.menge else 0 := by
  have moved := sum_map_except (·.id) nodup member (f := posten k)
    (g := fun r => if r.id != z.id then posten k r else 0) fun r _ differs => by
      rw [bne_iff_ne.mpr differs, if_pos rfl]
  rw [bne_self_eq_false, if_neg Bool.false_ne_true] at moved
  rw [sum_map_filter]
  unfold posten at moved ⊢
  omega

end Buchen

theorem ids_mengen (p : LageEinheitAusstattung → Bool) (neu : LageEinheitAusstattung → Int)
    (rows : List LageEinheitAusstattung) :
    (update p (fun r => { r with menge := neu r }) rows).map (·.id) = rows.map (·.id) :=
  @map_update LageEinheitAusstattung Nat (·.id) p (fun r => { r with menge := neu r }) (fun _ => rfl) rows

structure Buchbar (rows : List LageEinheitAusstattung) : Prop where
  nodup : (rows.map (·.id)).Nodup
  menge : ∀ z ∈ rows, 0 ≤ z.menge

theorem abgebucht {db : Bestand} (buchbar : Buchbar db.ausstattung) {z : LageEinheitAusstattung}
    (member : z ∈ db.ausstattung) {n : Int} (genug : n ≤ z.menge) :
    let db' := if z.menge = n then { db with ausstattung := db.ausstattung.filter (·.id != z.id) }
      else db.setZeile z.id fun r => { r with menge := r.menge - n }
    Buchbar db'.ausstattung ∧ ∀ k, db'.menge k = db.menge k - if z.schluessel = k then n else 0 := by
  dsimp only
  split
  · next alles =>
    refine ⟨⟨buchbar.nodup.sublist (List.filter_sublist.map _), fun r inside => ?_⟩, fun k => ?_⟩
    · exact buchbar.menge r (List.mem_of_mem_filter inside)
    · rw [← alles]
      exact summe_geloescht buchbar.nodup member k
  · next rest =>
    refine ⟨⟨?_, fun r' inside => ?_⟩, fun k => ?_⟩
    · rw [Bestand.setZeile, ids_mengen]
      exact buchbar.nodup
    · obtain ⟨r, old, rfl⟩ := mem_update.mp inside
      split
      · next same =>
        obtain rfl := List.inj_on_of_nodup_map buchbar.nodup old member (beq_iff_eq.mp same)
        exact Int.sub_nonneg_of_le genug
      · exact buchbar.menge r old
    · have booked := summe_erhoeht buchbar.nodup member k (-n)
      have off : (if z.schluessel = k then -n else 0) = -(if z.schluessel = k then n else 0) := by split <;> simp
      rw [off] at booked
      exact booked

section Quelle

variable {s : Sitzung} {db : Bestand} {lage : MajorIncident} {einheitId zeileId : Nat} {z : LageEinheitAusstattung}

theorem quelle?_spec (found : quelle? s db lage einheitId zeileId = some z) :
    z ∈ db.ausstattung ∧ z.id = zeileId ∧ z.lageId = lage.id ∧ z.einheitId = einheitId := by
  have picked := List.find?_some found
  simp only [Bool.and_eq_true, beq_iff_eq] at picked
  exact ⟨List.mem_of_find?_eq_some found, picked.1.1.1, picked.1.2, picked.2⟩

theorem ziel?_spec {zeile : LageEinheitAusstattung} (found : ziel? s db lage einheitId zeile = some z) :
    z ∈ db.ausstattung ∧ z.lageId = lage.id ∧ z.einheitId = einheitId ∧ z.kategorie = zeile.kategorie ∧
      z.status = zeile.status := by
  have picked := List.find?_some found
  simp only [Bool.and_eq_true, beq_iff_eq] at picked
  exact ⟨List.mem_of_find?_eq_some found, picked.1.1.1.1.2, picked.1.1.1.2, picked.1.1.2, picked.2⟩

end Quelle

section Umbuchen

variable {s : Sitzung} {db db' : Bestand} {lage : MajorIncident} {vonId nachId zeileId : Nat} {menge : Wert}

theorem zielZeile_buchbar (geformt : AusstattungGeformt db) (zielId : Nat) {n : Int} (nonneg : 0 ≤ n)
    (z : LageEinheitAusstattung) : Buchbar (db.addZeile (zielZeile db lage zielId n z)).ausstattung where
  nodup := by
    rw [Bestand.addZeile, List.map_append, List.nodup_append]
    refine ⟨geformt.nodup, List.nodup_singleton _, fun id old other new same => ?_⟩
    obtain ⟨r, inside, rfl⟩ := List.mem_map.mp old
    have bound := geformt.vergeben r inside
    have fresh : other = db.zeilen + 1 := List.mem_singleton.mp new
    omega
  menge := fun r inside => by
    rcases List.mem_append.mp inside with old | new
    · exact geformt.menge r old
    · exact List.mem_singleton.mp new ▸ nonneg

theorem zielZeile_menge {z : LageEinheitAusstattung} (ofLage : z.lageId = lage.id) (zielId : Nat) (n : Int)
    (k : Schluessel) :
    (db.addZeile (zielZeile db lage zielId n z)).menge k = db.menge k + if z.schluessel = k then n else 0 := by
  have same : (zielZeile db lage zielId n z).schluessel = z.schluessel := by
    rw [LageEinheitAusstattung.schluessel, LageEinheitAusstattung.schluessel, ofLage]
    rfl
  rw [Bestand.menge, Bestand.addZeile, List.map_append, List.sum_append, List.map_singleton, List.sum_singleton, posten,
    same]
  rfl

theorem ausstattungUmbuchen_menge (geformt : AusstattungGeformt db)
    (ok : ausstattungUmbuchen s db lage vonId nachId zeileId menge = .ok db') :
    ∃ zeile n, quelle? s db lage vonId zeileId = some zeile ∧ 0 < n ∧ Buchbar db'.ausstattung ∧
      ∀ k, db'.menge k = db.menge k +
        (if ((ziel? s db lage nachId zeile).getD zeile).schluessel = k then n else 0) -
        (if zeile.schluessel = k then n else 0) := by
  simp only [ausstattungUmbuchen, bind_eq_ok, require_eq_ok, demand_eq_ok, pure_eq_ok] at ok
  obtain ⟨_, -, _, -, _, verschieden, n, -, _, positive, zeile, found, _, genug, rfl⟩ := ok
  obtain ⟨member, -, ofLage, ofVon⟩ := quelle?_spec found
  refine ⟨zeile, n, found, positive, ?_⟩
  cases target : ziel? s db lage nachId zeile with
  | some ziel =>
    obtain ⟨zielIn, -, ofNach, -, -⟩ := ziel?_spec target
    have differs : (zeile.id == ziel.id) = false := by
      rw [beq_eq_false_iff_ne]
      intro same
      rw [List.inj_on_of_nodup_map geformt.nodup member zielIn same, ofNach] at ofVon
      exact verschieden ofVon.symm
    have buchbar : Buchbar (db.setZeile ziel.id fun z => { z with menge := z.menge + n }).ausstattung := by
      refine ⟨?_, fun r' inside => ?_⟩
      · rw [Bestand.setZeile, ids_mengen]
        exact geformt.nodup
      · obtain ⟨r, old, rfl⟩ := mem_update.mp inside
        have nonneg := geformt.menge r old
        split
        · exact Int.add_nonneg nonneg positive.le
        · exact nonneg
    have still : zeile ∈ (db.setZeile ziel.id fun z => { z with menge := z.menge + n }).ausstattung :=
      mem_update_of_false member differs
    have booked := abgebucht buchbar still genug
    refine ⟨booked.1, fun k => (booked.2 k).trans ?_⟩
    rw [Option.getD_some, Bestand.menge, Bestand.setZeile, summe_erhoeht geformt.nodup zielIn k n]
    rfl
  | none =>
    have buchbar := @zielZeile_buchbar db lage geformt nachId n positive.le zeile
    have booked := abgebucht buchbar (List.mem_append_left _ member) genug
    refine ⟨booked.1, fun k => (booked.2 k).trans ?_⟩
    rw [Option.getD_none, ← zielZeile_menge ofLage]

end Umbuchen

end Einsatzcockpit.Pflege
