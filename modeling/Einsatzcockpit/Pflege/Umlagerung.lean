import Einsatzcockpit.Pflege.Menge

namespace Einsatzcockpit.Pflege

open Raising Relational

def verlangt (positionen : List Position) (zeileId : Nat) : Int :=
  ((positionen.filter fun p => p.zeileId == zeileId).map (·.menge.n)).sum

@[simp] theorem verlangt_nil (zeileId : Nat) : verlangt [] zeileId = 0 := rfl

theorem verlangt_append (bisher weiter : List Position) (zeileId : Nat) :
    verlangt (bisher ++ weiter) zeileId = verlangt bisher zeileId + verlangt weiter zeileId := by
  rw [verlangt, List.filter_append, List.map_append, List.sum_append]
  rfl

theorem verlangt_singleton (position : Position) (zeileId : Nat) :
    verlangt [position] zeileId = if position.zeileId = zeileId then position.menge.n else 0 := by
  unfold verlangt
  rw [List.filter_singleton]
  by_cases same : position.zeileId = zeileId
  · rw [beq_iff_eq.mpr same, if_pos same, cond_true, List.map_singleton, List.sum_singleton]
  · rw [beq_eq_false_iff_ne.mpr same, if_neg same]
    rfl

structure Nummern (db : Bestand) : Prop where
  nodup : (db.ausstattung.map (·.id)).Nodup
  vergeben : ∀ z ∈ db.ausstattung, z.id ≤ db.zeilen

theorem update_zeile {rows : List LageEinheitAusstattung} (nodup : (rows.map (·.id)).Nodup)
    {z : LageEinheitAusstattung} (member : z ∈ rows) (neu : LageEinheitAusstattung → Int) :
    update (fun r => r.id == z.id) (fun r => { r with menge := neu r }) rows =
      update (fun r => r.id == z.id) (fun r => { r with menge := neu z }) rows := by
  refine List.map_congr_left fun r inside => ?_
  split
  · next same =>
    rw [List.inj_on_of_nodup_map nodup inside member (beq_iff_eq.mp same)]
  · rfl

/-- One position of a part: the row it is taken from, which keeps a rest or is
deleted, and the row it is put into. -/
structure Entnommen (lage : MajorIncident) (mutterId zielId : Nat) (position : Position) (menge rest : Int)
    (quelle : LageEinheitAusstattung) (u u' : Umlagerung) : Prop where
  verlangt : position.menge = .zahl menge
  positive : 0 < menge
  genug : menge ≤ quelle.menge
  member : quelle ∈ u.db.ausstattung
  zeileId : quelle.id = position.zeileId
  lageId : quelle.lageId = lage.id
  einheitId : quelle.einheitId = mutterId
  zeilen : u'.db.zeilen = u.db.zeilen + 1
  ausstattung : u'.db.ausstattung =
    update (fun z => z.id == quelle.id) (fun z => { z with menge := rest }) u.db.ausstattung ++
      [zielZeile u.db lage zielId menge quelle]
  bleibt : rest = quelle.menge ∧ menge = quelle.menge ∧ u'.geloescht = quelle.id :: u.geloescht ∨
    rest = quelle.menge - menge ∧ menge < quelle.menge ∧ u'.geloescht = u.geloescht

section Schritt

variable {s : Sitzung} {lage : MajorIncident} {mutterId zielId : Nat} {u u' : Umlagerung} {position : Position}

theorem positionUmlagern_entnommen (nummern : Nummern u.db)
    (ok : positionUmlagern s lage mutterId zielId u position = .ok u') :
    ∃ menge rest quelle, Entnommen lage mutterId zielId position menge rest quelle u u' := by
  obtain ⟨menge, quelle, given, found, positive, genug, rfl⟩ := positionUmlagern_ok ok
  obtain ⟨member, ofZeile, ofLage, ofMutter⟩ := quelle?_spec found
  by_cases alles : menge = quelle.menge
  · rw [if_pos alles]
    refine ⟨menge, quelle.menge, quelle, given, positive, genug, member, ofZeile, ofLage, ofMutter, rfl, ?_,
      Or.inl ⟨rfl, alles, rfl⟩⟩
    have same : update (fun r => r.id == quelle.id) (fun r => { r with menge := r.menge }) u.db.ausstattung =
        u.db.ausstattung := by
      simp only [update, ite_self, List.map_id']
    rw [← update_zeile nummern.nodup member (·.menge), same]
    rfl
  · rw [if_neg alles]
    refine ⟨menge, quelle.menge - menge, quelle, given, positive, genug, member, ofZeile, ofLage, ofMutter, rfl, ?_,
      Or.inr ⟨rfl, lt_of_le_of_ne genug alles, rfl⟩⟩
    have other : ((zielZeile u.db lage zielId menge quelle).id == quelle.id) = false := by
      have bound := nummern.vergeben quelle member
      have fresh : (zielZeile u.db lage zielId menge quelle).id = u.db.zeilen + 1 := rfl
      rw [beq_eq_false_iff_ne, fresh]
      omega
    rw [← update_zeile nummern.nodup member (·.menge - menge)]
    simp only [Bestand.setZeile, Bestand.addZeile, update, List.map_append, List.map_singleton, other, if_neg,
      Bool.false_eq_true, not_false_eq_true]

end Schritt

def offen (geloescht : List Nat) (k : Schluessel) (z : LageEinheitAusstattung) : Int :=
  if geloescht.contains z.id then 0 else posten k z

theorem flush_menge (u : Umlagerung) (k : Schluessel) :
    u.flush.db.menge k = (u.db.ausstattung.map (offen u.geloescht k)).sum := by
  rw [Bestand.menge, Umlagerung.flush, sum_map_filter]
  refine congrArg List.sum (List.map_congr_left fun z _ => ?_)
  unfold offen
  cases u.geloescht.contains z.id <;> rfl

namespace Entnommen

variable {lage : MajorIncident} {mutterId zielId : Nat} {position : Position} {menge rest : Int}
  {quelle : LageEinheitAusstattung} {u u' : Umlagerung}

section

variable (entnommen : Entnommen lage mutterId zielId position menge rest quelle u u')
include entnommen

theorem nummern (alt : Nummern u.db) :
    Nummern u'.db where
  nodup := by
    rw [entnommen.ausstattung, List.map_append, ids_mengen, List.nodup_append]
    refine ⟨alt.nodup, List.nodup_singleton _, fun id old other new same => ?_⟩
    obtain ⟨r, inside, rfl⟩ := List.mem_map.mp old
    have bound := alt.vergeben r inside
    have fresh : other = u.db.zeilen + 1 := List.mem_singleton.mp new
    omega
  vergeben := fun z member => by
    rw [entnommen.ausstattung] at member
    rw [entnommen.zeilen]
    rcases List.mem_append.mp member with old | new
    · obtain ⟨r, inside, rfl⟩ := mem_update.mp old
      have bound := alt.vergeben r inside
      split <;> exact Nat.le_succ_of_le bound
    · rw [List.mem_singleton.mp new]
      exact le_rfl

theorem geloescht_iff {id : Nat}
    (other : id ≠ quelle.id) : u'.geloescht.contains id = u.geloescht.contains id := by
  rcases entnommen.bleibt with ⟨-, -, deleted⟩ | ⟨-, -, deleted⟩
  · rw [deleted, List.contains_cons, beq_eq_false_iff_ne.mpr other, Bool.false_or]
  · rw [deleted]

theorem offen_zielZeile
    (alt : Nummern u.db) (bekannt : ∀ id ∈ u.geloescht, id ≤ u.db.zeilen) (k : Schluessel) :
    offen u'.geloescht k (zielZeile u.db lage zielId menge quelle) = if quelle.schluessel = k then menge else 0 := by
  have bound := alt.vergeben quelle entnommen.member
  have fresh : u'.geloescht.contains (u.db.zeilen + 1) = false := by
    rw [entnommen.geloescht_iff (by omega), ← Bool.not_eq_true, List.contains_iff_mem]
    intro inside
    have known := bekannt _ inside
    omega
  have same : (zielZeile u.db lage zielId menge quelle).schluessel = quelle.schluessel := by
    rw [LageEinheitAusstattung.schluessel, LageEinheitAusstattung.schluessel, entnommen.lageId]
    rfl
  have notDeleted : u'.geloescht.contains (zielZeile u.db lage zielId menge quelle).id = false := fresh
  rw [offen, notDeleted, if_neg Bool.false_ne_true, posten, same]
  rfl

theorem summe (alt : Nummern u.db)
    (bekannt : ∀ id ∈ u.geloescht, id ≤ u.db.zeilen) (k : Schluessel) :
    u'.flush.db.menge k =
      u.flush.db.menge k + if quelle.id ∈ u.geloescht ∧ quelle.schluessel = k then menge else 0 := by
  have moved := sum_map_except (·.id) alt.nodup entnommen.member (f := offen u.geloescht k)
    (g := fun r => offen u'.geloescht k (if r.id == quelle.id then { r with menge := rest } else r)) fun r _ differs => by
      rw [beq_eq_false_iff_ne.mpr differs, if_neg Bool.false_ne_true, offen, offen, entnommen.geloescht_iff differs]
  rw [beq_self_eq_true, if_pos rfl] at moved
  have opened := entnommen.offen_zielZeile alt bekannt k
  have after : u'.flush.db.menge k =
      (u.db.ausstattung.map fun r =>
        offen u'.geloescht k (if r.id == quelle.id then { r with menge := rest } else r)).sum +
        if quelle.schluessel = k then menge else 0 := by
    rw [flush_menge, entnommen.ausstattung, List.map_append, List.sum_append, List.map_singleton, List.sum_singleton,
      opened, update, List.map_map]
    rfl
  have taken : offen u.geloescht k quelle + (if quelle.id ∈ u.geloescht ∧ quelle.schluessel = k then menge else 0) =
      offen u'.geloescht k { quelle with menge := rest } + if quelle.schluessel = k then menge else 0 := by
    unfold offen
    rw [posten_mit k quelle rest, posten]
    simp only [List.contains_iff_mem]
    rcases entnommen.bleibt with ⟨whole, all, deleted⟩ | ⟨part, -, deleted⟩
    · rw [deleted, if_pos (List.mem_cons_self ..), all]
      by_cases before : quelle.id ∈ u.geloescht
      · rw [if_pos before]
        simp only [before, true_and]
      · rw [if_neg before, zero_add]
        simp only [before, false_and, if_false, add_zero]
    · rw [deleted, part]
      by_cases before : quelle.id ∈ u.geloescht
      · rw [if_pos before, if_pos before]
        simp only [before, true_and]
      · rw [if_neg before, if_neg before]
        simp only [before, false_and, if_false, add_zero]
        split
        · exact (Int.sub_add_cancel ..).symm
        · rfl
  rw [after, flush_menge]
  omega

end

end Entnommen

def zuviel (bisher : List Position) (z : LageEinheitAusstattung) : Int := max 0 (verlangt bisher z.id - z.menge)

/-- A row that was there at first, after the positions `bisher`. -/
inductive Rest (bisher : List Position) (geloescht : List Nat) (original z : LageEinheitAusstattung) : Prop where
  | weg (deleted : z.id ∈ geloescht) (leer : original.menge ≤ verlangt bisher z.id)
  | da (kept : z.id ∉ geloescht) (rest : z.menge = original.menge - verlangt bisher z.id) (nonneg : 0 ≤ z.menge)

/-- The loop over the positions, against the tables it has started with. -/
structure Buch (db : Bestand) (mutterId : Nat) (bisher : List Position) (u : Umlagerung) : Prop where
  nummern : Nummern u.db
  zeilen : db.zeilen ≤ u.db.zeilen
  geloescht : ∀ id ∈ u.geloescht, id ≤ db.zeilen
  alt : ∀ z ∈ u.db.ausstattung, z.id ≤ db.zeilen →
    ∃ original ∈ db.ausstattung, original.id = z.id ∧ original.schluessel = z.schluessel ∧
      Rest bisher u.geloescht original z
  neu : ∀ z ∈ u.db.ausstattung, db.zeilen < z.id → z.einheitId ≠ mutterId ∧ 0 ≤ z.menge
  summe : ∀ k, u.flush.db.menge k =
    db.menge k + (db.ausstattung.map fun z => if z.schluessel = k then zuviel bisher z else 0).sum

namespace Buch

variable {db : Bestand} {lage : MajorIncident} {mutterId zielId : Nat} {bisher : List Position} {u u' : Umlagerung}

theorem flush (buch : Buch db mutterId bisher u) : Buch db mutterId bisher u.flush where
  nummern := ⟨buch.nummern.nodup.sublist (List.filter_sublist.map _),
    fun z member => buch.nummern.vergeben z (List.mem_of_mem_filter member)⟩
  zeilen := buch.zeilen
  geloescht := List.forall_mem_nil _
  alt := fun z member bound => by
    obtain ⟨inside, kept⟩ := List.mem_filter.mp member
    obtain ⟨original, isOld, sameId, sameKey, rest⟩ := buch.alt z inside bound
    refine ⟨original, isOld, sameId, sameKey, ?_⟩
    cases rest with
    | weg deleted leer =>
      rw [List.contains_iff_mem.mpr deleted] at kept
      cases kept
    | da _ rest nonneg => exact .da List.not_mem_nil rest nonneg
  neu := fun z member => buch.neu z (List.mem_of_mem_filter member)
  summe := fun k => by
    rw [← buch.summe k, flush_menge]
    rfl

variable {position : Position} {menge rest : Int} {quelle : LageEinheitAusstattung}

theorem quelle_alt (buch : Buch db mutterId bisher u)
    (entnommen : Entnommen lage mutterId zielId position menge rest quelle u u') : quelle.id ≤ db.zeilen := by
  by_contra beyond
  exact (buch.neu quelle entnommen.member (Nat.lt_of_not_le beyond)).1 entnommen.einheitId

section

variable (entnommen : Entnommen lage mutterId zielId position menge rest quelle u u')
include entnommen

theorem verlangt_next (id : Nat) :
    verlangt (bisher ++ [position]) id = verlangt bisher id + if quelle.id = id then menge else 0 := by
  rw [verlangt_append, verlangt_singleton, entnommen.zeileId, entnommen.verlangt]
  rfl

theorem zuviel_next
    {original : LageEinheitAusstattung} (same : original.id = quelle.id) (state : Rest bisher u.geloescht original quelle) :
    zuviel (bisher ++ [position]) original =
      zuviel bisher original + if quelle.id ∈ u.geloescht then menge else 0 := by
  have positive := entnommen.positive
  have genug := entnommen.genug
  rw [zuviel, zuviel, verlangt_next entnommen, same, if_pos rfl]
  cases state with
  | weg deleted leer =>
    rw [if_pos deleted]
    omega
  | da kept rest nonneg =>
    rw [if_neg kept]
    omega

theorem rest_quelle
    {original : LageEinheitAusstattung} (state : Rest bisher u.geloescht original quelle) :
    Rest (bisher ++ [position]) u'.geloescht original { quelle with menge := rest } := by
  have asked : verlangt (bisher ++ [position]) quelle.id = _ := verlangt_next entnommen quelle.id
  have positive := entnommen.positive
  rw [if_pos rfl] at asked
  rcases entnommen.bleibt with ⟨-, all, deleted⟩ | ⟨part, less, deleted⟩
  · refine .weg (deleted ▸ List.mem_cons_self ..) ?_
    dsimp only
    cases state with
    | weg _ leer => omega
    | da _ rest nonneg => omega
  · cases state with
    | weg before leer =>
      refine .weg (deleted ▸ before) ?_
      dsimp only
      omega
    | da kept rest nonneg =>
      refine .da (deleted ▸ kept) ?_ ?_
      · dsimp only
        omega
      · dsimp only
        omega

theorem rest_andere
    {original z : LageEinheitAusstattung} (other : z.id ≠ quelle.id) (state : Rest bisher u.geloescht original z) :
    Rest (bisher ++ [position]) u'.geloescht original z := by
  have asked : verlangt (bisher ++ [position]) z.id = _ := verlangt_next entnommen z.id
  rw [if_neg other.symm, add_zero] at asked
  have same : z.id ∈ u'.geloescht ↔ z.id ∈ u.geloescht := by
    rw [← List.contains_iff_mem, entnommen.geloescht_iff other, List.contains_iff_mem]
  cases state with
  | weg deleted leer => exact .weg (same.mpr deleted) (asked ▸ leer)
  | da kept rest nonneg => exact .da (same.not.mpr kept) (asked ▸ rest) nonneg

end

theorem weiter (geformt : AusstattungGeformt db) (buch : Buch db mutterId bisher u) (anders : zielId ≠ mutterId)
    (entnommen : Entnommen lage mutterId zielId position menge rest quelle u u') :
    Buch db mutterId (bisher ++ [position]) u' where
  nummern := entnommen.nummern buch.nummern
  zeilen := entnommen.zeilen ▸ Nat.le_succ_of_le buch.zeilen
  geloescht := fun id inside => by
    rcases entnommen.bleibt with ⟨-, -, deleted⟩ | ⟨-, -, deleted⟩
    · rw [deleted] at inside
      rcases List.mem_cons.mp inside with rfl | before
      · exact buch.quelle_alt entnommen
      · exact buch.geloescht id before
    · exact buch.geloescht id (deleted ▸ inside)
  alt := fun z member bound => by
    rw [entnommen.ausstattung] at member
    rcases List.mem_append.mp member with old | new
    · obtain ⟨r, inside, rfl⟩ := mem_update.mp old
      by_cases same : r.id = quelle.id
      · obtain rfl := List.inj_on_of_nodup_map buch.nummern.nodup inside entnommen.member same
        rw [beq_self_eq_true, if_pos rfl]
        obtain ⟨original, isOld, sameId, sameKey, state⟩ := buch.alt r inside (buch.quelle_alt entnommen)
        exact ⟨original, isOld, sameId, sameKey, rest_quelle entnommen state⟩
      · rw [beq_eq_false_iff_ne.mpr same, if_neg Bool.false_ne_true] at bound ⊢
        obtain ⟨original, isOld, sameId, sameKey, state⟩ := buch.alt r inside bound
        exact ⟨original, isOld, sameId, sameKey, rest_andere entnommen same state⟩
    · have known := buch.zeilen
      have fresh : z.id = u.db.zeilen + 1 := congrArg (·.id) (List.mem_singleton.mp new)
      omega
  neu := fun z member beyond => by
    rw [entnommen.ausstattung] at member
    rcases List.mem_append.mp member with old | new
    · obtain ⟨r, inside, rfl⟩ := mem_update.mp old
      have bound := buch.quelle_alt entnommen
      split at beyond
      · next same =>
        have sameId : r.id = quelle.id := beq_iff_eq.mp same
        exact absurd beyond (by rw [sameId]; exact Nat.not_lt.mpr bound)
      · next differs =>
        rw [if_neg differs]
        exact buch.neu r inside beyond
    · rw [List.mem_singleton.mp new]
      exact ⟨anders, entnommen.positive.le⟩
  summe := fun k => by
    have bekannt (id : Nat) (inside : id ∈ u.geloescht) := (buch.geloescht id inside).trans buch.zeilen
    obtain ⟨original, isOld, sameId, sameKey, state⟩ := buch.alt quelle entnommen.member (buch.quelle_alt entnommen)
    have more := sum_map_except (·.id) geformt.nodup isOld
      (f := fun z => if z.schluessel = k then zuviel bisher z else 0)
      (g := fun z => if z.schluessel = k then zuviel (bisher ++ [position]) z else 0) fun z _ differs => by
        have other : quelle.id ≠ z.id := fun same => differs (same.symm.trans sameId.symm)
        rw [zuviel, zuviel, verlangt_next entnommen, if_neg other, add_zero]
    rw [zuviel_next entnommen sameId state, sameKey] at more
    rw [entnommen.summe buch.nummern bekannt, buch.summe]
    by_cases key : quelle.schluessel = k
    · rw [if_pos key, if_pos key] at more
      simp only [key, and_true]
      omega
    · rw [if_neg key, if_neg key] at more
      simp only [key, and_false, if_false]
      omega

theorem start (geformt : AusstattungGeformt db) {db₂ : Bestand} (rows : db₂.ausstattung = db.ausstattung)
    (zeilen : db₂.zeilen = db.zeilen) : Buch db mutterId [] { db := db₂ } where
  nummern := ⟨rows ▸ geformt.nodup, fun z member => zeilen ▸ geformt.vergeben z (rows ▸ member)⟩
  zeilen := zeilen.ge
  geloescht := List.forall_mem_nil _
  alt := fun z member _ => by
    rw [rows] at member
    exact ⟨z, member, rfl, rfl, .da List.not_mem_nil (by rw [verlangt_nil, sub_zero]) (geformt.menge z member)⟩
  neu := fun z member beyond => absurd (geformt.vergeben z (rows ▸ member)) (Nat.not_le.mpr beyond)
  summe := fun k => by
    have none : (db.ausstattung.map fun z => if z.schluessel = k then zuviel [] z else 0).sum = 0 := by
      refine List.sum_eq_zero fun n member => ?_
      obtain ⟨z, inside, rfl⟩ := List.mem_map.mp member
      have nonneg := geformt.menge z inside
      split
      · rw [zuviel, verlangt_nil]
        omega
      · rfl
    have all : (List.filter (fun _ => true) db.ausstattung).map (posten k) = db.ausstattung.map (posten k) := by
      rw [List.filter_true]
    rw [none, add_zero, Bestand.menge, Bestand.menge, ← all, ← rows]
    rfl

variable {s : Sitzung}

section

variable (geformt : AusstattungGeformt db)
include geformt

theorem positionen (anders : zielId ≠ mutterId) {weitere : List Position}
    (buch : Buch db mutterId bisher u) (ok : weitere.foldlM (positionUmlagern s lage mutterId zielId) u = .ok u') :
    Buch db mutterId (bisher ++ weitere) u' := by
  induction weitere generalizing bisher u with
  | nil =>
    cases ok
    rw [List.append_nil]
    exact buch
  | cons position rest ih =>
    rw [foldlM_cons_eq_ok] at ok
    obtain ⟨next, taken, later⟩ := ok
    obtain ⟨_, _, _, entnommen⟩ := positionUmlagern_entnommen buch.nummern taken
    rw [List.append_cons]
    exact ih (buch.weiter geformt anders entnommen) later

theorem teil {ziel : Nat × Teil} (anders : ziel.1 ≠ mutterId)
    (buch : Buch db mutterId bisher u) (ok : teilUmlagern s lage mutterId u ziel = .ok u') :
    Buch db mutterId (bisher ++ ziel.2.ausstattung) u' := by
  simp only [teilUmlagern, bind_eq_ok] at ok
  obtain ⟨next, positions, copies⟩ := ok
  refine Transition.foldlM_keeps (P := fun v => Buch db mutterId (bisher ++ ziel.2.ausstattung) v)
    (fun v kopie v' held ok => ?_) (buch.positionen geformt anders positions) copies
  rw [map_eq_ok] at ok
  obtain ⟨_, -, rfl⟩ := ok
  exact held.flush

theorem teile {ziele : List (Nat × Teil)} (anders : ∀ ziel ∈ ziele, ziel.1 ≠ mutterId)
    (buch : Buch db mutterId bisher u) (ok : ziele.foldlM (teilUmlagern s lage mutterId) u = .ok u') :
    Buch db mutterId (bisher ++ ziele.flatMap (·.2.ausstattung)) u' := by
  induction ziele generalizing bisher u with
  | nil =>
    cases ok
    rw [List.flatMap_nil, List.append_nil]
    exact buch
  | cons ziel rest ih =>
    rw [foldlM_cons_eq_ok] at ok
    obtain ⟨next, taken, later⟩ := ok
    rw [List.flatMap_cons, ← List.append_assoc]
    exact ih (fun other inside => anders other (List.mem_cons_of_mem _ inside))
      (buch.teil geformt (anders ziel (List.mem_cons_self ..)) taken) later

end

theorem nonneg (buch : Buch db mutterId bisher u) : ∀ z ∈ u.flush.db.ausstattung, 0 ≤ z.menge := by
  intro z member
  by_cases bound : z.id ≤ db.zeilen
  · obtain ⟨_, -, -, -, state⟩ := buch.flush.alt z member bound
    cases state with
    | weg deleted _ => exact absurd deleted List.not_mem_nil
    | da _ _ nonneg => exact nonneg
  · exact (buch.flush.neu z member (Nat.lt_of_not_le bound)).2

theorem menge_iff (buch : Buch db mutterId bisher u) :
    (∀ k, u.flush.db.menge k = db.menge k) ↔ ∀ z ∈ db.ausstattung, verlangt bisher z.id ≤ z.menge := by
  constructor
  · intro kept z member
    have excess := buch.summe z.schluessel
    rw [kept] at excess
    have sum : (db.ausstattung.map fun r => if r.schluessel = z.schluessel then zuviel bisher r else 0).sum = 0 := by
      omega
    have zero : (if z.schluessel = z.schluessel then zuviel bisher z else 0) = 0 := by
      refine List.all_zero_of_le_zero_le_of_sum_eq_zero ?_ sum (List.mem_map.mpr ⟨z, member, rfl⟩)
      intro n listed
      obtain ⟨r, -, rfl⟩ := List.mem_map.mp listed
      split
      · exact le_max_left ..
      · exact le_rfl
    rw [if_pos rfl, zuviel] at zero
    omega
  · intro bounded k
    rw [buch.summe k]
    have none : (db.ausstattung.map fun z => if z.schluessel = k then zuviel bisher z else 0).sum = 0 := by
      refine List.sum_eq_zero fun n listed => ?_
      obtain ⟨z, inside, rfl⟩ := List.mem_map.mp listed
      have asked := bounded z inside
      split
      · rw [zuviel]
        omega
      · rfl
    rw [none, add_zero]

end Buch

end Einsatzcockpit.Pflege
