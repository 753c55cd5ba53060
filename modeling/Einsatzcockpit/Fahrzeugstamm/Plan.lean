import Einsatzcockpit.Fahrzeugstamm.Zusammenfuehren

namespace Einsatzcockpit.Fahrzeugstamm

open Raising Relational

section Definitionen

def Karte.schluessel (karte : Karte) : Option String × Option (Nat ⊕ String) := (karte.kind, karte.id)

/-- Which rows of the loser stay and which go, by the incidents in which the winner is
known and those in which it is not flushed. -/
structure Plan where
  bekannt : List Nat
  offen : List Nat := []
  bleiben : List IncidentVehicle := []
  gehen : List IncidentVehicle := []

/-- A row goes where the winner is known, and all that is open is known then; else it
stays, and is open. -/
def Plan.step (plan : Plan) (reference : IncidentVehicle) : Plan :=
  if reference.incidentId ∈ plan.bekannt then
    { plan with bekannt := plan.bekannt ++ plan.offen, offen := [], gehen := plan.gehen ++ [reference] }
  else { plan with offen := reference.incidentId :: plan.offen, bleiben := plan.bleiben ++ [reference] }

def eigene (db : Datenbank) (winnerId : Nat) : List IncidentVehicle := db.vehicles.rows.filter fun v => v.vehicleMasterId = winnerId

def referenzen (db : Datenbank) (kontext : Option Nat) (orgId loserId : Nat) : List IncidentVehicle :=
  db.vehicles.rows.filter (incidentQuery db kontext loserId (some orgId))

def Plan.anfang (db : Datenbank) (winnerId : Nat) : Plan := { bekannt := (eigene db winnerId).map (·.incidentId) }

def plan (db : Datenbank) (kontext : Option Nat) (orgId winnerId loserId : Nat) : Plan :=
  (referenzen db kontext orgId loserId).foldl Plan.step (.anfang db winnerId)

/-- The row of the winner that takes up the others of an incident: the first of those
that stay. -/
def Plan.stamm (db : Datenbank) (winnerId : Nat) (plan : Plan) (incidentId : Nat) : Option IncidentVehicle :=
  ((eigene db winnerId ++ plan.bleiben).filter fun v => v.incidentId = incidentId).argmin rang

def Plan.Betrifft (db : Datenbank) (winnerId : Nat) (plan : Plan) (incidentId : Nat) (karte : Karte) : Prop :=
  ∃ v ∈ plan.gehen, v.incidentId = incidentId ∧
    (karte.istFahrzeug v.id = true ∨ ∃ s ∈ plan.stamm db winnerId incidentId, karte.istFahrzeug s.id = true)

instance (db : Datenbank) (winnerId : Nat) (plan : Plan) (incidentId : Nat) (karte : Karte) :
    Decidable (plan.Betrifft db winnerId incidentId karte) := by
  unfold Plan.Betrifft
  infer_instance

end Definitionen

section Plan

variable {db : Datenbank} {winnerId loserId : Nat} {plan : Plan} {reference v : IncidentVehicle}
  {references : List IncidentVehicle}

theorem Plan.step_bekannt (known : reference.incidentId ∈ plan.bekannt) : plan.step reference =
    { plan with bekannt := plan.bekannt ++ plan.offen, offen := [], gehen := plan.gehen ++ [reference] } := if_pos known

theorem Plan.step_unbekannt (unknown : reference.incidentId ∉ plan.bekannt) : plan.step reference =
    { plan with offen := reference.incidentId :: plan.offen, bleiben := plan.bleiben ++ [reference] } := if_neg unknown

theorem Plan.mem_step : v ∈ (plan.step reference).bleiben ∨ v ∈ (plan.step reference).gehen ↔
    (v ∈ plan.bleiben ∨ v ∈ plan.gehen) ∨ v = reference := by
  by_cases known : reference.incidentId ∈ plan.bekannt
  · rw [Plan.step_bekannt known, List.mem_append, List.mem_singleton, or_assoc]
  · rw [Plan.step_unbekannt known, List.mem_append, List.mem_singleton]
    tauto

theorem Plan.mem_foldl : v ∈ (references.foldl Plan.step plan).bleiben ∨ v ∈ (references.foldl Plan.step plan).gehen ↔
    (v ∈ plan.bleiben ∨ v ∈ plan.gehen) ∨ v ∈ references := by
  induction references generalizing plan with
  | nil => simp
  | cons reference references ih => rw [List.foldl_cons, ih, Plan.mem_step, List.mem_cons, or_assoc]

theorem mem_eigene : v ∈ eigene db winnerId ↔ v ∈ db.vehicles.rows ∧ v.vehicleMasterId = winnerId := by
  rw [eigene, List.mem_filter, decide_eq_true_eq]

theorem mem_referenzen {kontext : Option Nat} {orgId : Nat} : v ∈ referenzen db kontext orgId loserId ↔
    v ∈ db.vehicles.rows ∧ v.vehicleMasterId = loserId ∧ (db.incidents v.incidentId).sichtbar kontext = true ∧
      (db.incidents v.incidentId).primaryOrgId = some orgId := by
  simp [referenzen, incidentQuery]

theorem Plan.stamm_eq_some {i : Nat} (found : plan.stamm db winnerId i = some v) :
    (v ∈ eigene db winnerId ++ plan.bleiben ∧ v.incidentId = i) ∧
      ∀ other ∈ eigene db winnerId ++ plan.bleiben, other.incidentId = i → rang v ≤ rang other := by
  have member := List.mem_filter.mp (List.argmin_mem found)
  refine ⟨⟨member.1, decide_eq_true_eq.mp member.2⟩, fun other inside same => ?_⟩
  exact List.le_of_mem_argmin (List.mem_filter.mpr ⟨inside, decide_eq_true same⟩) found

theorem Plan.stamm_exists {i : Nat} (inside : v ∈ eigene db winnerId ++ plan.bleiben) (same : v.incidentId = i) :
    ∃ s, plan.stamm db winnerId i = some s := by
  refine Option.ne_none_iff_exists'.mp fun none => ?_
  have empty := List.argmin_eq_none.mp none
  exact List.not_mem_nil (empty ▸ List.mem_filter.mpr ⟨inside, decide_eq_true same⟩)

theorem Plan.stamm_step {i : Nat} (known : i ∈ plan.bekannt) :
    (plan.step reference).stamm db winnerId i = plan.stamm db winnerId i := by
  by_cases goes : reference.incidentId ∈ plan.bekannt
  · rw [Plan.step_bekannt goes]
    rfl
  · rw [Plan.step_unbekannt goes]
    unfold Plan.stamm
    have gone : ([reference].filter fun v => decide (v.incidentId = i)) = [] := by
      refine List.filter_eq_nil_iff.mpr fun v member same => goes ?_
      rw [← List.mem_singleton.mp member, decide_eq_true_eq.mp same]
      exact known
    rw [List.filter_append, List.filter_append, List.filter_append, gone, List.append_nil]

theorem rang_inj {a b : IncidentVehicle} (same : rang a = rang b) : a.id = b.id := congrArg (fun r => (ofLex r).2) same

theorem rang_lt {a b : IncidentVehicle} (active : a.removedAt = none) (removed : b.removedAt ≠ none) : rang a < rang b := by
  rw [rang, rang, Prod.Lex.toLex_lt_toLex]
  left
  rw [active]
  cases isRemoved : b.removedAt with
  | none => exact absurd isRemoved removed
  | some _ => exact Bool.false_lt_true

theorem rang_le {a b : IncidentVehicle} (id : a.id = b.id) (active : b.removedAt = none → a.removedAt = none) : rang a ≤ rang b := by
  rw [rang, rang, Prod.Lex.toLex_le_toLex]
  cases isB : b.removedAt with
  | none =>
    rw [active isB]
    exact Or.inr ⟨rfl, id.le⟩
  | some _ =>
    cases a.removedAt with
    | none => exact Or.inl Bool.false_lt_true
    | some _ => exact Or.inr ⟨rfl, id.le⟩

end Plan

section Lauf

/-- The session follows the plan: what has become of the rows, and which of them its
queries see. -/
structure Verfolgt (db : Datenbank) (winnerId loserId : Nat) (plan : Plan) (lauf : Lauf) : Prop where
  verlierer : ∀ v, v ∈ plan.bleiben ∨ v ∈ plan.gehen → v ∈ db.vehicles.rows ∧ v.vehicleMasterId = loserId
  entweder : ∀ v ∈ plan.bleiben, v ∉ plan.gehen
  weg : ∀ v ∈ plan.gehen, lauf.vehicles.get? v.id = none
  zeile : ∀ v₀ ∈ db.vehicles.rows, v₀ ∉ plan.gehen → ∃ v, lauf.vehicles.get? v₀.id = some v ∧ v.incidentId = v₀.incidentId ∧
    v.vehicleMasterId = (if v₀ ∈ plan.bleiben then winnerId else v₀.vehicleMasterId) ∧
    (v₀.removedAt = none → v.removedAt = none) ∧
    (v.removedAt = v₀.removedAt ∨ v₀.incidentId ∈ plan.bekannt ∧ plan.stamm db winnerId v₀.incidentId = some v₀)
  herkunft : ∀ v ∈ lauf.vehicles.rows, ∃ v₀ ∈ db.vehicles.rows, v₀.id = v.id
  offen : ∀ id, id ∈ lauf.offen ↔ ∃ v ∈ plan.bleiben, v.id = id ∧ v.incidentId ∈ plan.offen
  getrennt : ∀ i ∈ plan.offen, i ∉ plan.bekannt
  gekannt : ∀ v ∈ eigene db winnerId ++ plan.bleiben, v.incidentId ∈ plan.bekannt ∨ v ∈ plan.bleiben ∧ v.incidentId ∈ plan.offen
  gegangen : ∀ v ∈ plan.gehen, v.incidentId ∈ plan.bekannt
  kenntnis : ∀ i, i ∈ plan.bekannt ∨ i ∈ plan.offen → ∃ v ∈ eigene db winnerId ++ plan.bleiben, v.incidentId = i

variable {db : Datenbank} {winnerId loserId : Nat} {plan : Plan} {lauf : Lauf} {reference v : IncidentVehicle}

theorem eindeutig {a b : IncidentVehicle} (isA : a ∈ db.vehicles.rows) (isB : b ∈ db.vehicles.rows) (same : a.id = b.id) : a = b := by
  have found := Keyed.get?_of_mem isA
  rw [same, Keyed.get?_of_mem isB] at found
  exact (Option.some.inj found).symm

namespace Verfolgt

variable (verfolgt : Verfolgt db winnerId loserId plan lauf) (verschieden : winnerId ≠ loserId)

include verfolgt in
theorem mem_rows (inside : v ∈ eigene db winnerId ++ plan.bleiben) : v ∈ db.vehicles.rows :=
  (List.mem_append.mp inside).elim (fun own => (mem_eigene.mp own).1) fun stays => (verfolgt.verlierer v (Or.inl stays)).1

include verfolgt verschieden in
theorem bleibt (inside : v ∈ eigene db winnerId ++ plan.bleiben) : v ∉ plan.gehen := by
  rcases List.mem_append.mp inside with own | stays
  · exact fun goes => verschieden ((mem_eigene.mp own).2.symm.trans (verfolgt.verlierer v (Or.inr goes)).2)
  · exact verfolgt.entweder v stays

include verfolgt verschieden in
theorem stehend (inside : v ∈ eigene db winnerId ++ plan.bleiben) : ∃ v', lauf.vehicles.get? v.id = some v' ∧
    v'.incidentId = v.incidentId ∧ v'.vehicleMasterId = winnerId ∧ (v.removedAt = none → v'.removedAt = none) ∧
    (v'.removedAt = v.removedAt ∨ v.incidentId ∈ plan.bekannt ∧ plan.stamm db winnerId v.incidentId = some v) := by
  obtain ⟨v', found, incident, master, active, removed⟩ :=
    verfolgt.zeile v (verfolgt.mem_rows inside) (verfolgt.bleibt verschieden inside)
  refine ⟨v', found, incident, master.trans ?_, active, removed⟩
  split
  · rfl
  · next notStays => exact (mem_eigene.mp ((List.mem_append.mp inside).resolve_right notStays)).2

include verfolgt in
theorem ursprung (member : v ∈ lauf.vehicles.rows) (own : v.vehicleMasterId = winnerId) :
    ∃ v₀ ∈ eigene db winnerId ++ plan.bleiben, v₀.id = v.id := by
  obtain ⟨v₀, isRow, id⟩ := verfolgt.herkunft v member
  have found := Keyed.get?_of_mem member
  have notGone : v₀ ∉ plan.gehen := fun goes => by
    rw [← id, verfolgt.weg v₀ goes] at found
    cases found
  obtain ⟨v', found', -, master, -⟩ := verfolgt.zeile v₀ isRow notGone
  rw [id, found] at found'
  cases found'
  refine ⟨v₀, ?_, id⟩
  by_cases stays : v₀ ∈ plan.bleiben
  · exact List.mem_append_right _ stays
  · rw [if_neg stays, own] at master
    exact List.mem_append_left _ (mem_eigene.mpr ⟨isRow, master.symm⟩)

include verfolgt verschieden in
theorem gelesen (member : v ∈ lauf.vehicles.rows) {v₀ : IncidentVehicle} (inside : v₀ ∈ eigene db winnerId ++ plan.bleiben)
    (id : v₀.id = v.id) : v.incidentId = v₀.incidentId ∧ (v₀.removedAt = none → v.removedAt = none) ∧
      (v.removedAt = v₀.removedAt ∨ v₀.incidentId ∈ plan.bekannt ∧ plan.stamm db winnerId v₀.incidentId = some v₀) := by
  obtain ⟨v', found, incident, -, active, removed⟩ := verfolgt.stehend verschieden inside
  rw [id, Keyed.get?_of_mem member] at found
  cases found
  exact ⟨incident, active, removed⟩

theorem mem_kandidaten : v ∈ (lauf.vehicles.rows.filter fun v => v.incidentId = reference.incidentId ∧ v.vehicleMasterId = winnerId ∧
      v.id ∉ lauf.offen ∧ v.id ≠ reference.id) ↔
    v ∈ lauf.vehicles.rows ∧ v.incidentId = reference.incidentId ∧ v.vehicleMasterId = winnerId ∧ v.id ∉ lauf.offen ∧
      v.id ≠ reference.id := by
  rw [List.mem_filter, decide_eq_true_eq]

include verfolgt verschieden in
theorem survivor_unbekannt (unknown : reference.incidentId ∉ plan.bekannt) : lauf.survivor? winnerId reference = none := by
  refine List.argmin_eq_none.mpr (List.eq_nil_iff_forall_not_mem.mpr fun v member => ?_)
  obtain ⟨isRow, incident, own, flushed, -⟩ := mem_kandidaten.mp member
  obtain ⟨v₀, inside, id⟩ := verfolgt.ursprung isRow own
  have same : v₀.incidentId = reference.incidentId := by
    rw [← incident, (verfolgt.gelesen verschieden isRow inside id).1]
  rcases verfolgt.gekannt v₀ inside with known | ⟨stays, open_⟩
  · exact unknown (same ▸ known)
  · exact flushed ((verfolgt.offen v.id).mpr ⟨v₀, stays, id, open_⟩)

include verfolgt verschieden in
theorem survivor_bekannt (known : reference.incidentId ∈ plan.bekannt) (isRow : reference ∈ db.vehicles.rows)
    (apart : reference ∉ eigene db winnerId ++ plan.bleiben) : ∃ s survivor, plan.stamm db winnerId reference.incidentId = some s ∧
      s ∈ eigene db winnerId ++ plan.bleiben ∧ s.incidentId = reference.incidentId ∧ s.id ≠ reference.id ∧
      lauf.vehicles.get? s.id = some survivor ∧ lauf.survivor? winnerId reference = some survivor := by
  obtain ⟨v, inside, incident⟩ := verfolgt.kenntnis _ (Or.inl known)
  obtain ⟨s, isStamm⟩ := Plan.stamm_exists inside incident
  obtain ⟨⟨stays, sameIncident⟩, first⟩ := Plan.stamm_eq_some isStamm
  obtain ⟨survivor, found, incident', own, active, -⟩ := verfolgt.stehend verschieden stays
  have differs : s.id ≠ reference.id := fun same => apart (eindeutig (verfolgt.mem_rows stays) isRow same ▸ stays)
  have survivorId := Keyed.key_of_get? found
  have candidate := mem_kandidaten.mpr ⟨Keyed.mem_of_get? found, incident'.trans sameIncident, own, ?_, survivorId ▸ differs⟩
  · refine ⟨s, survivor, isStamm, stays, sameIncident, differs, found, ?_⟩
    cases isFirst : lauf.survivor? winnerId reference with
    | none => exact absurd (List.argmin_eq_none.mp isFirst ▸ candidate) List.not_mem_nil
    | some other =>
      obtain ⟨isOther, otherIncident, otherOwn, -, -⟩ := mem_kandidaten.mp (List.argmin_mem isFirst)
      obtain ⟨other₀, otherInside, otherId⟩ := verfolgt.ursprung isOther otherOwn
      obtain ⟨otherSame, -, otherRemoved⟩ := verfolgt.gelesen verschieden isOther otherInside otherId
      have behind : rang s ≤ rang other₀ := first other₀ otherInside (otherSame.symm.trans otherIncident)
      have before : rang survivor ≤ rang s := rang_le survivorId active
      have least : rang other ≤ rang survivor := List.le_of_mem_argmin candidate isFirst
      have sameId : other.id = survivor.id := by
        rcases otherRemoved with unchanged | ⟨-, otherStamm⟩
        · have sameRank : rang other₀ = rang other := by rw [rang, rang, unchanged, otherId]
          exact rang_inj (le_antisymm least (before.trans (behind.trans sameRank.le)))
        · rw [otherSame.symm.trans otherIncident, isStamm] at otherStamm
          rw [← otherId, ← Option.some.inj otherStamm, survivorId]
      have again := Keyed.get?_of_mem isOther
      rw [sameId, survivorId, found] at again
      exact again.symm
  · intro open_
    obtain ⟨other, isOpen, id, pending⟩ := (verfolgt.offen _).mp open_
    have same := eindeutig (verfolgt.mem_rows (List.mem_append_right _ isOpen)) (verfolgt.mem_rows stays) (id.trans survivorId)
    rw [same, sameIncident] at pending
    exact verfolgt.getrennt _ pending known

section Schritt

variable (isRow : reference ∈ db.vehicles.rows) (isLoser : reference.vehicleMasterId = loserId)
  (neu : ¬ (reference ∈ plan.bleiben ∨ reference ∈ plan.gehen))

include verschieden isLoser neu in
theorem apart_eigene : reference ∉ eigene db winnerId ++ plan.bleiben := by
  intro inside
  rcases List.mem_append.mp inside with own | stays
  · exact verschieden ((mem_eigene.mp own).2.symm.trans isLoser)
  · exact neu (Or.inl stays)

include verfolgt isRow isLoser in
theorem verlierer_step : ∀ v, v ∈ (plan.step reference).bleiben ∨ v ∈ (plan.step reference).gehen →
    v ∈ db.vehicles.rows ∧ v.vehicleMasterId = loserId := by
  intro v inside
  rcases Plan.mem_step.mp inside with before | rfl
  · exact verfolgt.verlierer v before
  · exact ⟨isRow, isLoser⟩

include verfolgt isRow isLoser neu in
theorem nimmt (unknown : reference.incidentId ∉ plan.bekannt) : Verfolgt db winnerId loserId (plan.step reference) { lauf with
    vehicles := lauf.vehicles.modify reference.id (mitMaster winnerId) (mitMaster_id winnerId)
    offen := reference.id :: lauf.offen } := by
  have verlierer := verlierer_step verfolgt isRow isLoser
  have opened : ∀ i, i ∈ plan.bekannt → (plan.step reference).stamm db winnerId i = plan.stamm db winnerId i :=
    fun _ => Plan.stamm_step
  rw [Plan.step_unbekannt unknown] at verlierer opened ⊢
  refine ⟨verlierer, ?_, ?_, ?_, ?_, ?_, ?_, ?_, verfolgt.gegangen, ?_⟩
  · intro v stays goes
    rcases List.mem_append.mp stays with before | new
    · exact verfolgt.entweder v before goes
    · exact neu (Or.inr (List.mem_singleton.mp new ▸ goes))
  · intro v goes
    rw [Keyed.get?_modify, verfolgt.weg v goes]
    split <;> rfl
  · intro v₀ isRow₀ notGone
    obtain ⟨v, found, incident, master, active, removed⟩ := verfolgt.zeile v₀ isRow₀ notGone
    have removed' := removed.imp_right fun ⟨known, isStamm⟩ => And.intro known ((opened _ known).trans isStamm)
    rw [Keyed.get?_modify, found]
    split
    · next same =>
      refine ⟨mitMaster winnerId v, rfl, incident, ?_, active, removed'⟩
      rw [eindeutig isRow₀ isRow same, if_pos (List.mem_append_right _ (List.mem_singleton_self _))]
      rfl
    · next other =>
      refine ⟨v, rfl, incident, master.trans ?_, active, removed'⟩
      have apart : v₀ ≠ reference := fun same => other (congrArg _ same)
      simp only [List.mem_append, List.mem_singleton, apart, or_false]
  · intro v member
    obtain ⟨old, isOld, rfl⟩ := List.mem_map.mp member
    obtain ⟨v₀, isRow₀, id⟩ := verfolgt.herkunft old isOld
    exact ⟨v₀, isRow₀, id.trans (by split <;> rfl)⟩
  · intro id
    rw [List.mem_cons, verfolgt.offen id]
    constructor
    · rintro (rfl | ⟨v, stays, same, pending⟩)
      · exact ⟨reference, List.mem_append_right _ (List.mem_singleton_self _), rfl, List.mem_cons_self ..⟩
      · exact ⟨v, List.mem_append_left _ stays, same, List.mem_cons_of_mem _ pending⟩
    · rintro ⟨v, stays, rfl, pending⟩
      rcases List.mem_append.mp stays with before | new
      · refine Or.inr ⟨v, before, rfl, ?_⟩
        rcases List.mem_cons.mp pending with same | old
        · exact ((verfolgt.gekannt v (List.mem_append_right _ before)).resolve_left (same ▸ unknown)).2
        · exact old
      · exact Or.inl (congrArg _ (List.mem_singleton.mp new))
  · intro i pending
    rcases List.mem_cons.mp pending with rfl | old
    · exact unknown
    · exact verfolgt.getrennt i old
  · intro v inside
    rw [← List.append_assoc] at inside
    rcases List.mem_append.mp inside with before | new
    · exact (verfolgt.gekannt v before).imp_right fun ⟨stays, pending⟩ =>
        ⟨List.mem_append_left _ stays, List.mem_cons_of_mem _ pending⟩
    · rw [List.mem_singleton.mp new]
      exact Or.inr ⟨List.mem_append_right _ (List.mem_singleton_self _), List.mem_cons_self ..⟩
  · intro i cases
    dsimp only
    rw [← List.append_assoc]
    rcases cases with known | pending
    · obtain ⟨v, inside, incident⟩ := verfolgt.kenntnis i (Or.inl known)
      exact ⟨v, List.mem_append_left _ inside, incident⟩
    · rcases List.mem_cons.mp pending with rfl | old
      · exact ⟨reference, List.mem_append_right _ (List.mem_singleton_self _), rfl⟩
      · obtain ⟨v, inside, incident⟩ := verfolgt.kenntnis i (Or.inr old)
        exact ⟨v, List.mem_append_left _ inside, incident⟩

include verfolgt isRow isLoser neu in
theorem vereinigt (known : reference.incidentId ∈ plan.bekannt) {s survivor : IncidentVehicle}
    (isStamm : plan.stamm db winnerId reference.incidentId = some s) (stays : s ∈ eigene db winnerId ++ plan.bleiben)
    (incident : s.incidentId = reference.incidentId) (found : lauf.vehicles.get? s.id = some survivor)
    (anhaenge : Art → Keyed Anhang.id) (columns : List IncidentColumn) :
    Verfolgt db winnerId loserId (plan.step reference)
      { vehicles := (lauf.vehicles.modify survivor.id (vereint reference) (vereint_id reference)).delete reference.id, anhaenge, columns } := by
  have verlierer := verlierer_step verfolgt isRow isLoser
  rw [Plan.step_bekannt known] at verlierer ⊢
  have survivorId := Keyed.key_of_get? found
  refine ⟨verlierer, ?_, ?_, ?_, ?_, ?_, nofun, ?_, ?_, ?_⟩
  · intro v stays goes
    rcases List.mem_append.mp goes with before | new
    · exact verfolgt.entweder v stays before
    · exact neu (Or.inl (List.mem_singleton.mp new ▸ stays))
  · intro v goes
    rw [Keyed.get?_delete, Keyed.get?_modify]
    rcases List.mem_append.mp goes with before | new
    · rw [verfolgt.weg v before]
      split_ifs <;> rfl
    · rw [if_pos (congrArg _ (List.mem_singleton.mp new))]
  · intro v₀ isRow₀ notGone
    rw [List.mem_append, List.mem_singleton, not_or] at notGone
    obtain ⟨v, isV, sameIncident, master, active, removed⟩ := verfolgt.zeile v₀ isRow₀ notGone.1
    rw [Keyed.get?_delete, if_neg fun same => notGone.2 (eindeutig isRow₀ isRow same), Keyed.get?_modify, isV]
    split
    · next same =>
      have isStay : v₀ = s := eindeutig isRow₀ (verfolgt.mem_rows stays) (same.trans survivorId)
      refine ⟨vereint reference v, rfl, sameIncident, master, fun first => ?_, Or.inr ⟨?_, ?_⟩⟩
      · simp only [vereint, active first]
      · rw [isStay, incident]
        exact List.mem_append_left _ known
      · rw [isStay, incident]
        exact isStamm
    · exact ⟨v, rfl, sameIncident, master, active, removed.imp_right fun ⟨known', isStamm'⟩ =>
        ⟨List.mem_append_left _ known', isStamm'⟩⟩
  · intro v member
    rcases Keyed.mem_modify_cases (Keyed.mem_delete.mp member).1 with old | ⟨old, isOld, rfl⟩
    · exact verfolgt.herkunft v old
    · exact verfolgt.herkunft old (Keyed.mem_of_get? isOld)
  · simp
  · intro v inside
    exact Or.inl (List.mem_append.mpr ((verfolgt.gekannt v inside).imp_right And.right))
  · intro v goes
    refine List.mem_append_left _ ?_
    rcases List.mem_append.mp goes with before | new
    · exact verfolgt.gegangen v before
    · rw [List.mem_singleton.mp new]
      exact known
  · intro i cases
    exact verfolgt.kenntnis i (List.mem_append.mp (cases.resolve_right List.not_mem_nil))

end Schritt

end Verfolgt

theorem verfolgt_anfang (db : Datenbank) (winnerId loserId : Nat) : Verfolgt db winnerId loserId (.anfang db winnerId)
    { vehicles := db.vehicles, anhaenge := db.anhaenge, columns := db.columns } where
  verlierer := fun _ inside => (inside.elim List.not_mem_nil List.not_mem_nil).elim
  entweder := fun _ stays => absurd stays List.not_mem_nil
  weg := fun _ goes => absurd goes List.not_mem_nil
  zeile := fun v member _ => ⟨v, Keyed.get?_of_mem member, rfl, (if_neg List.not_mem_nil).symm, id, Or.inl rfl⟩
  herkunft := fun v member => ⟨v, member, rfl⟩
  offen := by simp [Plan.anfang]
  getrennt := fun _ pending => absurd pending List.not_mem_nil
  gegangen := fun _ goes => absurd goes List.not_mem_nil
  gekannt := fun v inside => by
    rw [Plan.anfang, List.append_nil] at inside
    exact Or.inl (List.mem_map_of_mem inside)
  kenntnis := fun i cases => by
    obtain ⟨v, own, rfl⟩ := List.mem_map.mp (cases.resolve_right List.not_mem_nil)
    exact ⟨v, List.mem_append_left _ own, rfl⟩

end Lauf

section Anhaenge

/-- What hung on a row that goes hangs on the one that takes it up, where it is of the
same incident, and else on none. -/
structure Angehaengt (db : Datenbank) (winnerId : Nat) (plan : Plan) (a₀ a : Anhang) : Prop where
  incident : a.incidentId = a₀.incidentId
  uebernommen : ∀ v ∈ plan.gehen, a₀.vehicleId = some v.id → a.vehicleId =
    if a₀.incidentId = v.incidentId then (plan.stamm db winnerId v.incidentId).map (·.id) else none
  bleibt : (∀ v ∈ plan.gehen, a₀.vehicleId ≠ some v.id) → a.vehicleId = a₀.vehicleId

def AnhaengeVerfolgt (db : Datenbank) (winnerId : Nat) (plan : Plan) (anhaenge : Art → Keyed Anhang.id) : Prop :=
  ∀ art, ∀ a₀ ∈ (db.anhaenge art).rows, ∃ a, (anhaenge art).get? a₀.id = some a ∧ Angehaengt db winnerId plan a₀ a

variable {db : Datenbank} {winnerId loserId : Nat} {plan : Plan} {lauf : Lauf}
  {reference s survivor : IncidentVehicle} {a₀ a : Anhang}

theorem geleert_uebergeben (differs : survivor.id ≠ reference.id) : (geleert reference (uebergeben survivor reference a)).vehicleId =
    if a.vehicleId = some reference.id then if a.incidentId = reference.incidentId then some survivor.id else none
    else a.vehicleId := by
  unfold geleert uebergeben
  by_cases own : a.vehicleId = some reference.id
  · by_cases same : a.incidentId = reference.incidentId
    · simp [own, same, differs]
    · simp [own, same]
  · simp [own]

theorem geleert_uebergeben_incident : (geleert reference (uebergeben survivor reference a)).incidentId = a.incidentId := by
  unfold geleert uebergeben
  split_ifs <;> rfl

section

variable (angehaengt : Angehaengt db winnerId plan a₀ a) (verfolgt : Verfolgt db winnerId loserId plan lauf)
include angehaengt verfolgt

theorem Angehaengt.nimmt
    (unknown : reference.incidentId ∉ plan.bekannt) : Angehaengt db winnerId (plan.step reference) a₀ a := by
  have gehen : (plan.step reference).gehen = plan.gehen := by rw [Plan.step_unbekannt unknown]
  refine ⟨angehaengt.incident, fun v goes on => ?_, fun none => angehaengt.bleibt fun v goes => none v (gehen ▸ goes)⟩
  rw [gehen] at goes
  rw [Plan.stamm_step (verfolgt.gegangen v goes)]
  exact angehaengt.uebernommen v goes on

theorem Angehaengt.vereinigt
    (isRow : reference ∈ db.vehicles.rows) (apart : reference ∉ eigene db winnerId ++ plan.bleiben) (neu : reference ∉ plan.gehen)
    (known : reference.incidentId ∈ plan.bekannt) (isStamm : plan.stamm db winnerId reference.incidentId = some s)
    (same : survivor.id = s.id) (differs : survivor.id ≠ reference.id) :
    Angehaengt db winnerId (plan.step reference) a₀ (geleert reference (uebergeben survivor reference a)) := by
  have gehen : (plan.step reference).gehen = plan.gehen ++ [reference] := by rw [Plan.step_bekannt known]
  have others : ∀ v ∈ plan.gehen, a₀.vehicleId = some v.id → a.vehicleId ≠ some reference.id := by
    intro v goes on still
    rw [angehaengt.uebernommen v goes on] at still
    split at still
    · obtain ⟨t, isT, id⟩ := Option.map_eq_some_iff.mp still
      have stays := (Plan.stamm_eq_some isT).1.1
      exact apart (eindeutig (verfolgt.mem_rows stays) isRow id ▸ stays)
    · cases still
  refine ⟨geleert_uebergeben_incident.trans angehaengt.incident, fun v goes on => ?_, fun none => ?_⟩
  · rw [gehen] at goes
    rw [geleert_uebergeben differs]
    rcases List.mem_append.mp goes with before | new
    · rw [if_neg (others v before on), Plan.stamm_step (verfolgt.gegangen v before)]
      exact angehaengt.uebernommen v before on
    · obtain rfl := List.mem_singleton.mp new
      have still : a.vehicleId = some v.id := by
        rw [angehaengt.bleibt fun w goes on' => ?_, on]
        rw [on] at on'
        exact neu (eindeutig isRow (verfolgt.verlierer w (Or.inr goes)).1 (Option.some.inj on') ▸ goes)
      rw [if_pos still, angehaengt.incident, Plan.stamm_step known, isStamm, Option.map_some, same]
  · rw [gehen] at none
    have bleibt := angehaengt.bleibt fun v goes => none v (List.mem_append_left _ goes)
    have notReference := none reference (List.mem_append_right _ (List.mem_singleton_self _))
    rw [geleert_uebergeben differs, if_neg (bleibt ▸ notReference)]
    exact bleibt

end

theorem anhaenge_anfang (db : Datenbank) (winnerId : Nat) : AnhaengeVerfolgt db winnerId (.anfang db winnerId) db.anhaenge :=
  fun _ a member => ⟨a, Keyed.get?_of_mem member, rfl, fun _ goes => absurd goes List.not_mem_nil, fun _ => rfl⟩

end Anhaenge

section Karten

/-- The cards are those from before, but for the ones that are of a row that goes: they
are one card of the row that takes it up. -/
structure KartenVerfolgt (db : Datenbank) (winnerId : Nat) (plan : Plan) (i : Nat) (karten₀ karten : List Karte) : Prop where
  andere : (karten.filter fun karte => ¬ plan.Betrifft db winnerId i karte).map Karte.schluessel =
    (karten₀.filter fun karte => ¬ plan.Betrifft db winnerId i karte).map Karte.schluessel
  gegangen : ∀ v ∈ plan.gehen, v.incidentId = i → ∀ karte ∈ karten, karte.istFahrzeug v.id = false
  einmal : ∀ s ∈ plan.stamm db winnerId i, (∃ v ∈ plan.gehen, v.incidentId = i) → (karten.filter (·.istFahrzeug s.id)).length ≤ 1

def SpalteVerfolgt (db : Datenbank) (winnerId : Nat) (plan : Plan) (column₀ column : IncidentColumn) : Prop :=
  column.incidentId = column₀.incidentId ∧
    match column₀.cardOrder with
    | .liste karten₀ => ∃ karten, column.cardOrder = .liste karten ∧ KartenVerfolgt db winnerId plan column₀.incidentId karten₀ karten
    | other => column.cardOrder = other

variable {survivor duplicate : Nat} {gesehen : Bool} {karten : List Karte} {karte : Karte}

theorem istFahrzeug_iff {id : Nat} : karte.istFahrzeug id = true ↔ karte.kind = some "vehicle" ∧ karte.id = some (.inl id) := by
  rw [Karte.istFahrzeug, decide_eq_true_eq]

theorem istFahrzeug_unique {a b : Nat} (isA : karte.istFahrzeug a = true) (isB : karte.istFahrzeug b = true) : a = b := by
  have sameId := (istFahrzeug_iff.mp isA).2.symm.trans (istFahrzeug_iff.mp isB).2
  exact Sum.inl.inj (Option.some.inj sameId)

theorem umbenannt_istFahrzeug (survivor : Nat) (isDuplicate : karte.istFahrzeug duplicate = true) :
    ({ karte with id := some (.inl survivor) } : Karte).istFahrzeug survivor = true :=
  istFahrzeug_iff.mpr ⟨(istFahrzeug_iff.mp isDuplicate).1, rfl⟩

theorem vereinteKarten_andere {p : Karte → Bool} (ohneS : ∀ karte : Karte, karte.istFahrzeug survivor = true → p karte = false)
    (ohneD : ∀ karte : Karte, karte.istFahrzeug duplicate = true → p karte = false) :
    (vereinteKarten survivor duplicate gesehen karten).filter p = karten.filter p := by
  induction karten generalizing gesehen with
  | nil => rfl
  | cons karte rest ih =>
    unfold vereinteKarten
    dsimp only
    by_cases isDuplicate : karte.istFahrzeug duplicate = true
    · have drop : p karte = false := ohneD karte isDuplicate
      have renamed := umbenannt_istFahrzeug survivor isDuplicate
      rw [if_pos isDuplicate, if_pos renamed, List.filter_cons_of_neg (by simp [drop])]
      split
      · exact ih
      · rw [List.filter_cons_of_neg (by simp [ohneS _ renamed]), ih]
    · rw [if_neg isDuplicate]
      by_cases isSurvivor : karte.istFahrzeug survivor = true
      · have drop : p karte = false := ohneS karte isSurvivor
        rw [if_pos isSurvivor, List.filter_cons_of_neg (by simp [drop])]
        split
        · exact ih
        · rw [List.filter_cons_of_neg (by simp [drop]), ih]
      · rw [if_neg isSurvivor, List.filter_cons, List.filter_cons, ih]

theorem mem_vereinteKarten (member : karte ∈ vereinteKarten survivor duplicate gesehen karten) :
    karte.istFahrzeug survivor = true ∨ karte ∈ karten ∧ karte.istFahrzeug duplicate = false := by
  induction karten generalizing gesehen with
  | nil => cases member
  | cons first rest ih =>
    unfold vereinteKarten at member
    dsimp only at member
    have later : ∀ {gesehen}, karte ∈ vereinteKarten survivor duplicate gesehen rest →
        karte.istFahrzeug survivor = true ∨ karte ∈ first :: rest ∧ karte.istFahrzeug duplicate = false :=
      fun inside => (ih inside).imp_right fun ⟨old, other⟩ => ⟨List.mem_cons_of_mem _ old, other⟩
    by_cases isDuplicate : first.istFahrzeug duplicate = true
    · have renamed := umbenannt_istFahrzeug survivor isDuplicate
      rw [if_pos isDuplicate, if_pos renamed] at member
      split at member
      · exact later member
      · rcases List.mem_cons.mp member with rfl | inside
        · exact Or.inl renamed
        · exact later inside
    · rw [if_neg isDuplicate] at member
      by_cases isSurvivor : first.istFahrzeug survivor = true
      · rw [if_pos isSurvivor] at member
        split at member
        · exact later member
        · rcases List.mem_cons.mp member with rfl | inside
          · exact Or.inl isSurvivor
          · exact later inside
      · rw [if_neg isSurvivor] at member
        rcases List.mem_cons.mp member with rfl | inside
        · exact Or.inr ⟨List.mem_cons_self .., Bool.eq_false_iff.mpr isDuplicate⟩
        · exact later inside

theorem vereinteKarten_einmal : ((vereinteKarten survivor duplicate gesehen karten).filter (·.istFahrzeug survivor)).length ≤
    if gesehen then 0 else 1 := by
  induction karten generalizing gesehen with
  | nil => cases gesehen <;> simp [vereinteKarten]
  | cons karte rest ih =>
    unfold vereinteKarten
    dsimp only
    generalize (if karte.istFahrzeug duplicate = true then { karte with id := some (.inl survivor) } else karte) = next
    by_cases isSurvivor : next.istFahrzeug survivor = true
    · rw [if_pos isSurvivor]
      cases gesehen with
      | true => exact @ih true
      | false =>
        rw [if_neg Bool.false_ne_true, List.filter_cons_of_pos isSurvivor, List.length_cons]
        exact Nat.succ_le_succ (@ih true)
    · rw [if_neg isSurvivor, List.filter_cons_of_neg (by simpa using isSurvivor)]
      exact ih

theorem istFahrzeug_congr {other : Karte} (same : karte.schluessel = other.schluessel) (id : Nat) :
    karte.istFahrzeug id = other.istFahrzeug id := by
  rw [Bool.eq_iff_iff, istFahrzeug_iff, istFahrzeug_iff, show karte.kind = other.kind from congrArg Prod.fst same,
    show karte.id = other.id from congrArg Prod.snd same]

theorem map_filter_congr {α β : Type*} {f : α → β} {p : α → Bool} (reads : ∀ a b, f a = f b → p a = p b) {l l' : List α}
    (same : l.map f = l'.map f) : (l.filter p).map f = (l'.filter p).map f := by
  induction l generalizing l' with
  | nil => rw [List.map_eq_nil_iff.mp same.symm]
  | cons a l ih =>
    obtain ⟨b, l'', rfl, first, rest⟩ := List.map_eq_cons_iff.mp same.symm
    rw [List.filter_cons, List.filter_cons, reads b a first]
    split
    · rw [List.map_cons, List.map_cons, first, ih rest.symm]
    · exact ih rest.symm

variable {db : Datenbank} {winnerId loserId i : Nat} {plan : Plan} {lauf : Lauf} {reference s : IncidentVehicle}
  {karten₀ : List Karte}

theorem Plan.betrifft_congr {other : Karte} (same : karte.schluessel = other.schluessel) :
    plan.Betrifft db winnerId i karte ↔ plan.Betrifft db winnerId i other := by
  unfold Plan.Betrifft
  simp only [istFahrzeug_congr same]

theorem betrifft_step_anders (verfolgt : Verfolgt db winnerId loserId plan lauf)
    (anders : reference.incidentId ∉ plan.bekannt ∨ reference.incidentId ≠ i) :
    (plan.step reference).Betrifft db winnerId i karte ↔ plan.Betrifft db winnerId i karte := by
  have gehen : ∀ v, (v ∈ (plan.step reference).gehen ∧ v.incidentId = i) ↔ v ∈ plan.gehen ∧ v.incidentId = i := by
    intro v
    by_cases known : reference.incidentId ∈ plan.bekannt
    · rw [Plan.step_bekannt known, List.mem_append, List.mem_singleton]
      have other := anders.resolve_left (not_not.mpr known)
      constructor
      · rintro ⟨before | rfl, same⟩
        · exact ⟨before, same⟩
        · exact absurd same other
      · exact fun ⟨before, same⟩ => ⟨Or.inl before, same⟩
    · rw [Plan.step_unbekannt known]
  have stamm : ∀ v ∈ plan.gehen, v.incidentId = i → (plan.step reference).stamm db winnerId i = plan.stamm db winnerId i :=
    fun v goes same => Plan.stamm_step (same ▸ verfolgt.gegangen v goes)
  constructor
  · rintro ⟨v, goes, same, concerned⟩
    have before := (gehen v).mp ⟨goes, same⟩
    rw [stamm v before.1 same] at concerned
    exact ⟨v, before.1, same, concerned⟩
  · rintro ⟨v, goes, same, concerned⟩
    rw [← stamm v goes same] at concerned
    exact ⟨v, ((gehen v).mpr ⟨goes, same⟩).1, same, concerned⟩

theorem betrifft_step_bekannt (known : reference.incidentId ∈ plan.bekannt)
    (isStamm : plan.stamm db winnerId reference.incidentId = some s) :
    (plan.step reference).Betrifft db winnerId reference.incidentId karte ↔
      plan.Betrifft db winnerId reference.incidentId karte ∨ karte.istFahrzeug reference.id = true ∨ karte.istFahrzeug s.id = true := by
  have stamm : (plan.step reference).stamm db winnerId reference.incidentId = some s := (Plan.stamm_step known).trans isStamm
  have gehen : (plan.step reference).gehen = plan.gehen ++ [reference] := by rw [Plan.step_bekannt known]
  unfold Plan.Betrifft
  simp only [stamm, isStamm, gehen, Option.mem_some_iff, exists_eq_left', List.mem_append, List.mem_singleton]
  constructor
  · rintro ⟨v, before | rfl, same, concerned⟩
    · exact Or.inl ⟨v, before, same, concerned⟩
    · exact Or.inr concerned
  · rintro (⟨v, before, same, concerned⟩ | concerned)
    · exact ⟨v, Or.inl before, same, concerned⟩
    · exact ⟨reference, Or.inr rfl, rfl, concerned⟩

section

variable (verfolgt : Verfolgt db winnerId loserId plan lauf)
include verfolgt

theorem KartenVerfolgt.anders
    (anders : reference.incidentId ∉ plan.bekannt ∨ reference.incidentId ≠ i) (folgt : KartenVerfolgt db winnerId plan i karten₀ karten) :
    KartenVerfolgt db winnerId (plan.step reference) i karten₀ karten := by
  have gehen : ∀ v ∈ (plan.step reference).gehen, v.incidentId = i → v ∈ plan.gehen := by
    intro v goes same
    by_cases known : reference.incidentId ∈ plan.bekannt
    · rw [Plan.step_bekannt known, List.mem_append, List.mem_singleton] at goes
      refine goes.resolve_right fun isNew => ?_
      exact anders.resolve_left (not_not.mpr known) (isNew ▸ same)
    · rwa [Plan.step_unbekannt known] at goes
  refine ⟨?_, fun v goes same => folgt.gegangen v (gehen v goes same) same, fun t isT ⟨v, goes, same⟩ => ?_⟩
  · simp only [betrifft_step_anders verfolgt anders]
    exact folgt.andere
  · have before := gehen v goes same
    rw [Plan.stamm_step (same ▸ verfolgt.gegangen v before)] at isT
    exact folgt.einmal t isT ⟨v, before, same⟩

theorem KartenVerfolgt.vereinigt (verschieden : winnerId ≠ loserId)
    (known : reference.incidentId ∈ plan.bekannt) (isStamm : plan.stamm db winnerId reference.incidentId = some s)
    (differs : s.id ≠ reference.id) (folgt : KartenVerfolgt db winnerId plan reference.incidentId karten₀ karten) :
    KartenVerfolgt db winnerId (plan.step reference) reference.incidentId karten₀ (vereinteKarten s.id reference.id false karten) := by
  have betrifft : ∀ karte : Karte, (plan.step reference).Betrifft db winnerId reference.incidentId karte ↔ _ :=
    fun _ => betrifft_step_bekannt known isStamm
  have stays := (Plan.stamm_eq_some isStamm).1.1
  refine ⟨?_, fun v goes same karte member => ?_, fun t isT _ => ?_⟩
  · have reads : ∀ a b : Karte, a.schluessel = b.schluessel →
        decide (¬ (plan.step reference).Betrifft db winnerId reference.incidentId a) =
          decide (¬ (plan.step reference).Betrifft db winnerId reference.incidentId b) :=
      fun a b same => decide_eq_decide.mpr (not_congr (Plan.betrifft_congr same))
    have further := map_filter_congr reads folgt.andere
    have inner : ∀ l : List Karte, ((l.filter fun karte => ¬ plan.Betrifft db winnerId reference.incidentId karte).filter
        fun karte => ¬ (plan.step reference).Betrifft db winnerId reference.incidentId karte) =
          l.filter fun karte => ¬ (plan.step reference).Betrifft db winnerId reference.incidentId karte := by
      intro l
      rw [List.filter_filter]
      refine List.filter_congr fun karte _ => ?_
      rw [← Bool.decide_and, decide_eq_decide, betrifft karte]
      tauto
    rw [inner, inner] at further
    rw [vereinteKarten_andere, further]
    · exact fun karte isS => decide_eq_false (not_not.mpr ((betrifft karte).mpr (Or.inr (Or.inr isS))))
    · exact fun karte isD => decide_eq_false (not_not.mpr ((betrifft karte).mpr (Or.inr (Or.inl isD))))
  · rw [Plan.step_bekannt known, List.mem_append, List.mem_singleton] at goes
    rcases mem_vereinteKarten member with isS | ⟨old, notD⟩
    · refine Bool.eq_false_iff.mpr fun isV => ?_
      have sameId := istFahrzeug_unique isS isV
      rcases goes with before | rfl
      · have isRow := (verfolgt.verlierer v (Or.inr before)).1
        exact verfolgt.bleibt verschieden stays (eindeutig (verfolgt.mem_rows stays) isRow sameId ▸ before)
      · exact differs sameId
    · rcases goes with before | rfl
      · exact folgt.gegangen v before same karte old
      · exact notD
  · rw [Plan.stamm_step known, isStamm] at isT
    cases isT
    exact vereinteKarten_einmal

theorem SpalteVerfolgt.anders {column₀ column : IncidentColumn}
    (anders : reference.incidentId ∉ plan.bekannt ∨ reference.incidentId ≠ column₀.incidentId)
    (folgt : SpalteVerfolgt db winnerId plan column₀ column) : SpalteVerfolgt db winnerId (plan.step reference) column₀ column := by
  obtain ⟨incident, order⟩ := folgt
  refine ⟨incident, ?_⟩
  cases isOrder : column₀.cardOrder with
  | liste karten₀ =>
    rw [isOrder] at order
    obtain ⟨karten, isKarten, folgt⟩ := order
    exact ⟨karten, isKarten, folgt.anders verfolgt anders⟩
  | _ =>
    rw [isOrder] at order
    exact order

theorem SpalteVerfolgt.vereinigt {column₀ column column' : IncidentColumn} {survivor : IncidentVehicle} (verschieden : winnerId ≠ loserId)
    (known : reference.incidentId ∈ plan.bekannt) (isStamm : plan.stamm db winnerId reference.incidentId = some s)
    (differs : s.id ≠ reference.id) (sameId : survivor.id = s.id) (incident : survivor.incidentId = reference.incidentId)
    (folgt : SpalteVerfolgt db winnerId plan column₀ column) (ok : vereinteSpalte survivor reference column = .ok column') :
    SpalteVerfolgt db winnerId (plan.step reference) column₀ column' := by
  unfold vereinteSpalte at ok
  rw [incident] at ok
  split at ok
  · next same =>
    obtain ⟨sameColumn, order⟩ := folgt
    have isIncident : column₀.incidentId = reference.incidentId := sameColumn.symm.trans same
    cases isOrder : column₀.cardOrder with
    | liste karten₀ =>
      rw [isOrder] at order
      obtain ⟨karten, isKarten, folgt⟩ := order
      rw [isKarten] at ok
      cases ok
      refine ⟨sameColumn, ?_⟩
      rw [isOrder]
      rw [isIncident] at folgt ⊢
      exact ⟨_, rfl, sameId ▸ folgt.vereinigt verfolgt verschieden known isStamm differs⟩
    | leer =>
      rw [isOrder] at order
      rw [order] at ok
      cases ok
      exact ⟨sameColumn, by rw [isOrder]; exact order⟩
    | unlesbar text =>
      rw [isOrder] at order
      rw [order] at ok
      cases ok
      exact ⟨sameColumn, by rw [isOrder]; exact order⟩
    | fremd text =>
      rw [isOrder] at order
      rw [order] at ok
      cases ok
  · next other =>
    cases ok
    exact folgt.anders verfolgt (Or.inr fun same => other (folgt.1.trans same.symm))

end

theorem forall₂_comp {α β γ : Type*} {R : α → β → Prop} {S : β → γ → Prop} {T : α → γ → Prop}
    (comp : ∀ a b c, R a b → S b c → T a c) {l : List α} {m : List β} {n : List γ} (first : List.Forall₂ R l m)
    (second : List.Forall₂ S m n) : List.Forall₂ T l n := by
  induction first generalizing n with
  | nil =>
    cases second
    exact .nil
  | cons head _ ih =>
    cases second with
    | cons head' tail' => exact .cons (comp _ _ _ head head') (ih tail')

end Karten

section Gang

structure Gefolgt (db : Datenbank) (winnerId loserId : Nat) (plan : Plan) (lauf : Lauf) : Prop where
  fahrzeuge : Verfolgt db winnerId loserId plan lauf
  anhaenge : AnhaengeVerfolgt db winnerId plan lauf.anhaenge
  spalten : List.Forall₂ (SpalteVerfolgt db winnerId plan) db.columns lauf.columns

variable {db : Datenbank} {winnerId loserId : Nat} {plan : Plan} {lauf lauf' : Lauf} {reference : IncidentVehicle}
  {references : List IncidentVehicle}

section

variable (gefolgt : Gefolgt db winnerId loserId plan lauf) (verschieden : winnerId ≠ loserId)
include gefolgt verschieden

theorem Gefolgt.step
    (isRow : reference ∈ db.vehicles.rows) (isLoser : reference.vehicleMasterId = loserId)
    (neu : ¬ (reference ∈ plan.bleiben ∨ reference ∈ plan.gehen)) (ok : haengeUm winnerId lauf reference = .ok lauf') :
    Gefolgt db winnerId loserId (plan.step reference) lauf' := by
  have verfolgt := gefolgt.fahrzeuge
  have apart : reference ∉ eigene db winnerId ++ plan.bleiben := Verfolgt.apart_eigene verschieden isLoser neu
  by_cases known : reference.incidentId ∈ plan.bekannt
  · obtain ⟨s, survivor, isStamm, stays, incident, differs, found, query⟩ :=
      verfolgt.survivor_bekannt verschieden known isRow apart
    have survivorId := Keyed.key_of_get? found
    have survivorIncident : survivor.incidentId = reference.incidentId :=
      (verfolgt.gelesen verschieden (Keyed.mem_of_get? found) stays survivorId.symm).1.trans incident
    rw [haengeUm, query] at ok
    simp only [mergeIncidentVehicle, bind_eq_ok, pure_eq_ok] at ok
    obtain ⟨columns, isColumns, -, -, rfl⟩ := ok
    refine ⟨verfolgt.vereinigt isRow isLoser neu known isStamm stays incident found _ _, fun art a₀ member => ?_, ?_⟩
    · obtain ⟨a, isA, angehaengt⟩ := gefolgt.anhaenge art a₀ member
      refine ⟨geleert reference (uebergeben survivor reference a), ?_, ?_⟩
      · rw [Keyed.get?_map, Keyed.get?_map, isA]
        rfl
      · exact angehaengt.vereinigt verfolgt isRow apart (fun goes => neu (Or.inr goes)) known isStamm survivorId
          (survivorId ▸ differs)
    · exact forall₂_comp (fun _ _ _ folgt ok => folgt.vereinigt verfolgt verschieden known isStamm differs survivorId
        survivorIncident ok) gefolgt.spalten (forall₂_of_mapM isColumns)
  · rw [haengeUm, verfolgt.survivor_unbekannt verschieden known] at ok
    cases ok
    refine ⟨verfolgt.nimmt isRow isLoser neu known, fun art a₀ member => ?_, ?_⟩
    · obtain ⟨a, isA, angehaengt⟩ := gefolgt.anhaenge art a₀ member
      exact ⟨a, isA, angehaengt.nimmt verfolgt known⟩
    · exact gefolgt.spalten.imp fun _ _ folgt => folgt.anders verfolgt (Or.inl known)

theorem Gefolgt.run
    (rows : ∀ v ∈ references, v ∈ db.vehicles.rows ∧ v.vehicleMasterId = loserId) (nodup : references.Nodup)
    (neu : ∀ v ∈ references, ¬ (v ∈ plan.bleiben ∨ v ∈ plan.gehen)) (ok : references.foldlM (haengeUm winnerId) lauf = .ok lauf') :
    Gefolgt db winnerId loserId (references.foldl Plan.step plan) lauf' := by
  induction references generalizing plan lauf with
  | nil =>
    cases ok
    exact gefolgt
  | cons reference references ih =>
    obtain ⟨next, first, rest⟩ := foldlM_cons_eq_ok.mp ok
    obtain ⟨isRow, isLoser⟩ := rows reference (List.mem_cons_self ..)
    rw [List.nodup_cons] at nodup
    refine ih (gefolgt.step verschieden isRow isLoser (neu reference (List.mem_cons_self ..)) first)
      (fun v later => rows v (List.mem_cons_of_mem _ later)) nodup.2 (fun v later inside => ?_) rest
    rcases Plan.mem_step.mp inside with before | same
    · exact neu v (List.mem_cons_of_mem _ later) before
    · exact nodup.1 (same ▸ later)

end

theorem spalten_anfang (db : Datenbank) (winnerId : Nat) :
    List.Forall₂ (SpalteVerfolgt db winnerId (.anfang db winnerId)) db.columns db.columns := by
  refine List.forall₂_same.mpr fun column _ => ⟨rfl, ?_⟩
  cases column.cardOrder with
  | liste karten =>
    exact ⟨karten, rfl, rfl, fun _ goes => absurd goes List.not_mem_nil, fun _ _ ⟨_, goes, _⟩ => absurd goes List.not_mem_nil⟩
  | _ => rfl

theorem gefolgt_plan {kontext : Option Nat} {orgId : Nat} (verschieden : winnerId ≠ loserId)
    (ok : (referenzen db kontext orgId loserId).foldlM (haengeUm winnerId)
      { vehicles := db.vehicles, anhaenge := db.anhaenge, columns := db.columns } = .ok lauf') :
    Gefolgt db winnerId loserId (Fahrzeugstamm.plan db kontext orgId winnerId loserId) lauf' := by
  refine Gefolgt.run ⟨verfolgt_anfang db winnerId loserId, anhaenge_anfang db winnerId, spalten_anfang db winnerId⟩ verschieden
    (fun v member => ?_) ?_ (fun _ _ inside => (inside.elim List.not_mem_nil List.not_mem_nil).elim) ok
  · exact ⟨(mem_referenzen.mp member).1, (mem_referenzen.mp member).2.1⟩
  · exact List.Nodup.filter _ (List.Nodup.of_map _ db.vehicles.nodup)

end Gang

end Einsatzcockpit.Fahrzeugstamm
