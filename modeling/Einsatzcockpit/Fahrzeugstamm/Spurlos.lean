import Einsatzcockpit.Fahrzeugstamm.Plan

namespace Einsatzcockpit.Fahrzeugstamm

open Raising Relational

section Eigenschaft

/-- The winner has the row of a reference, or one for the same incident with all that
hung on both. -/
def FahrzeugGewahrt (vorher nachher : Datenbank) (winnerId : Nat) (v : IncidentVehicle) : Prop :=
  (∃ v', nachher.vehicles.get? v.id = some v' ∧ v'.vehicleMasterId = winnerId) ∨
    ∃ s, nachher.vehicles.get? s.id = some s ∧ s.vehicleMasterId = winnerId ∧ s.incidentId = v.incidentId ∧
      ∀ art, ∀ a ∈ (vorher.anhaenge art).rows, a.vehicleId = some v.id ∨ a.vehicleId = some s.id →
        ∃ a', (nachher.anhaenge art).get? a.id = some a' ∧ a'.vehicleId = some s.id

/-- The winner has the row of a reference, or had one for the same thing that stays, with
all that hung on both. -/
def VerweisGewahrt (vorher nachher : Datenbank) (winnerId : Nat) (tabelle : Tabelle) (r : Verweis) : Prop :=
  (∃ r', (nachher.verweise tabelle).get? r.id = some r' ∧ r'.vehicleId = some winnerId) ∨
    ∃ d ∈ (vorher.verweise tabelle).rows, d.gruppe = r.gruppe ∧ d.vehicleId = some winnerId ∧
      (∃ d', (nachher.verweise tabelle).get? d.id = some d' ∧ d'.vehicleId = some winnerId) ∧
      (tabelle = .lageEinheit → ∀ t, ∀ a ∈ (vorher.einheitAnhaenge t).rows, a.einheitId = some r.id ∨ a.einheitId = some d.id →
        ∃ a', (nachher.einheitAnhaenge t).get? a.id = some a' ∧ a'.einheitId = some d.id)

structure Zusammengefuehrt (vorher nachher : Datenbank) (winnerId loserId : Nat) : Prop where
  keinFahrzeug : ∀ v ∈ nachher.vehicles.rows, v.vehicleMasterId ≠ loserId
  keinVerweis : ∀ tabelle, ∀ r ∈ (nachher.verweise tabelle).rows, r.vehicleId ≠ some loserId
  fahrzeuge : ∀ v ∈ vorher.vehicles.rows, v.vehicleMasterId = loserId → FahrzeugGewahrt vorher nachher winnerId v
  verweise : ∀ tabelle, ∀ r ∈ (vorher.verweise tabelle).rows, r.vehicleId = some loserId →
    VerweisGewahrt vorher nachher winnerId tabelle r
  aktiv : ∀ v ∈ nachher.vehicles.rows, ∀ v' ∈ nachher.vehicles.rows, v.vehicleMasterId = winnerId → v'.vehicleMasterId = winnerId →
    v.incidentId = v'.incidentId → v.removedAt = none → v'.removedAt = none → v = v'
  karten : ∀ column ∈ nachher.columns, ∀ karten, column.cardOrder = .liste karten → (karten.map Karte.schluessel).Nodup

structure Bedingung (db : Datenbank) (kontext : Option Nat) (orgId winnerId loserId : Nat) : Prop where
  fahrzeugeSichtbar : ∀ v ∈ db.vehicles.rows, v.vehicleMasterId = loserId → (db.incidents v.incidentId).sichtbar kontext = true
  verweiseSichtbar : ∀ tabelle, ∀ r ∈ (db.verweise tabelle).rows, r.vehicleId = some loserId → sichtbar kontext tabelle r = true
  anhaenge : ∀ v ∈ (plan db kontext orgId winnerId loserId).gehen, ∀ art, ∀ a ∈ (db.anhaenge art).rows,
    a.vehicleId = some v.id → a.incidentId = v.incidentId
  einheiten : ∀ r ∈ (db.verweise .lageEinheit).rows, r.vehicleId = some loserId →
    ∀ d ∈ (db.verweise .lageEinheit).rows, d.gruppe = r.gruppe → d.vehicleId = some winnerId →
      ∀ t, ∀ a ∈ (db.einheitAnhaenge t).rows, a.einheitId ≠ some r.id
  aktiv : ∀ v ∈ eigene db winnerId ++ (plan db kontext orgId winnerId loserId).bleiben,
    ∀ v' ∈ eigene db winnerId ++ (plan db kontext orgId winnerId loserId).bleiben,
      v.incidentId = v'.incidentId → v.removedAt = none → v'.removedAt = none → v = v'
  karten : ∀ column ∈ db.columns, ∀ karten, column.cardOrder = .liste karten →
    ((karten.filter fun karte => ¬ (plan db kontext orgId winnerId loserId).Betrifft db winnerId column.incidentId karte).map
      Karte.schluessel).Nodup

end Eigenschaft

section Vollzug

/-- What a merge has done: its vehicles go by the plan, each other reference is handled
by itself, and the session sees none that the loser still has. -/
structure Vollzogen (db nachher : Datenbank) (kontext : Option Nat) (orgId loserId : Nat) (winner : VehicleMaster) : Prop where
  verschieden : winner.id ≠ loserId
  gefolgt : ∃ offen, Gefolgt db winner.id loserId (plan db kontext orgId winner.id loserId)
    { vehicles := nachher.vehicles, anhaenge := nachher.anhaenge, columns := nachher.columns, offen }
  verweise : ∀ tabelle, nachher.verweise tabelle = (db.verweise tabelle).filterMap
    (umgehaengt kontext orgId loserId winner true tabelle (db.verweise tabelle).rows)
    (umgehaengt_id kontext orgId loserId winner true tabelle (db.verweise tabelle).rows)
  einheitAnhaenge : ∀ t, nachher.einheitAnhaenge t = (db.einheitAnhaenge t).filterMap
    (einheitenGeloescht (geloescht kontext orgId loserId winner.id true .lageEinheit (db.verweise .lageEinheit).rows) t)
    (einheitenGeloescht_id (geloescht kontext orgId loserId winner.id true .lageEinheit (db.verweise .lageEinheit).rows) t)
  keinFahrzeug : ∀ v ∈ nachher.vehicles.rows, v.vehicleMasterId = loserId → (db.incidents v.incidentId).sichtbar kontext = false
  keinVerweis : ∀ tabelle, ∀ r ∈ (nachher.verweise tabelle).rows, r.vehicleId = some loserId → sichtbar kontext tabelle r = false

theorem mitToken_ids (winner loser : VehicleMaster) : (mitToken (stammdaten winner loser) loser).1.id = winner.id ∧
    (mitToken (stammdaten winner loser) loser).2.id = loser.id := by
  unfold mitToken
  split <;> exact ⟨rfl, rfl⟩

theorem anzahlen_leer {db : Datenbank} {kontext orgId : Option Nat} {vehicleId : Nat}
    (empty : (anzahlen db kontext vehicleId orgId).filter (·.2 ≠ 0) = []) :
    (∀ v ∈ db.vehicles.rows, incidentQuery db kontext vehicleId orgId v = false) ∧
      ∀ tabelle, ∀ r ∈ (db.verweise tabelle).rows, verweisQuery kontext vehicleId orgId tabelle r = false := by
  have zero : ∀ count ∈ anzahlen db kontext vehicleId orgId, count.2 = 0 := by
    intro count member
    simpa using List.filter_eq_nil_iff.mp empty count member
  constructor
  · have none := List.length_eq_zero_iff.mp (zero _ (List.mem_cons_self ..))
    exact fun v member => Bool.eq_false_iff.mpr (List.filter_eq_nil_iff.mp none v member)
  · intro tabelle r member
    have isTabelle : tabelle ∈ Tabelle.alle := by cases tabelle <;> decide
    have none := List.length_eq_zero_iff.mp (zero _ (List.mem_cons_of_mem _ (List.mem_map_of_mem isTabelle)))
    exact Bool.eq_false_iff.mpr (List.filter_eq_nil_iff.mp none r member)

theorem vollzogen {db : Datenbank} {kontext : Option Nat} {winner loser : VehicleMaster} {e : Ergebnis}
    (ok : mergeVehicles db kontext winner loser = .ok e) : ∃ gewinner : VehicleMaster, gewinner.id = winner.id ∧
      Vollzogen db e.db kontext winner.deptId loser.id gewinner := by
  obtain ⟨winnerId, loserId⟩ := mitToken_ids winner loser
  unfold mergeVehicles at ok
  generalize mitToken (stammdaten winner loser) loser = beide at ok winnerId loserId
  simp only [bind_eq_ok, require_eq_ok, pure_eq_ok] at ok
  obtain ⟨-, differs, -, -, -, -, ⟨nachher, counts⟩, isNachher, -, empty, rfl⟩ := ok
  simp only [repointVehicleReferences, loserId, bind_eq_ok, require_eq_ok, pure_eq_ok, Prod.mk.injEq] at isNachher
  obtain ⟨lauf, isLauf, -, -, rfl, -⟩ := isNachher
  obtain ⟨keinFahrzeug, keinVerweis⟩ := anzahlen_leer empty
  have verschieden : beide.1.id ≠ loser.id := winnerId ▸ differs
  refine ⟨beide.1, winnerId, verschieden, ⟨lauf.offen, gefolgt_plan verschieden isLauf⟩, fun _ => rfl, fun _ => rfl,
    fun v member own => ?_, fun tabelle r member own => ?_⟩
  · have unseen := keinFahrzeug v member
    simpa [incidentQuery, own] using unseen
  · have unseen := keinVerweis tabelle r member
    simpa [verweisQuery, own] using unseen

end Vollzug

section Verweise

variable {db nachher : Datenbank} {kontext : Option Nat} {orgId loserId : Nat} {winner : VehicleMaster}
  {tabelle : Tabelle}
  {rows : List Verweis} {r d : Verweis}

theorem umgehaengt_fremd (other : ¬ verweisQuery kontext loserId (some orgId) tabelle r = true) :
    ∃ label, umgehaengt kontext orgId loserId winner true tabelle rows r = some { r with label } := by
  unfold umgehaengt
  dsimp only
  rw [if_neg other]
  split
  · exact ⟨_, rfl⟩
  · exact ⟨r.label, rfl⟩

section

variable (asked : verweisQuery kontext loserId (some orgId) tabelle r = true)
include asked

theorem umgehaengt_eigen
    (single : doppelt rows winner.id true tabelle r = none) :
    ∃ label, umgehaengt kontext orgId loserId winner true tabelle rows r = some { r with vehicleId := some winner.id, label } := by
  unfold umgehaengt
  dsimp only
  rw [if_pos asked, single]
  exact ⟨_, rfl⟩

theorem umgehaengt_doppelt
    (twice : doppelt rows winner.id true tabelle r = some d) :
    umgehaengt kontext orgId loserId winner true tabelle rows r = none := by
  unfold umgehaengt
  dsimp only
  rw [if_pos asked, twice]

end

theorem doppelt_some {winnerId : Nat} (twice : doppelt rows winnerId true tabelle r = some d) :
    d ∈ rows ∧ d.gruppe = r.gruppe ∧ d.vehicleId = some winnerId := by
  unfold doppelt at twice
  split at twice
  · exact ⟨List.mem_of_find?_eq_some twice, by simpa using List.find?_some twice⟩
  · cases twice

theorem doppelt_lageEinheit {winnerId : Nat} (member : d ∈ rows) (group : d.gruppe = r.gruppe) (own : d.vehicleId = some winnerId) :
    ∃ d', doppelt rows winnerId true .lageEinheit r = some d' := by
  refine Option.ne_none_iff_exists'.mp fun none => ?_
  rw [doppelt, if_pos ⟨rfl, rfl⟩] at none
  exact List.find?_eq_none.mp none d member (decide_eq_true ⟨group, own⟩)

theorem sichtbar_label (label : Option String) : sichtbar kontext tabelle { r with label } = sichtbar kontext tabelle r := by
  cases tabelle <;> rfl

theorem verweisQuery_eigen (asked : verweisQuery kontext loserId (some orgId) tabelle r = true) :
    r.vehicleId = some loserId ∧ sichtbar kontext tabelle r = true :=
  ⟨(decide_eq_true_eq.mp asked).1, (decide_eq_true_eq.mp asked).2.1⟩

theorem mem_geloescht {winnerId id : Nat} : id ∈ geloescht kontext orgId loserId winnerId true tabelle rows ↔
    ∃ r ∈ rows, verweisQuery kontext loserId (some orgId) tabelle r = true ∧ (doppelt rows winnerId true tabelle r).isSome = true ∧
      r.id = id := by
  simp [geloescht, and_assoc]

namespace Vollzogen

variable (vollzogen : Vollzogen db nachher kontext orgId loserId winner)

include vollzogen in
theorem get?_verweis (member : r ∈ (db.verweise tabelle).rows) : (nachher.verweise tabelle).get? r.id =
    umgehaengt kontext orgId loserId winner true tabelle (db.verweise tabelle).rows r := by
  rw [vollzogen.verweise, Keyed.get?_filterMap, Keyed.get?_of_mem member, Option.bind_some]

include vollzogen in
theorem verweis_fremd (member : r ∈ (db.verweise tabelle).rows) (other : ¬ verweisQuery kontext loserId (some orgId) tabelle r = true) :
    ∃ label, (nachher.verweise tabelle).get? r.id = some { r with label } := by
  rw [vollzogen.get?_verweis member]
  exact umgehaengt_fremd other

include vollzogen in
theorem verweisQuery_sichtbar (member : r ∈ (db.verweise tabelle).rows) (own : r.vehicleId = some loserId)
    (visible : sichtbar kontext tabelle r = true) : verweisQuery kontext loserId (some orgId) tabelle r = true := by
  by_contra other
  obtain ⟨label, found⟩ := vollzogen.verweis_fremd member other
  have hidden := vollzogen.keinVerweis tabelle _ (Keyed.mem_of_get? found) own
  rw [sichtbar_label, visible] at hidden
  cases hidden

include vollzogen in
theorem keinVerweis_iff : (∀ tabelle, ∀ r ∈ (nachher.verweise tabelle).rows, r.vehicleId ≠ some loserId) ↔
    ∀ tabelle, ∀ r ∈ (db.verweise tabelle).rows, r.vehicleId = some loserId → sichtbar kontext tabelle r = true := by
  constructor
  · intro none tabelle r member own
    by_contra hidden
    obtain ⟨label, found⟩ := vollzogen.verweis_fremd member fun asked => hidden (verweisQuery_eigen asked).2
    exact none tabelle _ (Keyed.mem_of_get? found) own
  · intro visible tabelle next member own
    have isNext := member
    rw [vollzogen.verweise] at isNext
    obtain ⟨r, isRow, becomes⟩ := Keyed.mem_filterMap.mp isNext
    by_cases asked : verweisQuery kontext loserId (some orgId) tabelle r = true
    · cases twice : doppelt (db.verweise tabelle).rows winner.id true tabelle r with
      | none =>
        obtain ⟨label, moved⟩ := umgehaengt_eigen asked twice
        cases moved.symm.trans becomes
        exact vollzogen.verschieden (Option.some.inj own)
      | some d => cases (umgehaengt_doppelt asked twice).symm.trans becomes
    · obtain ⟨label, stays⟩ := vollzogen.verweis_fremd isRow asked
      rw [vollzogen.get?_verweis isRow, becomes] at stays
      cases stays
      have hidden := vollzogen.keinVerweis tabelle _ member own
      rw [sichtbar_label, visible tabelle r isRow own] at hidden
      cases hidden

include vollzogen in
theorem einheit_geloescht {t : Einheitstabelle} {a : EinheitAnhang} (member : a ∈ (db.einheitAnhaenge t).rows) {id : Nat}
    (refers : a.einheitId = some id)
    (goes : id ∈ geloescht kontext orgId loserId winner.id true .lageEinheit (db.verweise .lageEinheit).rows) :
    ∀ a', (nachher.einheitAnhaenge t).get? a.id = some a' → a'.einheitId = none := by
  intro a' found
  rw [vollzogen.einheitAnhaenge, Keyed.get?_filterMap, Keyed.get?_of_mem member, Option.bind_some, einheitenGeloescht,
    if_pos ⟨id, goes, refers⟩] at found
  split at found
  · cases found
  · cases found
    rfl

include vollzogen in
theorem einheit_bleibt {t : Einheitstabelle} {a : EinheitAnhang} (member : a ∈ (db.einheitAnhaenge t).rows) {id : Nat}
    (refers : a.einheitId = some id)
    (stays : id ∉ geloescht kontext orgId loserId winner.id true .lageEinheit (db.verweise .lageEinheit).rows) :
    (nachher.einheitAnhaenge t).get? a.id = some a := by
  rw [vollzogen.einheitAnhaenge, Keyed.get?_filterMap, Keyed.get?_of_mem member, Option.bind_some, einheitenGeloescht, if_neg]
  rintro ⟨other, goes, same⟩
  rw [refers] at same
  exact stays (Option.some.inj same ▸ goes)

include vollzogen in
theorem verweise_iff
    (visible : ∀ tabelle, ∀ r ∈ (db.verweise tabelle).rows, r.vehicleId = some loserId → sichtbar kontext tabelle r = true) :
    (∀ tabelle, ∀ r ∈ (db.verweise tabelle).rows, r.vehicleId = some loserId → VerweisGewahrt db nachher winner.id tabelle r) ↔
      ∀ r ∈ (db.verweise .lageEinheit).rows, r.vehicleId = some loserId →
        ∀ d ∈ (db.verweise .lageEinheit).rows, d.gruppe = r.gruppe → d.vehicleId = some winner.id →
          ∀ t, ∀ a ∈ (db.einheitAnhaenge t).rows, a.einheitId ≠ some r.id := by
  constructor
  · intro kept r member own d isD group isWinner t a isA refers
    have asked := vollzogen.verweisQuery_sichtbar member own (visible _ r member own)
    obtain ⟨d', twice⟩ := doppelt_lageEinheit (r := r) isD group isWinner
    rcases kept .lageEinheit r member own with ⟨r', found, -⟩ | ⟨e, -, -, -, -, dependents⟩
    · rw [vollzogen.get?_verweis member, umgehaengt_doppelt asked twice] at found
      cases found
    · obtain ⟨a', found, now⟩ := dependents rfl t a isA (Or.inl refers)
      have goes := mem_geloescht.mpr ⟨r, member, asked, by rw [twice]; rfl, rfl⟩
      rw [vollzogen.einheit_geloescht isA refers goes a' found] at now
      cases now
  · intro bare tabelle r member own
    have asked := vollzogen.verweisQuery_sichtbar member own (visible tabelle r member own)
    cases twice : doppelt (db.verweise tabelle).rows winner.id true tabelle r with
    | none =>
      obtain ⟨label, moved⟩ := umgehaengt_eigen asked twice
      exact Or.inl ⟨_, (vollzogen.get?_verweis member).trans moved, rfl⟩
    | some d =>
      obtain ⟨isD, group, isWinner⟩ := doppelt_some twice
      obtain ⟨label, stays⟩ := vollzogen.verweis_fremd isD fun asked =>
        vollzogen.verschieden (Option.some.inj (isWinner.symm.trans (verweisQuery_eigen asked).1))
      refine Or.inr ⟨d, isD, group, isWinner, ⟨_, stays, isWinner⟩, fun isLage t a isA refers => ?_⟩
      subst isLage
      have refersD := refers.resolve_left (bare r member own d isD group isWinner t a isA)
      refine ⟨a, vollzogen.einheit_bleibt isA refersD fun goes => ?_, refersD⟩
      obtain ⟨other, isOther, otherAsked, -, same⟩ := mem_geloescht.mp goes
      have found := Keyed.get?_of_mem isOther
      rw [same, Keyed.get?_of_mem isD] at found
      cases found
      exact vollzogen.verschieden (Option.some.inj (isWinner.symm.trans (verweisQuery_eigen otherAsked).1))

end Vollzogen

end Verweise

section Fahrzeuge

variable {db nachher : Datenbank} {kontext : Option Nat} {orgId loserId : Nat} {winner : VehicleMaster}

namespace Vollzogen

variable (vollzogen : Vollzogen db nachher kontext orgId loserId winner)

include vollzogen in
theorem mem_plan {v : IncidentVehicle} (member : v ∈ db.vehicles.rows) (own : v.vehicleMasterId = loserId)
    (visible : (db.incidents v.incidentId).sichtbar kontext = true) :
    v ∈ (plan db kontext orgId winner.id loserId).bleiben ∨ v ∈ (plan db kontext orgId winner.id loserId).gehen := by
  by_contra unplanned
  rw [not_or] at unplanned
  obtain ⟨offen, gefolgt⟩ := vollzogen.gefolgt
  obtain ⟨v', found, incident, master, -⟩ := gefolgt.fahrzeuge.zeile v member unplanned.2
  rw [if_neg unplanned.1, own] at master
  have hidden := vollzogen.keinFahrzeug v' (Keyed.mem_of_get? found) master
  rw [incident, visible] at hidden
  cases hidden

include vollzogen in
theorem keinFahrzeug_iff : (∀ v ∈ nachher.vehicles.rows, v.vehicleMasterId ≠ loserId) ↔
    ∀ v ∈ db.vehicles.rows, v.vehicleMasterId = loserId → (db.incidents v.incidentId).sichtbar kontext = true := by
  obtain ⟨offen, gefolgt⟩ := vollzogen.gefolgt
  constructor
  · intro none v member own
    by_contra hidden
    have unplanned : ¬ (v ∈ (plan db kontext orgId winner.id loserId).bleiben ∨
        v ∈ (plan db kontext orgId winner.id loserId).gehen) := by
      rw [plan, Plan.mem_foldl]
      rintro (before | asked)
      · exact before.elim List.not_mem_nil List.not_mem_nil
      · exact hidden (mem_referenzen.mp asked).2.2.1
    rw [not_or] at unplanned
    obtain ⟨v', found, -, master, -⟩ := gefolgt.fahrzeuge.zeile v member unplanned.2
    rw [if_neg unplanned.1, own] at master
    exact none v' (Keyed.mem_of_get? found) master
  · intro visible v member own
    obtain ⟨v₀, isRow, id⟩ := gefolgt.fahrzeuge.herkunft v member
    have found := Keyed.get?_of_mem member
    have stays : v₀ ∉ (plan db kontext orgId winner.id loserId).gehen := fun goes => by
      have gone := gefolgt.fahrzeuge.weg v₀ goes
      rw [id, found] at gone
      cases gone
    obtain ⟨v', found', incident, master, -⟩ := gefolgt.fahrzeuge.zeile v₀ isRow stays
    rw [id, found] at found'
    cases found'
    split at master
    · exact vollzogen.verschieden (master.symm.trans own)
    · have hidden := vollzogen.keinFahrzeug v member own
      rw [incident, visible v₀ isRow (master.symm.trans own)] at hidden
      cases hidden

include vollzogen in
theorem fahrzeuge_iff
    (visible : ∀ v ∈ db.vehicles.rows, v.vehicleMasterId = loserId → (db.incidents v.incidentId).sichtbar kontext = true) :
    (∀ v ∈ db.vehicles.rows, v.vehicleMasterId = loserId → FahrzeugGewahrt db nachher winner.id v) ↔
      ∀ v ∈ (plan db kontext orgId winner.id loserId).gehen, ∀ art, ∀ a ∈ (db.anhaenge art).rows,
        a.vehicleId = some v.id → a.incidentId = v.incidentId := by
  obtain ⟨offen, gefolgt⟩ := vollzogen.gefolgt
  have verfolgt := gefolgt.fahrzeuge
  constructor
  · intro kept v goes art a isA hangs
    by_contra foreign
    obtain ⟨isRow, own⟩ := verfolgt.verlierer v (Or.inr goes)
    rcases kept v isRow own with ⟨v', found, -⟩ | ⟨s, -, -, -, dependents⟩
    · rw [verfolgt.weg v goes] at found
      cases found
    · obtain ⟨a', found, now⟩ := dependents art a isA (Or.inl hangs)
      obtain ⟨a'', found', angehaengt⟩ := gefolgt.anhaenge art a isA
      cases found.symm.trans found'
      rw [angehaengt.uebernommen v goes hangs, if_neg foreign] at now
      cases now
  · intro bare v isRow own
    rcases vollzogen.mem_plan isRow own (visible v isRow own) with stays | goes
    · obtain ⟨v', found, -, isWinner, -⟩ := verfolgt.stehend vollzogen.verschieden (List.mem_append_right _ stays)
      exact Or.inl ⟨v', found, isWinner⟩
    · obtain ⟨w, inside, incident⟩ := verfolgt.kenntnis v.incidentId (Or.inl (verfolgt.gegangen v goes))
      obtain ⟨s, isStamm⟩ := Plan.stamm_exists inside incident
      obtain ⟨⟨stays, sameIncident⟩, -⟩ := Plan.stamm_eq_some isStamm
      obtain ⟨s', found, incident', isWinner, -⟩ := verfolgt.stehend vollzogen.verschieden stays
      have id := Keyed.key_of_get? found
      refine Or.inr ⟨s', Keyed.get?_self found, isWinner, incident'.trans sameIncident, fun art a isA hangs => ?_⟩
      obtain ⟨a', isA', angehaengt⟩ := gefolgt.anhaenge art a isA
      refine ⟨a', isA', ?_⟩
      rcases hangs with onV | onS
      · rw [angehaengt.uebernommen v goes onV, if_pos (bare v goes art a isA onV), isStamm, Option.map_some, id]
      · rw [angehaengt.bleibt fun other gone onOther => ?_, onS]
        rw [onS, id] at onOther
        have same := eindeutig (verfolgt.mem_rows stays) (verfolgt.verlierer other (Or.inr gone)).1 (Option.some.inj onOther)
        exact verfolgt.bleibt vollzogen.verschieden stays (same ▸ gone)

end Vollzogen

theorem Plan.stamm_aktiv {db : Datenbank} {winnerId : Nat} {plan : Plan} {s v : IncidentVehicle}
    (isStamm : plan.stamm db winnerId v.incidentId = some s) (inside : v ∈ eigene db winnerId ++ plan.bleiben)
    (active : v.removedAt = none) : s.removedAt = none := by
  by_contra removed
  exact absurd (rang_lt active removed) (not_lt_of_ge ((Plan.stamm_eq_some isStamm).2 v inside rfl))

theorem Vollzogen.aktiv_iff (vollzogen : Vollzogen db nachher kontext orgId loserId winner) :
    (∀ v ∈ nachher.vehicles.rows, ∀ v' ∈ nachher.vehicles.rows, v.vehicleMasterId = winner.id → v'.vehicleMasterId = winner.id →
      v.incidentId = v'.incidentId → v.removedAt = none → v'.removedAt = none → v = v') ↔
    ∀ v ∈ eigene db winner.id ++ (plan db kontext orgId winner.id loserId).bleiben,
      ∀ v' ∈ eigene db winner.id ++ (plan db kontext orgId winner.id loserId).bleiben,
        v.incidentId = v'.incidentId → v.removedAt = none → v'.removedAt = none → v = v' := by
  obtain ⟨offen, gefolgt⟩ := vollzogen.gefolgt
  have verfolgt := gefolgt.fahrzeuge
  constructor
  · intro single v inside v' inside' same active active'
    obtain ⟨w, found, incident, isWinner, stillActive, -⟩ := verfolgt.stehend vollzogen.verschieden inside
    obtain ⟨w', found', incident', isWinner', stillActive', -⟩ := verfolgt.stehend vollzogen.verschieden inside'
    have sameRow := single w (Keyed.mem_of_get? found) w' (Keyed.mem_of_get? found') isWinner isWinner'
      (incident.trans (same.trans incident'.symm)) (stillActive active) (stillActive' active')
    have id : v.id = v'.id := by rw [← Keyed.key_of_get? found, ← Keyed.key_of_get? found', sameRow]
    exact eindeutig (verfolgt.mem_rows inside) (verfolgt.mem_rows inside') id
  · intro single v member v' member' isWinner isWinner' same active active'
    obtain ⟨v₀, inside, id⟩ := verfolgt.ursprung member isWinner
    obtain ⟨v₀', inside', id'⟩ := verfolgt.ursprung member' isWinner'
    obtain ⟨incident, -, removed⟩ := verfolgt.gelesen vollzogen.verschieden member inside id
    obtain ⟨incident', -, removed'⟩ := verfolgt.gelesen vollzogen.verschieden member' inside' id'
    rw [incident, incident'] at same
    have sameOrigin : v₀ = v₀' := by
      -- a row that is active now was so before, or is the first of its incident
      rcases removed, removed' with ⟨unchanged | ⟨-, first⟩, unchanged' | ⟨-, first'⟩⟩
      · exact single v₀ inside v₀' inside' same (unchanged.symm.trans active) (unchanged'.symm.trans active')
      · have wasActive := unchanged.symm.trans active
        exact single v₀ inside v₀' inside' same wasActive (Plan.stamm_aktiv (same ▸ first') inside wasActive)
      · have wasActive := unchanged'.symm.trans active'
        exact single v₀ inside v₀' inside' same (Plan.stamm_aktiv (same ▸ first) inside' wasActive) wasActive
      · rw [same, first'] at first
        exact (Option.some.inj first).symm
    have found := Keyed.get?_of_mem member
    rw [← id, sameOrigin, id', Keyed.get?_of_mem member'] at found
    exact (Option.some.inj found).symm

end Fahrzeuge

section Karten

variable {db nachher : Datenbank} {kontext : Option Nat} {winnerId orgId loserId i : Nat} {plan : Plan}
  {karten₀ karten : List Karte}

theorem nodup_map_filter {α β : Type*} {f : α → β} {p : α → Bool} {l : List α} (reads : ∀ a b, f a = f b → p a = p b)
    (inside : ((l.filter p).map f).Nodup) (outside : ((l.filter fun a => !p a).map f).Nodup) : (l.map f).Nodup := by
  have parts := (List.filter_append_perm p l).map f
  rw [← parts.nodup_iff, List.map_append, List.nodup_append]
  refine ⟨inside, outside, fun b isInside b' isOutside same => ?_⟩
  obtain ⟨a, isA, rfl⟩ := List.mem_map.mp isInside
  obtain ⟨a', isA', rfl⟩ := List.mem_map.mp isOutside
  have holds := (List.mem_filter.mp isA).2
  have fails := (List.mem_filter.mp isA').2
  rw [← reads a a' same, holds] at fails
  cases fails

theorem nodup_of_length_le_one {α : Type*} {l : List α} (short : l.length ≤ 1) : l.Nodup := by
  match l, short with
  | [], _ => exact List.nodup_nil
  | [a], _ => exact List.nodup_singleton a

section

variable (folgt : KartenVerfolgt db winnerId plan i karten₀ karten)
include folgt

theorem KartenVerfolgt.betroffen :
    (karten.filter fun karte => plan.Betrifft db winnerId i karte).length ≤ 1 := by
  by_cases goes : ∃ v ∈ plan.gehen, v.incidentId = i
  · have ofStamm : ∀ karte ∈ karten, plan.Betrifft db winnerId i karte →
        ∃ s ∈ plan.stamm db winnerId i, karte.istFahrzeug s.id = true := by
      rintro karte member ⟨v, gone, same, ofGone | ofStamm⟩
      · rw [folgt.gegangen v gone same karte member] at ofGone
        cases ofGone
      · exact ofStamm
    cases isStamm : plan.stamm db winnerId i with
    | none =>
      have nil : (karten.filter fun karte => plan.Betrifft db winnerId i karte) = [] := by
        refine List.filter_eq_nil_iff.mpr fun karte member concerned => ?_
        obtain ⟨s, isS, -⟩ := ofStamm karte member (decide_eq_true_eq.mp concerned)
        rw [isStamm] at isS
        cases isS
      rw [nil]
      exact Nat.zero_le 1
    | some s =>
      refine le_trans ?_ (folgt.einmal s isStamm goes)
      rw [← List.countP_eq_length_filter, ← List.countP_eq_length_filter]
      refine List.countP_mono_left fun karte member concerned => ?_
      obtain ⟨t, isT, ofT⟩ := ofStamm karte member (decide_eq_true_eq.mp concerned)
      cases isStamm.symm.trans isT
      exact ofT
  · have nil : (karten.filter fun karte => plan.Betrifft db winnerId i karte) = [] := by
      refine List.filter_eq_nil_iff.mpr fun karte _ concerned => ?_
      obtain ⟨v, gone, same, -⟩ := decide_eq_true_eq.mp concerned
      exact goes ⟨v, gone, same⟩
    rw [nil]
    exact Nat.zero_le 1

theorem KartenVerfolgt.nodup_iff :
    (karten.map Karte.schluessel).Nodup ↔
      ((karten₀.filter fun karte => ¬ plan.Betrifft db winnerId i karte).map Karte.schluessel).Nodup := by
  rw [← folgt.andere]
  constructor
  · exact fun nodup => nodup.sublist (List.filter_sublist.map _)
  · intro nodup
    have reads : ∀ a b : Karte, a.schluessel = b.schluessel →
        decide (plan.Betrifft db winnerId i a) = decide (plan.Betrifft db winnerId i b) :=
      fun a b same => decide_eq_decide.mpr (Plan.betrifft_congr same)
    refine nodup_map_filter reads (nodup_of_length_le_one ?_) (by simpa using nodup)
    rw [List.length_map]
    exact folgt.betroffen

end

theorem forall₂_forall_iff {α β : Type*} {R : α → β → Prop} {P : α → Prop} {Q : β → Prop} (each : ∀ a b, R a b → (P a ↔ Q b))
    {l : List α} {m : List β} (related : List.Forall₂ R l m) : (∀ a ∈ l, P a) ↔ ∀ b ∈ m, Q b := by
  induction related with
  | nil => simp
  | cons head _ ih => rw [List.forall_mem_cons, List.forall_mem_cons, each _ _ head, ih]

theorem SpalteVerfolgt.nodup_iff {column₀ column : IncidentColumn} (folgt : SpalteVerfolgt db winnerId plan column₀ column) :
    (∀ karten, column₀.cardOrder = .liste karten →
      ((karten.filter fun karte => ¬ plan.Betrifft db winnerId column₀.incidentId karte).map Karte.schluessel).Nodup) ↔
    ∀ karten, column.cardOrder = .liste karten → (karten.map Karte.schluessel).Nodup := by
  obtain ⟨-, order⟩ := folgt
  cases isOrder : column₀.cardOrder with
  | liste karten₀ =>
    rw [isOrder] at order
    obtain ⟨karten, isKarten, folgt⟩ := order
    rw [isKarten]
    constructor
    · intro nodup _ same
      cases same
      exact folgt.nodup_iff.mpr (nodup karten₀ rfl)
    · intro nodup _ same
      cases same
      exact folgt.nodup_iff.mp (nodup karten rfl)
  | _ =>
    rw [isOrder] at order
    rw [order]
    exact ⟨nofun, nofun⟩

theorem Vollzogen.karten_iff {winner : VehicleMaster} (vollzogen : Vollzogen db nachher kontext orgId loserId winner) :
    (∀ column ∈ nachher.columns, ∀ karten, column.cardOrder = .liste karten → (karten.map Karte.schluessel).Nodup) ↔
      ∀ column ∈ db.columns, ∀ karten, column.cardOrder = .liste karten →
        ((karten.filter fun karte => ¬ (Fahrzeugstamm.plan db kontext orgId winner.id loserId).Betrifft db winner.id
          column.incidentId karte).map Karte.schluessel).Nodup := by
  obtain ⟨offen, gefolgt⟩ := vollzogen.gefolgt
  exact (forall₂_forall_iff (fun _ _ folgt => folgt.nodup_iff) gefolgt.spalten).symm

end Karten

section Ergebnis

variable {db : Datenbank} {kontext : Option Nat} {winner loser : VehicleMaster} {e : Ergebnis}

/-- A merge that succeeds leaves no trace and loses nothing where the condition holds, and
only there. -/
theorem zusammengefuehrt_iff (ok : mergeVehicles db kontext winner loser = .ok e) :
    Zusammengefuehrt db e.db winner.id loser.id ↔ Bedingung db kontext winner.deptId winner.id loser.id := by
  obtain ⟨gewinner, id, vollzogen⟩ := vollzogen ok
  rw [← id]
  constructor
  · intro spurlos
    have fahrzeugeSichtbar := vollzogen.keinFahrzeug_iff.mp spurlos.keinFahrzeug
    have verweiseSichtbar := vollzogen.keinVerweis_iff.mp spurlos.keinVerweis
    exact {
      fahrzeugeSichtbar
      verweiseSichtbar
      anhaenge := (vollzogen.fahrzeuge_iff fahrzeugeSichtbar).mp spurlos.fahrzeuge
      einheiten := (vollzogen.verweise_iff verweiseSichtbar).mp spurlos.verweise
      aktiv := vollzogen.aktiv_iff.mp spurlos.aktiv
      karten := vollzogen.karten_iff.mp spurlos.karten }
  · intro bedingung
    exact {
      keinFahrzeug := vollzogen.keinFahrzeug_iff.mpr bedingung.fahrzeugeSichtbar
      keinVerweis := vollzogen.keinVerweis_iff.mpr bedingung.verweiseSichtbar
      fahrzeuge := (vollzogen.fahrzeuge_iff bedingung.fahrzeugeSichtbar).mpr bedingung.anhaenge
      verweise := (vollzogen.verweise_iff bedingung.verweiseSichtbar).mpr bedingung.einheiten
      aktiv := vollzogen.aktiv_iff.mpr bedingung.aktiv
      karten := vollzogen.karten_iff.mpr bedingung.karten }

end Ergebnis

section Beispiel

def fahrzeug (id : Nat) : VehicleMaster := { id, deptId := 1, code := "TLF", displayLabel := "Tanklöschfahrzeug" }

def zeile (id vehicleMasterId : Nat) : IncidentVehicle := { id, incidentId := 5, columnId := 1, vehicleMasterId }

def zweiZeilen (master : Nat) : Datenbank where
  incidents := fun _ => { primaryOrgId := some 1 }
  vehicles := (Keyed.empty.insert (zeile · master) fun _ => rfl).insert (zeile · 2) fun _ => rfl
  anhaenge := fun _ => Keyed.empty.insert (fun id => { id, incidentId := 5, vehicleId := some 2 }) fun _ => rfl
  columns := [{ id := 1, incidentId := 5, cardOrder := .liste [
    { kind := some "vehicle", id := some (.inl 2) }, { kind := some "vehicle", id := some (.inl 1) }] }]

theorem zusammengefuehrt_eine_zeile : ∃ e, mergeVehicles (zweiZeilen 1) (some 1) (fahrzeug 1) (fahrzeug 2) = .ok e ∧
    Zusammengefuehrt (zweiZeilen 1) e.db 1 2 := by
  have comesThrough : (mergeVehicles (zweiZeilen 1) (some 1) (fahrzeug 1) (fahrzeug 2)).isOk = true := by decide +kernel
  cases merged : mergeVehicles (zweiZeilen 1) (some 1) (fahrzeug 1) (fahrzeug 2) with
  | error => rw [merged] at comesThrough; cases comesThrough
  | ok e =>
    refine ⟨e, rfl, (zusammengefuehrt_iff merged).mpr ⟨by decide +kernel, fun _ _ member => absurd member List.not_mem_nil,
      fun v goes art => ?_, fun _ member => absurd member List.not_mem_nil, by decide +kernel, ?_⟩⟩
    · revert v
      cases art <;> decide +kernel
    · intro column member karten same
      cases List.mem_singleton.mp member
      cases same
      decide +kernel

/-- Both rows become the winner's. -/
theorem zusammengefuehrt_verfehlt : ∃ e, mergeVehicles (zweiZeilen 2) (some 1) (fahrzeug 1) (fahrzeug 2) = .ok e ∧
    ¬ Zusammengefuehrt (zweiZeilen 2) e.db 1 2 := by
  have comesThrough : (mergeVehicles (zweiZeilen 2) (some 1) (fahrzeug 1) (fahrzeug 2)).isOk = true := by decide +kernel
  have both : Yields (mergeVehicles (zweiZeilen 2) (some 1) (fahrzeug 1) (fahrzeug 2)) fun e =>
      e.db.vehicles.rows = [zeile 1 1, zeile 2 1] := by decide +kernel
  cases merged : mergeVehicles (zweiZeilen 2) (some 1) (fahrzeug 1) (fahrzeug 2) with
  | error => rw [merged] at comesThrough; cases comesThrough
  | ok e =>
    refine ⟨e, rfl, fun spurlos => ?_⟩
    have rows := both e merged
    have first : zeile 1 1 ∈ e.db.vehicles.rows := by rw [rows]; exact List.mem_cons_self ..
    have second : zeile 2 1 ∈ e.db.vehicles.rows := by rw [rows]; exact List.mem_cons_of_mem _ (List.mem_cons_self ..)
    exact absurd (spurlos.aktiv _ first _ second rfl rfl rfl rfl rfl) (by decide)

end Beispiel

end Einsatzcockpit.Fahrzeugstamm
