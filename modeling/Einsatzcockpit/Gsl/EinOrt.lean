import Einsatzcockpit.Gsl.Tables

namespace Einsatzcockpit.Gsl

/-- No unit gains a position: what is active was active, and a unit that is
still on a site keeps its active order there. -/
structure Weiter (lage lage' : Lage) : Prop where
  aktive : ∀ d' ∈ lage'.dispatches, d'.aktiv = true → ∃ d ∈ lage.dispatches, d.aktiv = true ∧ SameOrder d d'
  orte : ∀ e' ∈ lage'.einheiten, ∀ siteId, e'.incidentSiteId = some siteId →
    (∃ e ∈ lage.einheiten, e.id = e'.id ∧ e.incidentSiteId = some siteId) ∧
      ∀ d ∈ lage.dispatches, d.aktiv = true → d.einheitId = e'.id → d.siteId = siteId →
        ∃ d' ∈ lage'.dispatches, d'.aktiv = true ∧ SameOrder d d'
  behalten : ∀ d ∈ lage.dispatches, ∃ d' ∈ lage'.dispatches, SameOrder d d'

namespace Weiter

theorem of_same {lage lage' : Lage} (einheiten : lage'.einheiten = lage.einheiten)
    (dispatches : lage'.dispatches = lage.dispatches) : Weiter lage lage' := by
  refine ⟨fun d member isActive => ?_, fun e member siteId located => ?_, fun d inside => ⟨d, ?_, .refl d⟩⟩
  · rw [dispatches] at member
    exact ⟨d, member, isActive, .refl d⟩
  · rw [einheiten] at member
    refine ⟨⟨e, member, rfl, located⟩, fun d inside isActive _ _ => ⟨d, ?_, isActive, .refl d⟩⟩
    rw [dispatches]
    exact inside
  · rw [dispatches]
    exact inside

theorem refl (lage : Lage) : Weiter lage lage := of_same rfl rfl

theorem nurSites {lage lage' : Lage} (same : NurSites lage lage') : Weiter lage lage' :=
  of_same same.einheiten same.dispatches

theorem trans {a b c : Lage} (first : Weiter a b) (second : Weiter b c) : Weiter a c := by
  refine ⟨fun d'' member isActive => ?_, fun e'' member siteId located => ?_, fun d inside => ?_⟩
  · obtain ⟨d', inside', wasActive', same'⟩ := second.aktive d'' member isActive
    obtain ⟨d, inside, wasActive, same⟩ := first.aktive d' inside' wasActive'
    exact ⟨d, inside, wasActive, same.trans same'⟩
  · obtain ⟨⟨e', inside', id', located'⟩, keeps'⟩ := second.orte e'' member siteId located
    obtain ⟨⟨e, inside, id, located⟩, keeps⟩ := first.orte e' inside' siteId located'
    refine ⟨⟨e, inside, id.trans id', located⟩, fun d isIn isActive ofUnit atSite => ?_⟩
    obtain ⟨d', isIn', isActive', same'⟩ := keeps d isIn isActive (ofUnit.trans id'.symm) atSite
    have ofUnit' : d'.einheitId = e''.id := same'.einheitId.trans ofUnit
    have atSite' : d'.siteId = siteId := same'.siteId.trans atSite
    obtain ⟨d'', isIn'', isActive'', same''⟩ := keeps' d' isIn' isActive' ofUnit' atSite'
    exact ⟨d'', isIn'', isActive'', same'.trans same''⟩
  · obtain ⟨d', inside', same⟩ := first.behalten d inside
    obtain ⟨d'', inside'', same'⟩ := second.behalten d' inside'
    exact ⟨d'', inside'', same.trans same'⟩

theorem setEinheit (lage : Lage) (id : Nat) {werte : LageEinheit → LageEinheit}
    (keeps : ∀ e, (werte e).id = e.id)
    (stays : ∀ e siteId, (werte e).incidentSiteId = some siteId → e.incidentSiteId = some siteId) :
    Weiter lage (lage.setEinheit id werte) := by
  refine ⟨fun d member isActive => ⟨d, member, isActive, .refl d⟩, fun e' member siteId located => ?_,
    fun d inside => ⟨d, inside, .refl d⟩⟩
  obtain ⟨e, inside, result⟩ := (mem_setEinheit lage id).mp member
  have same : e.id = e'.id ∧ e.incidentSiteId = some siteId := by
    rw [← result] at located ⊢
    split at located
    · next atId => exact ⟨by rw [if_pos atId, keeps], stays e siteId located⟩
    · next other => exact ⟨by rw [if_neg other], located⟩
  exact ⟨⟨e, inside, same⟩, fun d isIn isActive _ _ => ⟨d, isIn, isActive, .refl d⟩⟩

theorem setDispatch {lage : Lage} (nummeriert : lage.Nummeriert) {z : EinheitSiteDispatch}
    (member : z ∈ lage.dispatches) {werte : EinheitSiteDispatch → EinheitSiteDispatch}
    (same : SameOrder z (werte z)) (inactive : (werte z).aktiv = true → z.aktiv = true)
    (leaves : z.aktiv = true → (werte z).aktiv = false → ∀ e ∈ lage.einheiten, e.id = z.einheitId →
      e.incidentSiteId ≠ some z.siteId) : Weiter lage (lage.setDispatch z.id werte) := by
  refine ⟨fun d' inside isActive => ?_, fun e inside siteId located => ?_, fun d isIn => ?_⟩
  · obtain ⟨d, isIn, result⟩ := (mem_setDispatch lage z.id).mp inside
    split at result
    · next atId =>
      cases nummeriert.dispatch_inj isIn member atId
      subst result
      exact ⟨z, member, inactive isActive, same⟩
    · subst result
      exact ⟨d, isIn, isActive, .refl d⟩
  · refine ⟨⟨e, inside, rfl, located⟩, fun d isIn isActive ofUnit atSite => ?_⟩
    by_cases atId : d.id = z.id
    · cases nummeriert.dispatch_inj isIn member atId
      refine ⟨werte z, (mem_setDispatch lage z.id).mpr ⟨z, member, if_pos rfl⟩, ?_, same⟩
      by_contra ended
      have gone : (werte z).aktiv = false := by simpa using ended
      exact leaves isActive gone e inside ofUnit.symm (atSite ▸ located)
    · exact ⟨d, (mem_setDispatch lage z.id).mpr ⟨d, isIn, if_neg atId⟩, isActive, .refl d⟩
  · by_cases atId : d.id = z.id
    · cases nummeriert.dispatch_inj isIn member atId
      exact ⟨werte z, (mem_setDispatch lage z.id).mpr ⟨z, member, if_pos rfl⟩, same⟩
    · exact ⟨d, (mem_setDispatch lage z.id).mpr ⟨d, isIn, if_neg atId⟩, .refl d⟩

theorem addDispatch (lage : Lage) {neu : EinheitSiteDispatch} (inactive : neu.aktiv = false) :
    Weiter lage (lage.addDispatch neu) := by
  have kept : ∀ d ∈ lage.dispatches, d ∈ (lage.addDispatch neu).dispatches :=
    fun d inside => (mem_addDispatch lage).mpr (Or.inl inside)
  refine ⟨fun d inside isActive => ?_, fun e inside siteId located => ?_, fun d inside => ⟨d, kept d inside, .refl d⟩⟩
  · rcases (mem_addDispatch lage).mp inside with old | rfl
    · exact ⟨d, old, isActive, .refl d⟩
    · simp [inactive] at isActive
  · exact ⟨⟨e, inside, rfl, located⟩, fun d isIn isActive _ _ => ⟨d, kept d isIn, isActive, .refl d⟩⟩

end Weiter

@[simp] theorem verlaesst_id (siteId : Nat) (e : LageEinheit) : (verlaesst siteId e).id = e.id := by
  unfold verlaesst
  split <;> rfl

theorem verlaesst_stays {siteId located : Nat} {e : LageEinheit}
    (stays : (verlaesst siteId e).incidentSiteId = some located) :
    e.incidentSiteId = some located ∧ located ≠ siteId := by
  unfold verlaesst at stays
  split at stays
  · cases stays
  · next elsewhere =>
    refine ⟨stays, ?_⟩
    rintro rfl
    exact elsewhere stays

theorem verlaesst_weiter {lage : Lage} (nummeriert : lage.Nummeriert) {z : EinheitSiteDispatch}
    (member : z ∈ lage.dispatches) {werte : EinheitSiteDispatch → EinheitSiteDispatch}
    (same : SameOrder z (werte z)) (inactive : (werte z).aktiv = true → z.aktiv = true) :
    Weiter lage ((lage.setDispatch z.id werte).setEinheit z.einheitId (verlaesst z.siteId)) := by
  have leaves : Weiter lage (lage.setEinheit z.einheitId (verlaesst z.siteId)) :=
    .setEinheit lage z.einheitId (verlaesst_id z.siteId) fun e siteId stays => (verlaesst_stays stays).1
  have numbered := nummeriert.setEinheit z.einheitId (verlaesst_id z.siteId)
  refine leaves.trans (Weiter.setDispatch numbered member same inactive ?_)
  intro _ _ e' inside ofUnit located
  obtain ⟨e, -, result⟩ := (mem_setEinheit lage z.einheitId).mp inside
  subst result
  split at located
  · exact (verlaesst_stays located).2 rfl
  · next other =>
    rw [if_neg other] at ofUnit
    exact other ofUnit

/-- What holds of every unit but one that is just arriving somewhere: one
active order at most, and a position only at its site. -/
structure Lage.EinOrtAusser (lage : Lage) (ankommend : Nat → Prop) : Prop where
  nummeriert : lage.Nummeriert
  einer : ∀ d ∈ lage.dispatches, ∀ d' ∈ lage.dispatches, d.aktiv = true → d'.aktiv = true →
    d.einheitId = d'.einheitId → d = d'
  ort : ∀ e ∈ lage.einheiten, ¬ ankommend e.id → ∀ siteId, e.incidentSiteId = some siteId →
    ∃ d ∈ lage.dispatches, d.aktiv = true ∧ d.einheitId = e.id ∧ d.siteId = siteId

abbrev Lage.EinOrt (lage : Lage) : Prop := lage.EinOrtAusser fun _ => False

namespace Lage.EinOrtAusser

variable {lage lage' : Lage} {ankommend : Nat → Prop}

theorem leer : Lage.EinOrt {} :=
  ⟨⟨rfl, rfl, rfl⟩, fun _ member => absurd member List.not_mem_nil, fun _ member => absurd member List.not_mem_nil⟩

theorem ausser (inv : lage.EinOrt) (ankommend : Nat → Prop) : lage.EinOrtAusser ankommend :=
  ⟨inv.nummeriert, inv.einer, fun e member _ => inv.ort e member not_false⟩

theorem weiter (inv : lage.EinOrtAusser ankommend) (weiter : Weiter lage lage') (nummeriert : lage'.Nummeriert) :
    lage'.EinOrtAusser ankommend := by
  refine ⟨nummeriert, fun d' inside other' inside' isActive isActive' sameUnit => ?_, fun e' member away siteId located => ?_⟩
  · obtain ⟨d, isIn, wasActive, same⟩ := weiter.aktive d' inside isActive
    obtain ⟨other, isIn', wasActive', same'⟩ := weiter.aktive other' inside' isActive'
    have units : d.einheitId = other.einheitId := by rw [← same.einheitId, ← same'.einheitId, sameUnit]
    have equal := inv.einer d isIn other isIn' wasActive wasActive' units
    refine nummeriert.dispatch_inj inside inside' ?_
    rw [same.id, same'.id, equal]
  · obtain ⟨⟨e, inside, sameId, was⟩, keeps⟩ := weiter.orte e' member siteId located
    obtain ⟨d, isIn, isActive, ofUnit, atSite⟩ := inv.ort e inside (sameId ▸ away) siteId was
    obtain ⟨d', isIn', isActive', same⟩ := keeps d isIn isActive (ofUnit.trans sameId) atSite
    exact ⟨d', isIn', isActive', same.einheitId.trans (ofUnit.trans sameId), same.siteId.trans atSite⟩

theorem ankunft {z : EinheitSiteDispatch} (inv : lage.EinOrtAusser (· = z.einheitId)) (member : z ∈ lage.dispatches)
    (alone : ∀ d ∈ lage.dispatches, d.aktiv = true → d.einheitId = z.einheitId → d = z)
    {werte : EinheitSiteDispatch → EinheitSiteDispatch} (same : ∀ d, SameOrder d (werte d))
    (isActive : (werte z).aktiv = true) {ort : LageEinheit → LageEinheit} (keeps : ∀ e, (ort e).id = e.id)
    (located : ∀ e, (ort e).incidentSiteId = some z.siteId) :
    ((lage.setDispatch z.id werte).setEinheit z.einheitId ort).EinOrt := by
  have rows : ∀ d' ∈ (lage.setDispatch z.id werte).dispatches, d'.aktiv = true →
      d' = werte z ∨ d' ∈ lage.dispatches ∧ d'.einheitId ≠ z.einheitId := by
    intro d' inside active'
    obtain ⟨d, isIn, result⟩ := (mem_setDispatch lage z.id).mp inside
    split at result
    · next atId =>
      rw [inv.nummeriert.dispatch_inj isIn member atId] at result
      exact Or.inl result.symm
    · next other =>
      subst result
      refine Or.inr ⟨isIn, fun ofUnit => other ?_⟩
      rw [alone d isIn active' ofUnit]
  refine ⟨(inv.nummeriert.setDispatch z.id fun d => (same d).id).setEinheit z.einheitId keeps, ?_, ?_⟩
  · intro d inside d' inside' active active' sameUnit
    rcases rows d inside active with rfl | ⟨isIn, other⟩
    · rcases rows d' inside' active' with rfl | ⟨-, other'⟩
      · rfl
      · exact absurd (sameUnit.symm.trans (same z).einheitId) other'
    · rcases rows d' inside' active' with rfl | ⟨isIn', -⟩
      · exact absurd (sameUnit.trans (same z).einheitId) other
      · exact inv.einer d isIn d' isIn' active active' sameUnit
  · intro e' inside _ siteId atSite
    obtain ⟨e, isIn, result⟩ := (mem_setEinheit _ z.einheitId).mp inside
    subst result
    split at atSite
    · next ofUnit =>
      rw [located] at atSite
      cases atSite
      refine ⟨werte z, (mem_setDispatch lage z.id).mpr ⟨z, member, if_pos rfl⟩, isActive, ?_, (same z).siteId⟩
      rw [if_pos ofUnit, keeps, ofUnit, (same z).einheitId]
    · next other =>
      obtain ⟨d, inside', active, ofUnit, at_⟩ := inv.ort e isIn other siteId atSite
      refine ⟨d, (mem_setDispatch lage z.id).mpr ⟨d, inside', if_neg fun atId => ?_⟩, active, ?_, at_⟩
      · rw [inv.nummeriert.dispatch_inj inside' member atId] at ofUnit
        exact other ofUnit.symm
      · rw [if_neg other, ofUnit]

end Lage.EinOrtAusser

end Einsatzcockpit.Gsl
