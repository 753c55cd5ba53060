import Einsatzcockpit.Gsl.Wechsel
import Einsatzcockpit.Gsl.Zielphase

namespace Einsatzcockpit.Gsl

open Transition

/-- The orders `aktualisiere_site_phase` reads. -/
def Lage.auftraege (lage : Lage) (siteId : Nat) : List EinheitSiteDispatch :=
  lage.dispatches.filter (·.siteId == siteId)

def Vorgang.vonHand : Vorgang → Bool
  | .phase .. => true
  | _ => false

theorem setzeSitePhase_length (lage : Lage) (siteId : Nat) (phase : SitePhase) (sortIndex : Option Int) :
    (setzeSitePhase lage siteId phase sortIndex).2.sites.length = lage.sites.length := by
  unfold setzeSitePhase
  split
  · rfl
  · dsimp only
    split <;> simp [Lage.setSite]

section Sites

variable {lage : Lage} (nummeriert : lage.Nummeriert)
include nummeriert

theorem Lage.Nummeriert.site_inj {site site' : IncidentSite} (member : site ∈ lage.sites)
    (member' : site' ∈ lage.sites) (same : site.id = site'.id) : site = site' :=
  Relational.Numbered.inj nummeriert.sites member member' same

theorem Lage.Nummeriert.site_id_le {site : IncidentSite} (member : site ∈ lage.sites) :
    site.id ≤ lage.sites.length :=
  Relational.Numbered.le nummeriert.sites member

/-- The row of a site that `setze_site_phase` has written, and the others. -/
theorem mem_setzeSitePhase {siteId : Nat} {phase : SitePhase} {site' : IncidentSite}
    (member : site' ∈ (setzeSitePhase lage siteId phase none).2.sites) :
    site' ∈ lage.sites ∧ site'.id ≠ siteId ∨ site'.id = siteId ∧ site'.phase = phase := by
  unfold setzeSitePhase at member
  split at member
  · next missing =>
    refine Or.inl ⟨member, fun atSite => ?_⟩
    exact absurd atSite (by simpa using List.find?_eq_none.mp missing site' member)
  · next site found =>
    dsimp only at member
    split at member
    · next already =>
      obtain ⟨old, inside, written⟩ := Relational.mem_update.mp member
      split at written
      · next atSite =>
        have picked : old = site := by
          refine nummeriert.site_inj inside (List.mem_of_find?_eq_some found) ?_
          rw [site?_id found]
          exact beq_iff_eq.mp atSite
        subst written
        rw [picked]
        exact Or.inr ⟨site?_id found, already⟩
      · next other =>
        subst written
        exact Or.inl ⟨inside, by simpa using other⟩
    · obtain ⟨sorted, inside, written⟩ := Relational.mem_update.mp member
      obtain ⟨old, wasIn, kept⟩ := Relational.mem_update.mp inside
      have sameId : sorted.id = old.id := by
        rw [← kept]
        split <;> rfl
      split at written
      · next atSite =>
        subst written
        exact Or.inr ⟨beq_iff_eq.mp atSite, rfl⟩
      · next other =>
        subst written
        have elsewhere : (old.id == siteId) = false := by
          rw [← sameId]
          simpa using other
        rw [elsewhere] at kept
        subst kept
        exact Or.inl ⟨wasIn, by simpa using elsewhere⟩

end Sites

/-- The phases follow the orders, at every open site but one that a write has
touched and the operation has not recomputed yet. -/
structure Lage.Nachgefuehrt (lage : Lage) (ausser : Option Nat) : Prop where
  nummeriert : lage.Nummeriert
  verortet : ∀ d ∈ lage.dispatches, d.siteId ≤ lage.sites.length
  steht : ∀ site ∈ lage.sites, ausser ≠ some site.id → site.phase.geschlossen = false →
    Steht (lage.auftraege site.id) site.phase

namespace Lage.Nachgefuehrt

variable {lage : Lage} {ausser : Option Nat}

theorem lockern (gefuehrt : lage.Nachgefuehrt none) : lage.Nachgefuehrt ausser where
  nummeriert := gefuehrt.nummeriert
  verortet := gefuehrt.verortet
  steht := fun site member _ => gefuehrt.steht site member nofun

theorem setEinheit (gefuehrt : lage.Nachgefuehrt ausser) (id : Nat) {werte : LageEinheit → LageEinheit}
    (keeps : ∀ e, (werte e).id = e.id) : (lage.setEinheit id werte).Nachgefuehrt ausser where
  nummeriert := gefuehrt.nummeriert.setEinheit id keeps
  verortet := gefuehrt.verortet
  steht := gefuehrt.steht

theorem addDispatch {d : EinheitSiteDispatch} (gefuehrt : lage.Nachgefuehrt (some d.siteId))
    (next : d.id = lage.naechsteId) (known : d.siteId ≤ lage.sites.length) :
    (lage.addDispatch d).Nachgefuehrt (some d.siteId) where
  nummeriert := gefuehrt.nummeriert.addDispatch next
  verortet := by
    intro d' member
    rcases (mem_addDispatch lage).mp member with old | rfl
    · exact gefuehrt.verortet d' old
    · exact known
  steht := by
    intro site member elsewhere open_
    have other : d.siteId ≠ site.id := fun same => elsewhere (congrArg some same)
    have same : (lage.addDispatch d).auftraege site.id = lage.auftraege site.id := by
      rw [Lage.auftraege, Lage.addDispatch, List.filter_append, List.filter_cons_of_neg (by simpa using other),
        List.filter_nil, List.append_nil]
      rfl
    rw [same]
    exact gefuehrt.steht site member elsewhere open_

theorem verortet_setDispatch (gefuehrt : lage.Nachgefuehrt ausser) (id : Nat)
    {werte : EinheitSiteDispatch → EinheitSiteDispatch} (same : ∀ d, SameOrder d (werte d)) :
    ∀ d ∈ (lage.setDispatch id werte).dispatches, d.siteId ≤ lage.sites.length := by
  intro d' member
  obtain ⟨d, inside, written⟩ := (mem_setDispatch lage id).mp member
  have sameSite : d'.siteId = d.siteId := by
    rw [← written]
    split
    · exact (same d).siteId
    · rfl
  rw [sameSite]
  exact gefuehrt.verortet d inside

theorem setDispatch {siteId : Nat} (gefuehrt : lage.Nachgefuehrt (some siteId)) {id : Nat}
    {werte : EinheitSiteDispatch → EinheitSiteDispatch} (same : ∀ d, SameOrder d (werte d))
    (atSite : ∀ d ∈ lage.dispatches, d.id = id → d.siteId = siteId) :
    (lage.setDispatch id werte).Nachgefuehrt (some siteId) where
  nummeriert := gefuehrt.nummeriert.setDispatch id fun d => (same d).id
  verortet := gefuehrt.verortet_setDispatch id same
  steht := by
    intro site member elsewhere open_
    have kept : (lage.setDispatch id werte).auftraege site.id = lage.auftraege site.id := by
      unfold Lage.auftraege Lage.setDispatch
      rw [Relational.filter_update _ _ _ _ fun d _ => by rw [(same d).siteId]]
      refine Relational.update_eq_self fun d inside => ?_
      obtain ⟨isIn, atThis⟩ := List.mem_filter.mp inside
      rw [beq_eq_false_iff_ne]
      intro hit
      exact elsewhere (congrArg some ((atSite d isIn hit).symm.trans (beq_iff_eq.mp atThis)))
    rw [kept]
    exact gefuehrt.steht site member elsewhere open_

theorem setGleichrangig (gefuehrt : lage.Nachgefuehrt ausser) {id : Nat}
    {werte : EinheitSiteDispatch → EinheitSiteDispatch} (same : ∀ d, SameOrder d (werte d))
    (rank : ∀ d ∈ lage.dispatches, d.id = id → Gleichrangig werte d)
    (idle : ∀ d ∈ lage.dispatches, d.id = id → bearbeitet (werte d) = true → bearbeitet d = true) :
    (lage.setDispatch id werte).Nachgefuehrt ausser where
  nummeriert := gefuehrt.nummeriert.setDispatch id fun d => (same d).id
  verortet := gefuehrt.verortet_setDispatch id same
  steht := by
    intro site member elsewhere open_
    have written : (lage.setDispatch id werte).auftraege site.id =
        (lage.auftraege site.id).map fun d => if d.id == id then werte d else d := by
      unfold Lage.auftraege Lage.setDispatch
      rw [Relational.filter_update _ _ _ _ fun d _ => by rw [(same d).siteId]]
      rfl
    rw [written]
    refine (gefuehrt.steht site member elsewhere open_).map (fun d inside => ?_) fun d inside works => ?_
    · have isIn := List.mem_of_mem_filter inside
      by_cases hit : d.id = id
      · have ranked := rank d isIn hit
        constructor <;> simp only [hit, beq_self_eq_true, if_true]
        · exact ranked.auftragsart
        · exact ranked.withdrawnAt
        · exact ranked.beendet
      · constructor <;> simp [hit]
    · have isIn := List.mem_of_mem_filter inside
      by_cases hit : d.id = id
      · simp only [hit, beq_self_eq_true, if_true] at works
        exact idle d isIn hit works
      · simpa [hit] using works

theorem setzePhase {siteId : Nat} (gefuehrt : lage.Nachgefuehrt (some siteId)) {phase : SitePhase}
    (fits : phase.geschlossen = false → Steht (lage.auftraege siteId) phase) :
    (setzeSitePhase lage siteId phase none).2.Nachgefuehrt none := by
  have rows := (setzeSitePhase_nurSites lage siteId phase none).dispatches
  refine ⟨gefuehrt.nummeriert.setzeSitePhase siteId phase none, ?_, ?_⟩
  · rw [rows, setzeSitePhase_length]
    exact gefuehrt.verortet
  · intro site member _ open_
    have sameOrders : (setzeSitePhase lage siteId phase none).2.auftraege site.id = lage.auftraege site.id := by
      rw [Lage.auftraege, rows]
      rfl
    rw [sameOrders]
    rcases mem_setzeSitePhase gefuehrt.nummeriert member with ⟨inside, other⟩ | ⟨atSite, written⟩
    · exact gefuehrt.steht site inside (fun same => other (Option.some.inj same).symm) open_
    · rw [written] at open_
      rw [atSite, written]
      exact fits open_

/-- `aktualisiere_site_phase` closes the gap. -/
theorem aktualisiere {siteId : Nat} (gefuehrt : lage.Nachgefuehrt (some siteId)) :
    (aktualisiereSitePhase lage siteId).2.Nachgefuehrt none := by
  have others (settled : ∀ site ∈ lage.sites, site.id = siteId → site.phase.geschlossen = false →
      Steht (lage.auftraege site.id) site.phase) : lage.Nachgefuehrt none := by
    refine ⟨gefuehrt.nummeriert, gefuehrt.verortet, fun site member _ open_ => ?_⟩
    by_cases atSite : site.id = siteId
    · exact settled site member atSite open_
    · exact gefuehrt.steht site member (fun same => atSite (Option.some.inj same).symm) open_
  unfold aktualisiereSitePhase
  split
  · next missing =>
    refine others fun site member atSite => ?_
    exact absurd atSite (by simpa using List.find?_eq_none.mp missing site member)
  · next picked found =>
    split
    · next closed =>
      refine others fun site member atSite open_ => ?_
      have only : site = picked :=
        gefuehrt.nummeriert.site_inj member (List.mem_of_find?_eq_some found) (atSite.trans (site?_id found).symm)
      rw [only, closed] at open_
      cases open_
    · split
      · next none =>
        refine others fun site member atSite _ => ?_
        rw [atSite]
        exact .of_none none
      · next ziel set => exact gefuehrt.setzePhase fun _ => zielphase_steht set

theorem aktualisiereSitePhase_eq (gefuehrt : lage.Nachgefuehrt none) (siteId : Nat) :
    aktualisiereSitePhase lage siteId = (false, lage) := by
  unfold aktualisiereSitePhase
  split
  · rfl
  · next site found =>
    split
    · rfl
    · next open_ =>
      split
      · rfl
      · next ziel set =>
        have same : ziel = site.phase := by
          refine gefuehrt.steht site (List.mem_of_find?_eq_some found) nofun (by simpa using open_) ziel ?_
          rw [site?_id found]
          exact set
        have unsorted : lage.setSite siteId (fun site => { site with sortIndex := none.getD site.sortIndex }) = lage := by
          unfold Lage.setSite Relational.update
          simp
        unfold setzeSitePhase
        rw [found]
        dsimp only
        rw [if_pos same.symm]
        exact congrArg _ unsorted

end Lage.Nachgefuehrt

section Operations

variable {lage lage' : Lage} {now : Zeit} {akteur : Akteur}

theorem dispatchToSite_nachgefuehrt (gefuehrt : lage.Nachgefuehrt none) {einheitId lageId siteId : Nat}
    {auftrag : Option String} {auftragsart : String} {reihenfolge : Option Int} {result : Nat × Bool}
    (done : dispatchToSite lage now akteur einheitId lageId siteId auftrag auftragsart reihenfolge =
      (.ok result, lage')) : lage'.Nachgefuehrt none := by
  unfold dispatchToSite at done
  split at done
  · cases done
  · next art text rang checked =>
    cases done
    obtain ⟨⟨site, found, -⟩, -⟩ := pruefeDisposition_ok checked
    have known : siteId ≤ lage.sites.length := by
      rw [← site?_id found]
      exact gefuehrt.nummeriert.site_id_le (List.mem_of_find?_eq_some found)
    have added : (lage.addDispatch { neueDisposition lage now akteur einheitId siteId with
        auftrag := text, auftragsart := art, reihenfolge := rang }).Nachgefuehrt (some siteId) :=
      gefuehrt.lockern.addDispatch rfl known
    refine (added.setEinheit einheitId fun e => ?_).aktualisiere
    split <;> simp

theorem oeffneAuftragWieder_nachgefuehrt (gefuehrt : lage.Nachgefuehrt none) {dispatchId : Nat} {result : Bool}
    (done : oeffneAuftragWieder lage now dispatchId = (.ok result, lage')) : lage'.Nachgefuehrt none := by
  unfold oeffneAuftragWieder at done
  split at done
  · cases done
  · next dispatch found =>
    split at done
    · cases done
    · cases done
      obtain ⟨member, rfl⟩ := mem_of_dispatch? found
      have reopened : (lage.setDispatch dispatch.id (wiedereroeffnet now)).Nachgefuehrt (some dispatch.siteId) :=
        gefuehrt.lockern.setDispatch (fun d => ⟨rfl, rfl, rfl, rfl⟩) fun d inside same => by
          rw [gefuehrt.nummeriert.dispatch_inj inside member same]
      exact reopened.aktualisiere

theorem zieheFertigeEinheitAb_nachgefuehrt {ausser : Option Nat} (gefuehrt : lage.Nachgefuehrt ausser)
    {dispatchId : Nat} {automatisch : Bool} {result : Except Fehler Bool}
    (done : zieheFertigeEinheitAb lage now akteur dispatchId automatisch = (result, lage')) :
    lage'.Nachgefuehrt ausser := by
  have row : (lage.setDispatch dispatchId (abgezogen now akteur automatisch)).Nachgefuehrt ausser :=
    gefuehrt.setGleichrangig (fun d => ⟨rfl, rfl, rfl, rfl⟩) (fun d _ _ => ⟨rfl, rfl, rfl⟩) fun d _ _ => id
  rcases zieheFertigeEinheitAb_cases done with rfl | ⟨dispatch, -, -, -, rfl | rfl⟩
  · exact gefuehrt
  · exact row
  · exact row.setEinheit _ (verlaesst_id _)

section

variable (gefuehrt : lage.Nachgefuehrt none)
include gefuehrt

theorem withdrawFromSite_nachgefuehrt {stand : List EinheitSiteDispatch}
    (kennt : Kennt stand lage) {einheitId lageId siteId : Nat} {grund : Option String}
    {auftragsart : Option Auftragsart} {result : Except Fehler Bool}
    (done : withdrawFromSite lage stand now akteur einheitId lageId siteId grund auftragsart = (result, lage')) :
    lage'.Nachgefuehrt none := by
  rcases withdrawFromSite_cases done with rfl | ⟨dispatch, inside, ⟨_, abziehen⟩ | rfl⟩
  · exact gefuehrt
  · exact zieheFertigeEinheitAb_nachgefuehrt gefuehrt abziehen
  · obtain ⟨row, member, same⟩ := kennt dispatch inside
    have withdrawn : (lage.setDispatch dispatch.id (zurueckgezogen now akteur grund)).Nachgefuehrt (some dispatch.siteId) :=
      gefuehrt.lockern.setDispatch (fun d => ⟨rfl, rfl, rfl, rfl⟩) fun d isIn atId => by
        rw [gefuehrt.nummeriert.dispatch_inj isIn member (atId.trans same.id.symm), same.siteId]
    exact (withdrawn.setEinheit dispatch.einheitId (verlaesst_id dispatch.siteId)).aktualisiere

theorem einsatzAbschliessen_nachgefuehrt {flush aktiveZurueckziehen : Bool} {siteId : Nat}
    {result : Except Fehler Unit}
    (done : einsatzAbschliessen lage flush now akteur siteId aktiveZurueckziehen = (result, lage')) :
    lage'.Nachgefuehrt none :=
  einsatzAbschliessen_rule (P := (Lage.Nachgefuehrt · none)) (fun _ kennt held step => withdrawFromSite_nachgefuehrt held kennt step)
    (fun held => held.lockern.setzePhase nofun) gefuehrt.nummeriert gefuehrt done

theorem einsatzWiedereroeffnen_nachgefuehrt {siteId : Nat} {result : Unit}
    (done : einsatzWiedereroeffnen lage siteId = (.ok result, lage')) : lage'.Nachgefuehrt none := by
  unfold einsatzWiedereroeffnen at done
  split at done
  · cases done
  · split at done
    · cases done
    · cases done
      refine gefuehrt.lockern.setzePhase fun _ => ?_
      cases set : zielphase (lage.dispatches.filter (·.siteId == siteId)) none with
      | none => exact .of_none set
      | some ziel => exact zielphase_steht set

theorem setVorOrtAtSite_nachgefuehrt {einheitId lageId siteId : Nat}
    {result : Nat × Bool ⊕ Nat}
    (done : setVorOrtAtSite lage now akteur einheitId lageId siteId = (.ok result, lage')) :
    lage'.Nachgefuehrt none := by
  unfold setVorOrtAtSite at done
  split at done
  · cases done
  · cases done
  · next e site ofLage siteFound =>
    split at done
    · cases done
      exact gefuehrt
    · dsimp only at done
      split at done
      · next dispatch found =>
        cases done
        obtain ⟨member, fits, -⟩ := vorhandene_some found
        simp only [offeneAn, Bool.and_eq_true, beq_iff_eq] at fits
        have arrived : (lage.setDispatch dispatch.id (vorOrt now)).Nachgefuehrt (some siteId) :=
          gefuehrt.lockern.setDispatch (fun d => ⟨rfl, rfl, rfl, rfl⟩) fun d inside same => by
            rw [gefuehrt.nummeriert.dispatch_inj inside member same, fits.1.2]
        exact (arrived.setEinheit einheitId (angekommen_id now site)).aktualisiere
      · cases done
        have found := (getSite_ok siteFound).1
        have known : siteId ≤ lage.sites.length := by
          rw [← site?_id found]
          exact gefuehrt.nummeriert.site_id_le (List.mem_of_find?_eq_some found)
        have added : (lage.addDispatch (neueDisposition lage now akteur einheitId siteId)).Nachgefuehrt (some siteId) :=
          gefuehrt.lockern.addDispatch rfl known
        have arrived := @Lage.Nachgefuehrt.setDispatch _ siteId added lage.naechsteId (vorOrt now)
          (fun d => ⟨rfl, rfl, rfl, rfl⟩) fun d inside same => by
            rcases (mem_addDispatch lage).mp inside with old | rfl
            · have below := gefuehrt.nummeriert.dispatch_id_lt old
              omega
            · rfl
        exact (arrived.setEinheit einheitId (angekommen_id now site)).aktualisiere

theorem verlege_nachgefuehrt {alte : List EinheitSiteDispatch}
    (kennt : Kennt alte lage) : (verlege now alte lage).Nachgefuehrt none := by
  induction alte generalizing lage with
  | nil => exact gefuehrt
  | cons d rest ih =>
    obtain ⟨row, member, same⟩ := kennt d (List.mem_cons_self ..)
    have withdrawn : (lage.setDispatch d.id fun d => { d with withdrawnAt := some now }).Nachgefuehrt (some d.siteId) :=
      gefuehrt.lockern.setDispatch (fun d => ⟨rfl, rfl, rfl, rfl⟩) fun other inside atId => by
        rw [gefuehrt.nummeriert.dispatch_inj inside member (atId.trans same.id.symm), same.siteId]
    refine ih withdrawn.aktualisiere fun later listed => ?_
    obtain ⟨old, wasIn, sameOld⟩ := kennt later (List.mem_cons_of_mem _ listed)
    rw [aktualisiereSitePhase_dispatches]
    refine ⟨_, (mem_setDispatch lage d.id).mpr ⟨old, wasIn, rfl⟩, sameOld.trans ?_⟩
    split <;> exact ⟨rfl, rfl, rfl, rfl⟩

theorem resolveVorOrtConflict_nachgefuehrt {einheitId lageId siteId : Nat}
    {result : Nat × Bool ⊕ Nat}
    (done : resolveVorOrtConflict lage now akteur einheitId lageId siteId = (.ok result, lage')) :
    lage'.Nachgefuehrt none := by
  unfold resolveVorOrtConflict at done
  split at done
  · cases done
  · refine setVorOrtAtSite_nachgefuehrt (verlege_nachgefuehrt gefuehrt fun d listed => ?_) done
    exact ⟨d, List.mem_of_mem_filter listed, .refl d⟩

theorem unterbrich_nachgefuehrt {dispatch : EinheitSiteDispatch}
    {neuer : EinheitStatus} {meldung : Meldung} {other : Option Nat}
    (done : unterbrich now lage dispatch neuer meldung = .ok (other, lage')) : lage'.Nachgefuehrt none := by
  rcases unterbrich_cases done with ⟨rfl, -⟩ | ⟨a, inside, -, -, -, active, rfl⟩
  · exact gefuehrt
  · have row : (lage.setDispatch a.id (unterbrochen now)).Nachgefuehrt none := by
      refine gefuehrt.setGleichrangig (fun d => ⟨rfl, rfl, rfl, rfl⟩) (fun d member atId => ⟨rfl, rfl, ?_⟩)
        fun d member atId works => ?_
      · rw [← gefuehrt.nummeriert.dispatch_inj member inside atId] at active
        simp only [EinheitSiteDispatch.aktiv, Bool.and_eq_true] at active
        revert active
        cases status : d.einheitStatus <;> simp [unterbrochen, EinheitStatus.aktiv, EinheitStatus.beendet]
      · simp [bearbeitet, unterbrochen] at works
    exact row.setEinheit _ (verlaesst_id a.siteId)

theorem melde_nachgefuehrt {dispatch : EinheitSiteDispatch} {site : IncidentSite}
    (member : dispatch ∈ lage.dispatches) (atSite : dispatch.siteId = site.id) (neuer : EinheitStatus)
    (grund : Option String) : (melde now akteur lage dispatch site neuer grund).2.Nachgefuehrt none := by
  have row : (lage.setDispatch dispatch.id (gemeldet now neuer grund)).Nachgefuehrt (some site.id) :=
    gefuehrt.lockern.setDispatch (fun d => ⟨rfl, rfl, rfl, rfl⟩) fun d inside same => by
      rw [gefuehrt.nummeriert.dispatch_inj inside member same, atSite]
  have moved : ((lage.setDispatch dispatch.id (gemeldet now neuer grund)).setEinheit dispatch.einheitId fun e =>
      imEinsatz now (position dispatch.einheitStatus neuer site e)).Nachgefuehrt (some site.id) :=
    row.setEinheit dispatch.einheitId fun e => by simp
  unfold melde
  refine Lage.Nachgefuehrt.aktualisiere ?_
  split
  · generalize pulled : zieheFertigeEinheitAb _ now akteur dispatch.id true = outcome
    exact zieheFertigeEinheitAb_nachgefuehrt moved pulled
  · exact moved

theorem setzeEinheitStatus_nachgefuehrt {dispatchId : Nat} {meldung : Meldung}
    {result : StatusErgebnis} (done : setzeEinheitStatus lage now akteur dispatchId meldung = (.ok result, lage')) :
    lage'.Nachgefuehrt none := by
  rcases setzeEinheitStatus_cases done with rfl |
    ⟨dispatch, site, neuer, other, between, found, -, -, atSite, -, interrupted, rfl⟩
  · exact gefuehrt
  · have inside := (unterbrich_keeps gefuehrt.nummeriert (mem_of_dispatch? found).1 interrupted).2.1
    exact melde_nachgefuehrt (unterbrich_nachgefuehrt gefuehrt interrupted) inside (site?_id atSite).symm neuer
      meldung.grund

end

end Operations

theorem NurEinheit.nachgefuehrt {lage lage' : Lage} (einheit : NurEinheit lage lage')
    (gefuehrt : lage.Nachgefuehrt none) : lage'.Nachgefuehrt none := by
  obtain ⟨id, werte, keeps, -, rfl⟩ := einheit
  exact gefuehrt.setEinheit id keeps

theorem Lage.Nachgefuehrt.addSite {lage : Lage} (gefuehrt : lage.Nachgefuehrt none) (site : IncidentSite) :
    ({ lage with sites := lage.sites ++ [{ site with id := lage.sites.length + 1 }] } : Lage).Nachgefuehrt none where
  nummeriert := ⟨gefuehrt.nummeriert.einheiten, Relational.Numbered.append gefuehrt.nummeriert.sites rfl,
    gefuehrt.nummeriert.dispatches⟩
  verortet := by
    intro d member
    have known := gefuehrt.verortet d member
    simp only [List.length_append, List.length_singleton]
    omega
  steht := by
    intro other member elsewhere open_
    rcases List.mem_append.mp member with old | new
    · exact gefuehrt.steht other old elsewhere open_
    · rw [List.mem_singleton.mp new]
      have empty : lage.auftraege (lage.sites.length + 1) = [] := by
        refine List.filter_eq_nil_iff.mpr fun d inside => ?_
        have known := gefuehrt.verortet d inside
        rw [beq_iff_eq]
        omega
      show Steht (lage.auftraege (lage.sites.length + 1)) _
      rw [empty]
      exact steht_nil

theorem step_nachgefuehrt {lage : Lage} (gefuehrt : lage.Nachgefuehrt none) {vorgang : Vorgang}
    (ohneHand : vorgang.vonHand = false) : (step lage vorgang).Nachgefuehrt none := by
  cases vorgang with
  | einheit e =>
    exact ⟨⟨Relational.Numbered.append gefuehrt.nummeriert.einheiten rfl, gefuehrt.nummeriert.sites,
      gefuehrt.nummeriert.dispatches⟩, gefuehrt.verortet, gefuehrt.steht⟩
  | site site => exact gefuehrt.addSite site
  | sector =>
    exact ⟨⟨gefuehrt.nummeriert.einheiten, gefuehrt.nummeriert.sites, gefuehrt.nummeriert.dispatches⟩,
      gefuehrt.verortet, gefuehrt.steht⟩
  | disponiere => exact transaktion_of gefuehrt fun result lage' done => dispatchToSite_nachgefuehrt gefuehrt done
  | vorOrt => exact transaktion_of gefuehrt fun result lage' done => setVorOrtAtSite_nachgefuehrt gefuehrt done
  | verlege => exact transaktion_of gefuehrt fun result lage' done => resolveVorOrtConflict_nachgefuehrt gefuehrt done
  | withdraw =>
    exact transaktion_of gefuehrt fun result lage' done => withdrawFromSite_nachgefuehrt gefuehrt (.self lage) done
  | status => exact transaktion_of gefuehrt fun result lage' done => setzeEinheitStatus_nachgefuehrt gefuehrt done
  | oeffne => exact transaktion_of gefuehrt fun result lage' done => oeffneAuftragWieder_nachgefuehrt gefuehrt done
  | abziehen => exact transaktion_of gefuehrt fun result lage' done => zieheFertigeEinheitAb_nachgefuehrt gefuehrt done
  | abschnitt =>
    exact transaktion_of gefuehrt fun result lage' done => (assignToSector_einheit done).nachgefuehrt gefuehrt
  | pool => exact transaktion_of gefuehrt fun result lage' done => (moveToPool_einheit done).nachgefuehrt gefuehrt
  | ressource => exact transaktion_of gefuehrt fun result lage' done => (setStatus_einheit done).nachgefuehrt gefuehrt
  | reaktiviere =>
    exact transaktion_of gefuehrt fun result lage' done => (reaktiviereEinheit_einheit done).nachgefuehrt gefuehrt
  | phase => cases ohneHand
  | abschliessen =>
    exact transaktion_of gefuehrt fun result lage' done => einsatzAbschliessen_nachgefuehrt gefuehrt done
  | wiedereroeffnen =>
    exact transaktion_of gefuehrt fun result lage' done => einsatzWiedereroeffnen_nachgefuehrt gefuehrt done

theorem run_nachgefuehrt {vorgaenge : List Vorgang} (ohneHand : ∀ vorgang ∈ vorgaenge, vorgang.vonHand = false) :
    (run step {} vorgaenge).Nachgefuehrt none := by
  have empty : ({} : Lage).Nachgefuehrt none :=
    ⟨⟨rfl, rfl, rfl⟩, fun _ none => absurd none List.not_mem_nil, fun _ none => absurd none List.not_mem_nil⟩
  exact run_induction (fun lage : Lage => lage.Nachgefuehrt none)
    (fun lage vorgang gefuehrt ok => step_nachgefuehrt gefuehrt ok) empty
    (Meets.of_forall (fun vorgang member _ => ohneHand vorgang member) _)

/-- After every run without a manual change of a phase, the automatic phase of
every open site's orders is the phase it is in, and recomputing any site
changes nothing. -/
theorem phase_fixpunkt (vorgaenge : List Vorgang) (ohneHand : ∀ vorgang ∈ vorgaenge, vorgang.vonHand = false) :
    (∀ site ∈ (run step {} vorgaenge).sites, site.phase.geschlossen = false →
      ∀ ziel, zielphase ((run step {} vorgaenge).dispatches.filter (·.siteId == site.id)) (some site.phase) =
        some ziel → ziel = site.phase) ∧
      ∀ siteId, aktualisiereSitePhase (run step {} vorgaenge) siteId = (false, run step {} vorgaenge) := by
  have gefuehrt := run_nachgefuehrt ohneHand
  exact ⟨fun site member open_ => gefuehrt.steht site member nofun open_, gefuehrt.aktualisiereSitePhase_eq⟩

def unterbrochenerEinsatz : List Vorgang :=
  [.einheit { id := 0, lageId := 1, label := "TLF" },
    .site { id := 0, majorIncidentId := 1, bezeichnung := "Keller" },
    .site { id := 0, majorIncidentId := 1, bezeichnung := "Dach" },
    .disponiere 0 {} 1 1 1 none "abarbeitung" none,
    .status 1 {} 1 { neuerStatus := "vor_ort" },
    .disponiere 2 {} 1 1 2 none "abarbeitung" none,
    .status 3 {} 2 { neuerStatus := "vor_ort", unterbrechen := true }]

theorem phase_fixpunkt_unterbrochen :
    (run step {} unterbrochenerEinsatz).sites.map (·.phase) = [.inArbeit, .inArbeit] ∧
      (run step {} unterbrochenerEinsatz).dispatches.map (·.einheitStatus) = [.bestaetigt, .vorOrt] ∧
        ∀ siteId, aktualisiereSitePhase (run step {} unterbrochenerEinsatz) siteId =
          (false, run step {} unterbrochenerEinsatz) :=
  ⟨by decide +kernel, by decide +kernel, (phase_fixpunkt unterbrochenerEinsatz (by decide)).2⟩

end Einsatzcockpit.Gsl
