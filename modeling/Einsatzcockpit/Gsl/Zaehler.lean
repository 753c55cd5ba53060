import Einsatzcockpit.Gsl.Einzeln

namespace Einsatzcockpit.Gsl

open Transition

structure Zaehler where
  alarmed : Nat
  vorOrt : Nat
  fertig : Nat
  deriving DecidableEq

/-- `get_dispatch_counts_for_site` -/
def getDispatchCountsForSite (lage : Lage) (siteId : Nat) : Zaehler :=
  let rows := lage.dispatches.filter (·.siteId == siteId)
  { alarmed := rows.countP fun d => d.offen && d.vorOrtAt.isNone
    vorOrt := rows.countP fun d => d.offen && d.vorOrtAt.isSome
    fertig := rows.countP fun d => d.withdrawnAt.isNone && d.beendetAt.isSome }

/-- `get_dispatch_counts_for_sites` -/
def getDispatchCountsForSites (lage : Lage) (siteIds : List Nat) : List (Nat × Zaehler) :=
  siteIds.map fun siteId => (siteId, getDispatchCountsForSite lage siteId)

def EinheitSiteDispatch.anOrt (d : EinheitSiteDispatch) : Bool :=
  d.einheitStatus == .vorOrt || d.einheitStatus == .inArbeit

theorem alarmed_add_vorOrt (lage : Lage) (siteId : Nat) :
    (getDispatchCountsForSite lage siteId).alarmed + (getDispatchCountsForSite lage siteId).vorOrt =
      lage.dispatches.countP fun d => d.siteId == siteId && d.offen := by
  have split : ∀ rows : List EinheitSiteDispatch,
      rows.countP (fun d => d.offen && d.vorOrtAt.isNone) + rows.countP (fun d => d.offen && d.vorOrtAt.isSome) =
        rows.countP EinheitSiteDispatch.offen := by
    intro rows
    induction rows with
    | nil => rfl
    | cons d rest ih =>
      simp only [List.countP_cons]
      cases d.offen <;> cases d.vorOrtAt <;> simp <;> omega
  unfold getDispatchCountsForSite
  dsimp only
  rw [split, List.countP_filter]
  exact List.countP_congr fun d _ => by rw [Bool.and_comm]

/-- The time of arrival follows the status: no order is in work before its unit
has been reported on the site, none that has an arrival goes back to confirmed,
neither by a report nor for another order, and none is reopened. -/
def gezaehlt (lage : Lage) : Vorgang → Bool
  | .status now _ dispatchId meldung =>
    match angenommen lage now dispatchId meldung with
    | none => true
    | some (d, neuer) =>
      (neuer != .inArbeit || d.vorOrtAt.isSome) && (neuer != .bestaetigt || d.vorOrtAt.isNone) &&
        (!neuer.aktiv || (anderer lage d).all (·.vorOrtAt.isNone))
  | .oeffne _ dispatchId =>
    (lage.dispatch? dispatchId).all fun d => d.beendetAt.isNone || d.withdrawnAt.isSome || d.vorOrtAt.isNone
  | _ => true

def EinheitSiteDispatch.Genau (d : EinheitSiteDispatch) : Prop :=
  d.offen = true → d.vorOrtAt.isSome = d.anOrt

def Lage.Genau (lage : Lage) : Prop := ∀ d ∈ lage.dispatches, d.Genau

section Rows

variable {lage lage' : Lage} {now : Zeit} {akteur : Akteur}

theorem Lage.Genau.of_same (genau : lage.Genau) (same : lage'.dispatches = lage.dispatches) : lage'.Genau :=
  fun d member => genau d (same ▸ member)

theorem Lage.Genau.setDispatch (genau : lage.Genau) (id : Nat) {werte : EinheitSiteDispatch → EinheitSiteDispatch}
    (keeps : ∀ d ∈ lage.dispatches, d.id = id → (werte d).Genau) : (lage.setDispatch id werte).Genau := by
  intro d' member
  obtain ⟨d, inside, result⟩ := (mem_setDispatch lage id).mp member
  split at result
  · next atId => exact result ▸ keeps d inside atId
  · exact result ▸ genau d inside

theorem genau_of_withdrawn {d : EinheitSiteDispatch} (withdrawn : d.withdrawnAt.isSome = true) : d.Genau := by
  intro open_
  rw [EinheitSiteDispatch.offen, Bool.and_eq_true, Option.isNone_iff_eq_none] at open_
  rw [open_.1] at withdrawn
  cases withdrawn

theorem vorOrt_genau (now : Zeit) (d : EinheitSiteDispatch) : (vorOrt now d).Genau := by
  intro _
  unfold vorOrt EinheitSiteDispatch.anOrt
  dsimp only
  split <;> rfl

variable {dispatchId einheitId lageId siteId : Nat} {result : Except Fehler Bool} {grund : Option String}
  {site : IncidentSite} {meldung : Meldung} {dispatch : EinheitSiteDispatch} {neuer : EinheitStatus}

theorem zieheFertigeEinheitAb_genau (genau : lage.Genau) {automatisch : Bool}
    (done : zieheFertigeEinheitAb lage now akteur dispatchId automatisch = (result, lage')) : lage'.Genau := by
  have row : (lage.setDispatch dispatchId (abgezogen now akteur automatisch)).Genau :=
    genau.setDispatch dispatchId fun d inside _ => genau d inside
  rcases zieheFertigeEinheitAb_cases done with rfl | ⟨dispatch, -, -, -, rfl | rfl⟩
  · exact genau
  · exact row
  · exact row

theorem withdrawFromSite_genau (genau : lage.Genau) {stand : List EinheitSiteDispatch} {auftragsart : Option Auftragsart}
    (done : withdrawFromSite lage stand now akteur einheitId lageId siteId grund auftragsart = (result, lage')) :
    lage'.Genau := by
  rcases withdrawFromSite_cases done with rfl | ⟨dispatch, -, ⟨_, pulled⟩ | rfl⟩
  · exact genau
  · exact zieheFertigeEinheitAb_genau genau pulled
  · have row : (lage.setDispatch dispatch.id (zurueckgezogen now akteur grund)).Genau :=
      genau.setDispatch dispatch.id fun d _ _ => genau_of_withdrawn rfl
    exact row.of_same (aktualisiereSitePhase_dispatches _ dispatch.siteId)

theorem einsatzAbschliessen_genau (nummeriert : lage.Nummeriert) (genau : lage.Genau) {flush aktiveZurueckziehen : Bool}
    {result : Except Fehler Unit}
    (done : einsatzAbschliessen lage flush now akteur siteId aktiveZurueckziehen = (result, lage')) : lage'.Genau :=
  einsatzAbschliessen_rule (P := Lage.Genau) (fun _ _ held step => withdrawFromSite_genau held step)
    (fun held => held.of_same (setzeSitePhase_nurSites _ siteId .erledigt none).dispatches) nummeriert genau done

section

variable (genau : lage.Genau)
include genau

theorem dispatchToSite_genau {auftrag : Option String} {auftragsart : String}
    {reihenfolge : Option Int} {result : Except Fehler (Nat × Bool)}
    (done : dispatchToSite lage now akteur einheitId lageId siteId auftrag auftragsart reihenfolge = (result, lage')) :
    lage'.Genau := by
  unfold dispatchToSite at done
  split at done
  · cases done
    exact genau
  · cases done
    refine Lage.Genau.of_same (fun d member => ?_) (aktualisiereSitePhase_dispatches _ siteId)
    rcases (mem_addDispatch lage).mp member with old | rfl
    · exact genau d old
    · exact fun _ => rfl

theorem setVorOrtAtSite_genau {result : Except Fehler (Nat × Bool ⊕ Nat)}
    (done : setVorOrtAtSite lage now akteur einheitId lageId siteId = (result, lage')) : lage'.Genau := by
  unfold setVorOrtAtSite at done
  split at done
  · cases done
    exact genau
  · cases done
    exact genau
  · split at done
    · cases done
      exact genau
    · dsimp only at done
      split at done
      · next dispatch _ =>
        cases done
        have row : (lage.setDispatch dispatch.id (vorOrt now)).Genau := genau.setDispatch dispatch.id fun d _ _ => vorOrt_genau now d
        exact row.of_same (aktualisiereSitePhase_dispatches _ siteId)
      · cases done
        have added : (lage.addDispatch (neueDisposition lage now akteur einheitId siteId)).Genau := by
          intro d member
          rcases (mem_addDispatch lage).mp member with old | rfl
          · exact genau d old
          · exact fun _ => rfl
        have row := added.setDispatch lage.naechsteId fun d _ _ => vorOrt_genau now d
        exact row.of_same (aktualisiereSitePhase_dispatches _ siteId)

theorem verlege_genau (alte : List EinheitSiteDispatch) : (verlege now alte lage).Genau := by
  induction alte generalizing lage with
  | nil => exact genau
  | cons d rest ih =>
    have row : (lage.setDispatch d.id fun d => { d with withdrawnAt := some now }).Genau :=
      genau.setDispatch d.id fun d _ _ => genau_of_withdrawn rfl
    exact ih (row.of_same (aktualisiereSitePhase_dispatches _ d.siteId))

theorem resolveVorOrtConflict_genau
    {result : Except Fehler (Nat × Bool ⊕ Nat)}
    (done : resolveVorOrtConflict lage now akteur einheitId lageId siteId = (result, lage')) : lage'.Genau := by
  unfold resolveVorOrtConflict at done
  split at done
  · cases done
    exact genau
  · exact setVorOrtAtSite_genau (verlege_genau genau _) done

end

theorem unterbrich_genau (nummeriert : lage.Nummeriert) (genau : lage.Genau) {other : Option Nat}
    (frei : neuer.aktiv = true → ∀ a ∈ anderer lage dispatch, a.vorOrtAt.isNone = true)
    (done : unterbrich now lage dispatch neuer meldung = .ok (other, lage')) : lage'.Genau := by
  rcases unterbrich_cases done with ⟨rfl, -⟩ | ⟨a, isIn, active, found, -, -, rfl⟩
  · exact genau
  · have row : (lage.setDispatch a.id (unterbrochen now)).Genau := by
      refine genau.setDispatch a.id fun d inside atId _ => ?_
      rw [nummeriert.dispatch_inj inside isIn atId]
      have none := Option.isNone_iff_eq_none.mp (frei active a found)
      show a.vorOrtAt.isSome = false
      rw [none]
      rfl
    exact row.of_same rfl

theorem gemeldet_genau {d : EinheitSiteDispatch} (genau : d.Genau)
    (allowed : neuer ∈ uebergaenge d.auftragsart d.einheitStatus) (arbeit : neuer = .inArbeit → d.vorOrtAt.isSome = true)
    (bestaetigt : neuer = .bestaetigt → d.vorOrtAt.isNone = true) : (gemeldet now neuer grund d).Genau := by
  intro open_
  rw [EinheitSiteDispatch.offen, Bool.and_eq_true] at open_
  have running : neuer.beendet = false := by
    cases ends : neuer.beendet with
    | false => rfl
    | true =>
      have isNone := open_.2
      simp [gemeldet, ends] at isNone
  have wasOpen : d.offen = true := by
    rw [EinheitSiteDispatch.offen, Bool.and_eq_true]
    refine ⟨open_.1, ?_⟩
    have isNone := open_.2
    simpa [gemeldet, running] using isNone
  cases neuer with
  | vorOrt =>
    show (d.vorOrtAt.or (some now)).isSome = true
    cases d.vorOrtAt <;> rfl
  | inArbeit => exact arbeit rfl
  | bestaetigt =>
    show d.vorOrtAt.isSome = false
    rw [Option.isNone_iff_eq_none.mp (bestaetigt rfl)]
    rfl
  | anfahrt =>
    have before : d.anOrt = false := by
      revert allowed
      unfold EinheitSiteDispatch.anOrt
      cases d.auftragsart <;> cases d.einheitStatus <;> decide
    exact (genau wasOpen).trans before
  | zugewiesen =>
    have never := uebergaenge_spec allowed
    simp [EinheitStatus.aktiv, EinheitStatus.beendet] at never
  | abgeschlossen | nichtDurchfuehrbar => cases running

section

variable (nummeriert : lage.Nummeriert) (genau : lage.Genau)
include nummeriert genau

theorem melde_genau (member : dispatch ∈ lage.dispatches)
    (row : (gemeldet now neuer grund dispatch).Genau) : (melde now akteur lage dispatch site neuer grund).2.Genau := by
  have reported : (lage.setDispatch dispatch.id (gemeldet now neuer grund)).Genau := by
    refine genau.setDispatch dispatch.id fun d inside atId => ?_
    rw [nummeriert.dispatch_inj inside member atId]
    exact row
  have moved : ((lage.setDispatch dispatch.id (gemeldet now neuer grund)).setEinheit dispatch.einheitId fun e =>
      imEinsatz now (position dispatch.einheitStatus neuer site e)).Genau := reported.of_same rfl
  unfold melde
  refine Lage.Genau.of_same ?_ (aktualisiereSitePhase_dispatches _ site.id)
  split
  · generalize pulled : zieheFertigeEinheitAb _ now akteur dispatch.id true = outcome
    obtain ⟨result, after⟩ := outcome
    exact zieheFertigeEinheitAb_genau moved pulled
  · exact moved

theorem setzeEinheitStatus_genau
    (ok : gezaehlt lage (.status now akteur dispatchId meldung) = true) {result : Except Fehler StatusErgebnis}
    (done : setzeEinheitStatus lage now akteur dispatchId meldung = (result, lage')) : lage'.Genau := by
  rcases setzeEinheitStatus_cases done with rfl |
    ⟨dispatch, site, neuer, other, between, found, accepted, -, -, allowed, interrupted, rfl⟩
  · exact genau
  · simp only [gezaehlt, accepted, Bool.and_eq_true, Bool.or_eq_true, bne_iff_ne, Bool.not_eq_true'] at ok
    obtain ⟨⟨arbeit, bestaetigt⟩, frei⟩ := ok
    have member := (mem_of_dispatch? found).1
    have free : neuer.aktiv = true → ∀ a ∈ anderer lage dispatch, a.vorOrtAt.isNone = true := by
      intro active a isOther
      rcases frei with inactive | none
      · rw [active] at inactive
        cases inactive
      · rw [Option.mem_def.mp isOther] at none
        exact none
    obtain ⟨numbered, kept, _⟩ := unterbrich_keeps nummeriert member interrupted
    refine melde_genau numbered (unterbrich_genau nummeriert genau free interrupted) kept ?_
    exact gemeldet_genau (genau dispatch member) allowed (fun is => arbeit.resolve_left fun differs => differs is)
      fun is => bestaetigt.resolve_left fun differs => differs is

theorem oeffneAuftragWieder_genau
    (ok : gezaehlt lage (.oeffne now dispatchId) = true)
    (done : oeffneAuftragWieder lage now dispatchId = (result, lage')) : lage'.Genau := by
  unfold oeffneAuftragWieder at done
  split at done
  · cases done
    exact genau
  · next dispatch found =>
    split at done
    · cases done
      exact genau
    · next ended =>
      cases done
      simp only [gezaehlt, found, Option.all_some, Bool.or_eq_true] at ok
      have row : (wiedereroeffnet now dispatch).Genau := by
        rcases ok with (running | withdrawn) | none
        · exact absurd running ended
        · exact genau_of_withdrawn withdrawn
        · intro _
          show dispatch.vorOrtAt.isSome = false
          rw [Option.isNone_iff_eq_none.mp none]
          rfl
      refine Lage.Genau.of_same (genau.setDispatch dispatchId fun d inside atId => ?_)
        (aktualisiereSitePhase_dispatches _ dispatch.siteId)
      obtain ⟨member, same⟩ := mem_of_dispatch? found
      rw [nummeriert.dispatch_inj inside member (atId.trans same.symm)]
      exact row

end

end Rows

theorem step_genau {lage : Lage} (nummeriert : lage.Nummeriert) (genau : lage.Genau) {vorgang : Vorgang}
    (ok : gezaehlt lage vorgang = true) : (step lage vorgang).Genau := by
  cases vorgang with
  | einheit | site | sector => exact genau.of_same rfl
  | disponiere => exact transaktion_of genau fun result lage' done => dispatchToSite_genau genau done
  | vorOrt => exact transaktion_of genau fun result lage' done => setVorOrtAtSite_genau genau done
  | verlege => exact transaktion_of genau fun result lage' done => resolveVorOrtConflict_genau genau done
  | withdraw => exact transaktion_of genau fun result lage' done => withdrawFromSite_genau genau done
  | status => exact transaktion_of genau fun result lage' done => setzeEinheitStatus_genau nummeriert genau ok done
  | oeffne => exact transaktion_of genau fun result lage' done => oeffneAuftragWieder_genau nummeriert genau ok done
  | abziehen => exact transaktion_of genau fun result lage' done => zieheFertigeEinheitAb_genau genau done
  | abschnitt => exact transaktion_of genau fun result lage' done => genau.of_same (assignToSector_einheit done).dispatches
  | pool => exact transaktion_of genau fun result lage' done => genau.of_same (moveToPool_einheit done).dispatches
  | ressource => exact transaktion_of genau fun result lage' done => genau.of_same (setStatus_einheit done).dispatches
  | reaktiviere => exact transaktion_of genau fun result lage' done => genau.of_same (reaktiviereEinheit_einheit done).dispatches
  | phase siteId neuePhase sortIndex => exact genau.of_same (setzeSitePhase_nurSites lage siteId neuePhase sortIndex).dispatches
  | abschliessen => exact transaktion_of genau fun result lage' done => einsatzAbschliessen_genau nummeriert genau done
  | wiedereroeffnen siteId =>
    refine transaktion_of genau fun result lage' done => ?_
    obtain ⟨phase, rfl⟩ := einsatzWiedereroeffnen_nurSites done
    exact genau.of_same (setzeSitePhase_nurSites lage siteId phase none).dispatches

/-- Every live order of a site is counted once, and among those on the site in
every run that keeps the times of arrival with the status. -/
theorem stelle_gezaehlt (vorgaenge : List Vorgang)
    (ok : Meets step (fun lage vorgang => gezaehlt lage vorgang = true) {} vorgaenge) (siteId : Nat) :
    let lage := run step {} vorgaenge
    let counts := getDispatchCountsForSite lage siteId
    counts.alarmed + counts.vorOrt = lage.dispatches.countP (fun d => d.siteId == siteId && d.offen) ∧
      counts.vorOrt = lage.dispatches.countP fun d => d.siteId == siteId && d.offen && d.anOrt := by
  intro lage counts
  refine ⟨alarmed_add_vorOrt lage siteId, ?_⟩
  have start : Lage.Gueltig {} ∧ Lage.Genau {} := ⟨run_gueltig [], fun _ member => absurd member List.not_mem_nil⟩
  have genau : lage.Genau := by
    refine (run_induction (fun lage => lage.Gueltig ∧ lage.Genau) (fun lage vorgang held ok => ?_) start ok).2
    exact ⟨⟨step_einOrt held.1 vorgang, step_stimmig held.1 vorgang⟩, step_genau held.1.einOrt.nummeriert held.2 ok⟩
  show (lage.dispatches.filter (·.siteId == siteId)).countP (fun d => d.offen && d.vorOrtAt.isSome) = _
  rw [List.countP_filter]
  refine List.countP_congr fun d member => ?_
  cases open_ : d.offen with
  | false => simp
  | true => simp [genau d member open_, and_comm]

def eintreffen : List Vorgang :=
  [.einheit { id := 0, lageId := 1, label := "RLF" }, .site { id := 0, majorIncidentId := 1, bezeichnung := "Keller" },
    .disponiere 0 {} 1 1 1 none "abarbeitung" none, .status 1 {} 1 { neuerStatus := "vor_ort" }]

theorem stelle_gezaehlt_eintreffen :
    getDispatchCountsForSite (run step {} eintreffen) 1 = ⟨0, 1, 0⟩ ∧
      (getDispatchCountsForSite (run step {} eintreffen) 1).vorOrt =
        (run step {} eintreffen).dispatches.countP fun d => d.siteId == 1 && d.offen && d.anOrt :=
  ⟨by decide +kernel, (stelle_gezaehlt eintreffen (by decide +kernel) 1).2⟩

/-- The order is closed and reopened: it counts as on the site and is only
assigned. -/
theorem stelle_verzaehlt :
    ¬ ∀ (vorgaenge : List Vorgang) (siteId : Nat), (getDispatchCountsForSite (run step {} vorgaenge) siteId).vorOrt =
      (run step {} vorgaenge).dispatches.countP fun d => d.siteId == siteId && d.offen && d.anOrt := by
  intro law
  have same := law (eintreffen ++ [.status 2 {} 1 { neuerStatus := "nicht_durchfuehrbar", grund := some "Sturm" }, .oeffne 3 1]) 1
  exact absurd same (by decide +kernel)

end Einsatzcockpit.Gsl
