import Einsatzcockpit.Gsl.Wechsel

namespace Einsatzcockpit.Gsl

open Transition

theorem gemeldet_same (now : Zeit) (neuer : EinheitStatus) (grund : Option String) (d : EinheitSiteDispatch) :
    SameOrder d (gemeldet now neuer grund d) := ⟨rfl, rfl, rfl, rfl⟩

theorem unterbrochen_same (now : Zeit) (d : EinheitSiteDispatch) : SameOrder d (unterbrochen now d) :=
  ⟨rfl, rfl, rfl, rfl⟩

theorem setEinheit_comp (lage : Lage) (id : Nat) {first : LageEinheit → LageEinheit} (second : LageEinheit → LageEinheit)
    (keeps : ∀ e, (first e).id = e.id) :
    lage.setEinheit id (fun e => second (first e)) = (lage.setEinheit id first).setEinheit id second := by
  simp only [Lage.setEinheit, Relational.update, List.map_map]
  congr 1
  refine List.map_congr_left fun e _ => ?_
  simp only [Function.comp_apply, beq_iff_eq]
  by_cases atId : e.id = id
  · rw [if_pos atId, if_pos atId, if_pos ((keeps e).trans atId)]
  · rw [if_neg atId, if_neg atId, if_neg atId]

theorem imEinsatz_loest (lage : Lage) (now : Zeit) (id : Nat) : Loest lage (lage.setEinheit id (imEinsatz now)) :=
  .setEinheit lage id (imEinsatz_id now) fun e siteId located => by simpa using located

variable {lage : Lage} {now : Zeit} {dispatch : EinheitSiteDispatch} {neuer : EinheitStatus} {site : IncidentSite}
  {grund : Option String}

theorem unterbrich_einOrt {lage' : Lage}
    {meldung : Meldung} {other : Option Nat} (inv : lage.EinOrt) (member : dispatch ∈ lage.dispatches)
    (done : unterbrich now lage dispatch neuer meldung = .ok (other, lage')) :
    lage'.EinOrt ∧ dispatch ∈ lage'.dispatches ∧ lage'.sites = lage.sites ∧
      (neuer.aktiv = true → ∀ d ∈ lage'.dispatches, d.aktiv = true → d.einheitId = dispatch.einheitId → d = dispatch) := by
  obtain ⟨-, isIn, sites⟩ := unterbrich_keeps inv.nummeriert member done
  rcases unterbrich_cases done with ⟨rfl, free⟩ | ⟨a, inside, -, -, ⟨ofUnit, -⟩, active, rfl⟩
  · refine ⟨inv, member, rfl, fun wanted d inside active ofUnit => ?_⟩
    by_contra different
    have notSame : d.id ≠ dispatch.id := fun same => different (inv.nummeriert.dispatch_inj inside member same)
    refine List.find?_eq_none.mp (free wanted) d inside ?_
    simp [ofUnit, notSame, active]
  · have ended : (unterbrochen now a).aktiv = false := by
      simp [EinheitSiteDispatch.aktiv, EinheitStatus.aktiv, unterbrochen]
    have loest := Loest.verlaesst inv.nummeriert inside (unterbrochen_same now) ended
    rw [ofUnit] at loest
    refine ⟨inv.loest loest, isIn, sites, fun _ d' inside' active' ofUnit' => ?_⟩
    obtain ⟨d, isIn, result⟩ := (mem_setDispatch lage a.id).mp inside'
    split at result
    · next atA =>
      rw [inv.nummeriert.dispatch_inj isIn inside atA] at result
      simp [← result, ended] at active'
    · next notA =>
      subst result
      have same := inv.einer d isIn a inside active' active (ofUnit'.trans ofUnit.symm)
      exact absurd (congrArg (·.id) same) notA

theorem offen_of_allowed {d : EinheitSiteDispatch} (stimmig : Stimmig d) (kept : d.withdrawnAt = none) (allowed : neuer ∈ uebergaenge d.auftragsart d.einheitStatus) : d.offen = true := by
  rw [Stimmig, (uebergaenge_spec allowed).1] at stimmig
  simpa [EinheitSiteDispatch.offen, kept] using stimmig

theorem melde_ankunft (inv : lage.EinOrt) (member : dispatch ∈ lage.dispatches)
    (atSite : site.id = dispatch.siteId) (open_ : dispatch.offen = true) (active : neuer.aktiv = true)
    (alone : ∀ d ∈ lage.dispatches, d.aktiv = true → d.einheitId = dispatch.einheitId → d = dispatch) :
    ((lage.setDispatch dispatch.id (gemeldet now neuer grund)).setEinheit dispatch.einheitId fun e =>
      imEinsatz now (position dispatch.einheitStatus neuer site e)).EinOrt := by
  have notEnded : neuer.beendet = false := by
    revert active
    cases neuer <;> decide
  have stillOpen : (gemeldet now neuer grund dispatch).offen = true := by
    simpa [EinheitSiteDispatch.offen, gemeldet, notEnded] using open_
  refine (inv.ausser _).ankunft member alone (gemeldet_same now neuer grund)
    (aktiv_iff.mpr ⟨stillOpen, active⟩) (fun e => ?_) fun e => ?_
  · simp
  · simp [position, active, atSite]

theorem melde_loest (nummeriert : lage.Nummeriert)
    (member : dispatch ∈ lage.dispatches) (atSite : site.id = dispatch.siteId) (idle : neuer.aktiv = false)
    (kind : neuer.beendet = true ∨ neuer = .bestaetigt) :
    Loest lage ((lage.setDispatch dispatch.id (gemeldet now neuer grund)).setEinheit dispatch.einheitId fun e =>
      imEinsatz now (position dispatch.einheitStatus neuer site e)) := by
  have ended : (gemeldet now neuer grund dispatch).aktiv = false := by
    simp [EinheitSiteDispatch.aktiv, gemeldet, idle]
  rw [setEinheit_comp _ _ (imEinsatz now) (position_id _ neuer site)]
  refine .trans ?_ (imEinsatz_loest _ now _)
  by_cases wasActive : dispatch.einheitStatus.aktiv = true
  · have leaves : position dispatch.einheitStatus neuer site = verlaesst dispatch.siteId := by
      funext e
      rcases kind with final | rfl
      · simp [position, idle, final, wasActive, atSite]
      · simp [position, idle, wasActive, atSite]
    rw [leaves]
    exact .verlaesst nummeriert member (gemeldet_same now neuer grund) ended
  · have inactive : dispatch.aktiv = false := by simp [EinheitSiteDispatch.aktiv, wasActive]
    have row : Loest lage (lage.setDispatch dispatch.id (gemeldet now neuer grund)) :=
      .setDispatch nummeriert member (gemeldet_same now neuer grund) (ended.trans inactive.symm)
    refine row.trans (.setEinheit _ _ (position_id _ neuer site) fun e siteId located => ?_)
    simpa [position, idle, wasActive] using located

theorem melde_einOrt {akteur : Akteur} (inv : lage.EinOrt)
    (member : dispatch ∈ lage.dispatches) (atSite : site.id = dispatch.siteId) (open_ : dispatch.offen = true)
    (allowed : neuer ∈ uebergaenge dispatch.auftragsart dispatch.einheitStatus)
    (alone : neuer.aktiv = true →
      ∀ d ∈ lage.dispatches, d.aktiv = true → d.einheitId = dispatch.einheitId → d = dispatch) :
    (melde now akteur lage dispatch site neuer grund).2.EinOrt := by
  have written : ((lage.setDispatch dispatch.id (gemeldet now neuer grund)).setEinheit dispatch.einheitId fun e =>
      imEinsatz now (position dispatch.einheitStatus neuer site e)).EinOrt := by
    by_cases active : neuer.aktiv = true
    · exact melde_ankunft inv member atSite open_ active (alone active)
    · have idle : neuer.aktiv = false := by simpa using active
      have kind := (uebergaenge_spec allowed).2.resolve_left active
      exact inv.loest (melde_loest inv.nummeriert member atSite idle kind)
  unfold melde
  refine Lage.EinOrtAusser.loest ?_ (.aktualisiereSitePhase _ site.id)
  split
  · generalize pulled : zieheFertigeEinheitAb _ now akteur dispatch.id true = outcome
    obtain ⟨result, after⟩ := outcome
    exact written.loest (zieheFertigeEinheitAb_loest written.nummeriert pulled)
  · exact written

theorem setzeEinheitStatus_einOrt {lage' : Lage} {akteur : Akteur} {dispatchId : Nat}
    {meldung : Meldung} {result : Except Fehler StatusErgebnis} (inv : lage.EinOrt)
    (stimmig : ∀ d ∈ lage.dispatches, Stimmig d)
    (done : setzeEinheitStatus lage now akteur dispatchId meldung = (result, lage')) : lage'.EinOrt := by
  rcases setzeEinheitStatus_cases done with rfl |
    ⟨dispatch, site, neuer, other, between, found, -, kept, atSite, allowed, interrupted, rfl⟩
  · exact inv
  · have member := (mem_of_dispatch? found).1
    obtain ⟨inv', member', -, alone⟩ := unterbrich_einOrt inv member interrupted
    exact melde_einOrt inv' member' (site?_id atSite) (offen_of_allowed (stimmig dispatch member) kept allowed)
      allowed alone

/-- The invariant of the positions, with the consistent rows it needs. -/
structure Lage.Gueltig (lage : Lage) : Prop where
  einOrt : lage.EinOrt
  stimmig : ∀ d ∈ lage.dispatches, Stimmig d

theorem Neu.stimmig {vorgang : Vorgang} {d : EinheitSiteDispatch} (neu : Neu lage vorgang d) :
    Stimmig d := by
  have fresh := neu.frisch
  simp [Stimmig, fresh.status, fresh.beendetAt, EinheitStatus.beendet]

theorem step_stimmig (gueltig : lage.Gueltig) (vorgang : Vorgang) :
    ∀ d ∈ (step lage vorgang).dispatches, Stimmig d := by
  intro d' member
  obtain ⟨d, source, schritte⟩ := step_zeilen gueltig.einOrt.nummeriert vorgang d' member
  refine Schritte.stimmig schritte ?_
  rcases source with old | neu
  · exact gueltig.stimmig d old
  · exact neu.stimmig

theorem step_einOrt (gueltig : lage.Gueltig) (vorgang : Vorgang) : (step lage vorgang).EinOrt := by
  have inv := gueltig.einOrt
  have nummeriert := inv.nummeriert
  cases vorgang with
  | einheit e =>
    refine ⟨⟨?_, nummeriert.sites, nummeriert.dispatches⟩, inv.einer, fun e' member _ siteId located => ?_⟩
    · simp only [step, List.map_append, List.map_cons, List.map_nil, List.length_append, List.length_singleton,
        List.range'_concat, nummeriert.einheiten]
      rw [Nat.one_mul, Nat.add_comm 1]
    · rcases List.mem_append.mp member with old | new
      · exact inv.ort e' old not_false siteId located
      · rw [List.mem_singleton.mp new] at located
        cases located
  | site site =>
    refine ⟨⟨nummeriert.einheiten, ?_, nummeriert.dispatches⟩, inv.einer, inv.ort⟩
    simp only [step, List.map_append, List.map_cons, List.map_nil, List.length_append, List.length_singleton,
      List.range'_concat, nummeriert.sites]
    rw [Nat.one_mul, Nat.add_comm 1]
  | sector sector => exact ⟨⟨nummeriert.einheiten, nummeriert.sites, nummeriert.dispatches⟩, inv.einer, inv.ort⟩
  | disponiere => exact transaktion_of inv fun result lage' done => inv.loest (dispatchToSite_loest done)
  | vorOrt =>
    refine transaktion_of inv fun result lage' done => ?_
    rcases result with result | conflict
    · exact setVorOrtAtSite_einOrt (inv.ausser _) done
    · rw [(setVorOrtAtSite_conflict done).1]
      exact inv
  | verlege =>
    refine transaktion_of inv fun result lage' done => ?_
    rcases result with result | conflict
    · exact resolveVorOrtConflict_einOrt inv done
    · exact absurd done resolveVorOrtConflict_free
  | withdraw =>
    exact transaktion_of inv fun result lage' done => inv.loest (withdrawFromSite_loest nummeriert (.self lage) done)
  | status => exact transaktion_of inv fun result lage' done => setzeEinheitStatus_einOrt inv gueltig.stimmig done
  | oeffne => exact transaktion_of inv fun result lage' done => inv.loest (oeffneAuftragWieder_loest nummeriert done)
  | abziehen =>
    exact transaktion_of inv fun result lage' done => inv.loest (zieheFertigeEinheitAb_loest nummeriert done)
  | abschnitt => exact transaktion_of inv fun result lage' done => inv.loest (assignToSector_einheit done).loest
  | pool => exact transaktion_of inv fun result lage' done => inv.loest (moveToPool_einheit done).loest
  | ressource => exact transaktion_of inv fun result lage' done => inv.loest (setStatus_einheit done).loest
  | reaktiviere => exact transaktion_of inv fun result lage' done => inv.loest (reaktiviereEinheit_einheit done).loest
  | phase siteId neuePhase sortIndex => exact inv.loest (.setzeSitePhase lage siteId neuePhase sortIndex)
  | abschliessen =>
    exact transaktion_of inv fun result lage' done => inv.loest (einsatzAbschliessen_loest nummeriert done)
  | wiedereroeffnen siteId =>
    refine transaktion_of inv fun result lage' done => ?_
    obtain ⟨phase, rfl⟩ := einsatzWiedereroeffnen_nurSites done
    exact inv.loest (.setzeSitePhase lage siteId phase none)

theorem run_gueltig (vorgaenge : List Vorgang) : (run step {} vorgaenge).Gueltig :=
  run_invariant Lage.Gueltig (fun _ vorgang gueltig => ⟨step_einOrt gueltig vorgang, step_stimmig gueltig vorgang⟩)
    ⟨.leer, fun _ member => absurd member List.not_mem_nil⟩ vorgaenge

/-- After every sequence of requests a unit has at most one live dispatch with
an active status, and its position, where one is set, is the site of it. -/
theorem einheit_einOrt (vorgaenge : List Vorgang) :
    let lage := run step {} vorgaenge
    ∀ e ∈ lage.einheiten,
      (∀ d ∈ lage.dispatches, ∀ d' ∈ lage.dispatches, d.einheitId = e.id → d'.einheitId = e.id →
        d.offen = true → d'.offen = true → d.einheitStatus.aktiv = true → d'.einheitStatus.aktiv = true → d = d') ∧
      ∀ siteId, e.incidentSiteId = some siteId → ∃ d ∈ lage.dispatches, d.einheitId = e.id ∧ d.offen = true ∧
        d.einheitStatus.aktiv = true ∧ d.siteId = siteId := by
  intro lage e member
  have inv := (run_gueltig vorgaenge).einOrt
  refine ⟨fun d inside d' inside' ofUnit ofUnit' open_ open' active active' => ?_, fun siteId located => ?_⟩
  · exact inv.einer d inside d' inside' (aktiv_iff.mpr ⟨open_, active⟩) (aktiv_iff.mpr ⟨open', active'⟩)
      (ofUnit.trans ofUnit'.symm)
  · obtain ⟨d, inside, active, ofUnit, atSite⟩ := inv.ort e member not_false siteId located
    exact ⟨d, inside, ofUnit, (aktiv_iff.mp active).1, (aktiv_iff.mp active).2, atSite⟩

end Einsatzcockpit.Gsl
