import Einsatzcockpit.Gsl.EinOrt

namespace Einsatzcockpit.Gsl

variable {lage lage' : Lage} {siteId einheitId lageId : Nat} {now : Zeit} {akteur : Akteur} {result : Nat × Bool}
  {stand : List EinheitSiteDispatch} {d : EinheitSiteDispatch}

theorem transaktion_of {α : Type} {P : Lage → Prop} (unchanged : P lage) {wirkung : Wirkung α}
    (committed : ∀ result lage', wirkung = (.ok result, lage') → P lage') : P (transaktion lage wirkung) := by
  obtain ⟨result, lage'⟩ := wirkung
  cases result with
  | error fehler => exact unchanged
  | ok result => exact committed result lage' rfl

structure Loest (lage lage' : Lage) : Prop where
  weiter : Weiter lage lage'
  nummeriert : lage.Nummeriert → lage'.Nummeriert

namespace Loest

theorem refl (lage : Lage) : Loest lage lage := ⟨.refl lage, id⟩

theorem trans {a b c : Lage} (first : Loest a b) (second : Loest b c) : Loest a c :=
  ⟨first.weiter.trans second.weiter, second.nummeriert ∘ first.nummeriert⟩

theorem setzeSitePhase (lage : Lage) (siteId : Nat) (phase : SitePhase) (sortIndex : Option Int) :
    Loest lage (setzeSitePhase lage siteId phase sortIndex).2 :=
  ⟨.nurSites (setzeSitePhase_nurSites lage siteId phase sortIndex),
    fun nummeriert => nummeriert.setzeSitePhase siteId phase sortIndex⟩

theorem aktualisiereSitePhase (lage : Lage) (siteId : Nat) : Loest lage (aktualisiereSitePhase lage siteId).2 :=
  ⟨.nurSites (aktualisiereSitePhase_nurSites lage siteId),
    fun nummeriert => nummeriert.aktualisiereSitePhase siteId⟩

theorem setEinheit (lage : Lage) (id : Nat) {werte : LageEinheit → LageEinheit} (keeps : ∀ e, (werte e).id = e.id)
    (stays : ∀ e siteId, (werte e).incidentSiteId = some siteId → e.incidentSiteId = some siteId) :
    Loest lage (lage.setEinheit id werte) :=
  ⟨.setEinheit lage id keeps stays, fun nummeriert => nummeriert.setEinheit id keeps⟩

theorem setDispatch {lage : Lage} (nummeriert : lage.Nummeriert) {z : EinheitSiteDispatch}
    (member : z ∈ lage.dispatches) {werte : EinheitSiteDispatch → EinheitSiteDispatch}
    (same : ∀ d, SameOrder d (werte d)) (keeps : (werte z).aktiv = z.aktiv) :
    Loest lage (lage.setDispatch z.id werte) := by
  refine ⟨.setDispatch nummeriert member (same z) (fun active => keeps ▸ active) ?_,
    fun nummeriert => nummeriert.setDispatch z.id fun d => (same d).id⟩
  intro active ended
  rw [keeps, active] at ended
  cases ended

theorem verlaesst {lage : Lage} (nummeriert : lage.Nummeriert) {z : EinheitSiteDispatch}
    (member : z ∈ lage.dispatches) {werte : EinheitSiteDispatch → EinheitSiteDispatch}
    (same : ∀ d, SameOrder d (werte d)) (ended : (werte z).aktiv = false) :
    Loest lage ((lage.setDispatch z.id werte).setEinheit z.einheitId (verlaesst z.siteId)) := by
  refine ⟨verlaesst_weiter nummeriert member (same z) fun active => ?_, fun nummeriert => ?_⟩
  · simp [ended] at active
  · exact (nummeriert.setDispatch z.id fun d => (same d).id).setEinheit z.einheitId (verlaesst_id z.siteId)

end Loest

@[simp] theorem imEinsatz_id (now : Zeit) (e : LageEinheit) : (imEinsatz now e).id = e.id := by
  unfold imEinsatz
  split <;> rfl

@[simp] theorem imEinsatz_incidentSiteId (now : Zeit) (e : LageEinheit) :
    (imEinsatz now e).incidentSiteId = e.incidentSiteId := by
  unfold imEinsatz
  split <;> rfl

def NurEinheit (lage lage' : Lage) : Prop :=
  ∃ id werte, (∀ e, (werte e).id = e.id) ∧
    (∀ e siteId, (werte e).incidentSiteId = some siteId → e.incidentSiteId = some siteId) ∧
    lage' = lage.setEinheit id werte

theorem NurEinheit.loest (einheit : NurEinheit lage lage') : Loest lage lage' := by
  obtain ⟨id, werte, keeps, stays, rfl⟩ := einheit
  exact .setEinheit lage id keeps stays

theorem NurEinheit.dispatches (einheit : NurEinheit lage lage') :
    lage'.dispatches = lage.dispatches := by
  obtain ⟨id, werte, -, -, rfl⟩ := einheit
  rfl

section Einheit

variable {lage lage' : Lage} {now : Zeit} {einheitId lageId : Nat} {result : Unit}

theorem assignToSector_einheit {sectorId : Nat}
    (done : assignToSector lage now einheitId lageId sectorId = (.ok result, lage')) : NurEinheit lage lage' := by
  unfold assignToSector at done
  split at done
  · cases done
  · split at done
    · cases done
      refine ⟨einheitId, _, fun e => ?_, fun e siteId located => ?_, rfl⟩
      · exact imEinsatz_id now _
      · simp at located
    · cases done

theorem moveToPool_einheit (done : moveToPool lage now einheitId lageId = (.ok result, lage')) :
    NurEinheit lage lage' := by
  unfold moveToPool at done
  split at done
  · cases done
  · cases done
    refine ⟨einheitId, _, fun e => ?_, fun e siteId located => ?_, rfl⟩
    · dsimp only
      split <;> rfl
    · dsimp only at located
      split at located <;> cases located

theorem zeitstempel_keeps (now : Zeit) (status : RessourceStatus) (e : LageEinheit) :
    (zeitstempel now status e).id = e.id ∧ (zeitstempel now status e).incidentSiteId = e.incidentSiteId := by
  cases status <;> exact ⟨rfl, rfl⟩

theorem setStatus_einheit {status : RessourceStatus}
    (done : setStatus lage now einheitId lageId status = (.ok result, lage')) : NurEinheit lage lage' := by
  unfold setStatus at done
  split at done
  · cases done
  · dsimp only at done
    split at done
    · cases done
    · cases done
      refine ⟨einheitId, _, fun e => ?_, fun e siteId located => ?_, rfl⟩
      · split <;> split <;> simp [zeitstempel_keeps]
      · split at located <;> split at located <;> simpa [zeitstempel_keeps] using located

theorem reaktiviereEinheit_einheit (done : reaktiviereEinheit lage now einheitId lageId = (.ok result, lage')) :
    NurEinheit lage lage' := by
  unfold reaktiviereEinheit at done
  split at done
  · cases done
  · split at done
    · cases done
    · split at done
      · cases done
      · cases done
        refine ⟨einheitId, _, fun e => ?_, fun e siteId located => ?_, rfl⟩
        · rfl
        · cases located

end Einheit

theorem einsatzWiedereroeffnen_nurSites {result : Unit}
    (done : einsatzWiedereroeffnen lage siteId = (.ok result, lage')) :
    ∃ phase, lage' = (setzeSitePhase lage siteId phase none).2 := by
  unfold einsatzWiedereroeffnen at done
  split at done
  · cases done
  · split at done
    · cases done
    · cases done
      exact ⟨_, rfl⟩

theorem dispatchToSite_loest
    {auftrag : Option String} {auftragsart : String} {reihenfolge : Option Int}
    (done : dispatchToSite lage now akteur einheitId lageId siteId auftrag auftragsart reihenfolge =
      (.ok result, lage')) : Loest lage lage' := by
  unfold dispatchToSite at done
  split at done
  · cases done
  · next art text rang checked =>
    cases done
    have added : Loest lage (lage.addDispatch { neueDisposition lage now akteur einheitId siteId with
        auftrag := text, auftragsart := art, reihenfolge := rang }) :=
      ⟨.addDispatch lage rfl, fun nummeriert => nummeriert.addDispatch rfl⟩
    refine (added.trans (.setEinheit _ einheitId (fun e => ?_) fun e located => ?_)).trans (.aktualisiereSitePhase _ siteId)
    · split <;> simp
    · split <;> simp

theorem oeffneAuftragWieder_loest (nummeriert : lage.Nummeriert) {dispatchId : Nat}
    {result : Bool} (done : oeffneAuftragWieder lage now dispatchId = (.ok result, lage')) : Loest lage lage' := by
  unfold oeffneAuftragWieder at done
  split at done
  · cases done
  · next dispatch found =>
    split at done
    · cases done
    · next ended =>
      cases done
      obtain ⟨member, rfl⟩ := mem_of_dispatch? found
      have row : Loest lage (lage.setDispatch dispatch.id (wiedereroeffnet now)) := by
        refine .setDispatch nummeriert member (fun d => ⟨rfl, rfl, rfl, rfl⟩) ?_
        have inactive : dispatch.aktiv = false := by
          simp [EinheitSiteDispatch.aktiv, EinheitSiteDispatch.offen, ended]
        rw [inactive]
        simp [EinheitSiteDispatch.aktiv, EinheitStatus.aktiv, wiedereroeffnet]
      exact row.trans (.aktualisiereSitePhase _ dispatch.siteId)

theorem zieheFertigeEinheitAb_cases {dispatchId : Nat} {automatisch : Bool} {result : Except Fehler Bool}
    (done : zieheFertigeEinheitAb lage now akteur dispatchId automatisch = (result, lage')) :
    lage' = lage ∨ ∃ dispatch ∈ lage.dispatches, dispatch.id = dispatchId ∧ dispatch.beendetAt.isSome = true ∧
      (lage' = lage.setDispatch dispatchId (abgezogen now akteur automatisch) ∨
        lage' = (lage.setDispatch dispatchId (abgezogen now akteur automatisch)).setEinheit dispatch.einheitId
          (verlaesst dispatch.siteId)) := by
  unfold zieheFertigeEinheitAb at done
  split at done
  · cases done
    exact .inl rfl
  · next dispatch found =>
    obtain ⟨member, atId⟩ := mem_of_dispatch? found
    split at done
    · cases done
      exact .inl rfl
    · split at done
      · cases done
        exact .inl rfl
      · next ended =>
        split at done
        · cases done
          exact .inl rfl
        · cases done
          refine .inr ⟨dispatch, member, atId, by simpa [Option.isSome_iff_ne_none] using ended, ?_⟩
          split
          · exact .inl rfl
          · exact .inr rfl

theorem zieheFertigeEinheitAb_loest (nummeriert : lage.Nummeriert)
    {dispatchId : Nat} {automatisch : Bool} {result : Except Fehler Bool}
    (done : zieheFertigeEinheitAb lage now akteur dispatchId automatisch = (result, lage')) : Loest lage lage' := by
  rcases zieheFertigeEinheitAb_cases done with rfl | ⟨dispatch, member, rfl, -, written⟩
  · exact .refl _
  · have row : Loest lage (lage.setDispatch dispatch.id (abgezogen now akteur automatisch)) :=
      .setDispatch nummeriert member (fun d => ⟨rfl, rfl, rfl, rfl⟩) rfl
    rcases written with rfl | rfl
    · exact row
    · refine row.trans (.setEinheit _ _ (verlaesst_id _) fun e siteId stays => ?_)
      exact (verlaesst_stays stays).1

theorem zurueckzuziehen_mem
    {auftragsart : Option Auftragsart}
    (found : zurueckzuziehen stand einheitId siteId auftragsart = some d) :
    d ∈ stand ∧ d.einheitId = einheitId ∧ d.siteId = siteId := by
  have member : d ∈ stand.filter fun d => d.einheitId == einheitId && d.siteId == siteId && d.withdrawnAt.isNone &&
      d.abgezogenAt.isNone && auftragsart.all fun art => d.auftragsart == art := by
    unfold zurueckzuziehen at found
    rcases Option.or_eq_some_iff.mp found with first | ⟨-, first⟩
    · exact List.mem_of_find?_eq_some first
    · exact List.mem_of_head? first
  obtain ⟨inside, fits⟩ := List.mem_filter.mp member
  simp only [Bool.and_eq_true, beq_iff_eq] at fits
  exact ⟨inside, fits.1.1.1.1, fits.1.1.1.2⟩

def Kennt (stand : List EinheitSiteDispatch) (lage : Lage) : Prop :=
  ∀ d ∈ stand, ∃ row ∈ lage.dispatches, SameOrder d row

theorem Kennt.self (lage : Lage) : Kennt lage.dispatches lage := fun d member => ⟨d, member, .refl d⟩

theorem Kennt.loest (kennt : Kennt stand lage)
    (loest : Loest lage lage') : Kennt stand lage' := by
  intro d member
  obtain ⟨row, inside, same⟩ := kennt d member
  obtain ⟨row', inside', same'⟩ := loest.weiter.behalten row inside
  exact ⟨row', inside', same.trans same'⟩

theorem withdrawFromSite_cases {grund : Option String} {auftragsart : Option Auftragsart} {result : Except Fehler Bool}
    (done : withdrawFromSite lage stand now akteur einheitId lageId siteId grund auftragsart = (result, lage')) :
    lage' = lage ∨ ∃ dispatch ∈ stand, (∃ abgezogen, zieheFertigeEinheitAb lage now akteur dispatch.id false = (abgezogen, lage')) ∨
      lage' = (aktualisiereSitePhase ((lage.setDispatch dispatch.id (zurueckgezogen now akteur grund)).setEinheit
        dispatch.einheitId (verlaesst dispatch.siteId)) dispatch.siteId).2 := by
  unfold withdrawFromSite at done
  split at done
  · cases done
    exact .inl rfl
  · split at done
    · cases done
      exact .inl rfl
    · cases done
      exact .inl rfl
    · next dispatch _ found =>
      obtain ⟨inside, rfl, rfl⟩ := zurueckzuziehen_mem found
      refine .inr ⟨dispatch, inside, ?_⟩
      split at done
      · split at done
        · next abziehen =>
          cases done
          exact .inl ⟨_, abziehen⟩
        · next abziehen =>
          cases done
          exact .inl ⟨_, abziehen⟩
      · cases done
        exact .inr rfl

theorem withdrawFromSite_loest (nummeriert : lage.Nummeriert) (kennt : Kennt stand lage) {grund : Option String} {auftragsart : Option Auftragsart}
    {result : Except Fehler Bool}
    (done : withdrawFromSite lage stand now akteur einheitId lageId siteId grund auftragsart = (result, lage')) :
    Loest lage lage' := by
  rcases withdrawFromSite_cases done with rfl | ⟨dispatch, inside, ⟨_, abziehen⟩ | rfl⟩
  · exact .refl _
  · exact zieheFertigeEinheitAb_loest nummeriert abziehen
  · obtain ⟨row, member, same⟩ := kennt dispatch inside
    refine .trans ?_ (.aktualisiereSitePhase _ dispatch.siteId)
    rw [← same.id, ← same.einheitId, ← same.siteId]
    exact .verlaesst nummeriert member (fun d => ⟨rfl, rfl, rfl, rfl⟩) (by
      simp [EinheitSiteDispatch.aktiv, EinheitSiteDispatch.offen, zurueckgezogen])

section Abschluss

variable {P : Lage → Prop} (withdraw : ∀ {lage lage' : Lage} {stand : List EinheitSiteDispatch} {einheitId lageId siteId : Nat}
  {grund : Option String} {auftragsart : Option Auftragsart} {result : Except Fehler Bool}, lage.Nummeriert → Kennt stand lage → P lage →
    withdrawFromSite lage stand now akteur einheitId lageId siteId grund auftragsart = (result, lage') → P lage')
include withdraw

theorem zieheZurueck_rule {flush : Bool} {site : IncidentSite} {aktive : List EinheitSiteDispatch}
    (nummeriert : lage.Nummeriert) (kennt : Kennt stand lage) (start : P lage) {result : Except Fehler Unit}
    (done : zieheZurueck flush now akteur site stand aktive lage = (result, lage')) : P lage' := by
  induction aktive generalizing stand lage with
  | nil =>
    cases done
    exact start
  | cons dispatch rest ih =>
    unfold zieheZurueck at done
    split at done
    · next withdrawn =>
      cases done
      exact withdraw nummeriert kennt start withdrawn
    · next ok between withdrawn =>
      have first := withdrawFromSite_loest nummeriert kennt withdrawn
      refine ih (first.nummeriert nummeriert) ?_ (withdraw nummeriert kennt start withdrawn) done
      split
      · exact .self between
      · exact kennt.loest first

/-- What every withdrawal keeps and the closing of the site keeps, `einsatz_abschliessen` keeps. -/
theorem einsatzAbschliessen_rule (closes : ∀ {lage}, P lage → P (setzeSitePhase lage siteId .erledigt none).2)
    (nummeriert : lage.Nummeriert) (start : P lage) {flush aktiveZurueckziehen : Bool} {result : Except Fehler Unit}
    (done : einsatzAbschliessen lage flush now akteur siteId aktiveZurueckziehen = (result, lage')) : P lage' := by
  unfold einsatzAbschliessen at done
  split at done
  · cases done
    exact start
  · dsimp only at done
    split at done
    · cases done
      exact start
    · split at done
      · next withdrawn =>
        cases done
        exact zieheZurueck_rule withdraw nummeriert (.self lage) start withdrawn
      · next withdrawn =>
        cases done
        exact closes (zieheZurueck_rule withdraw nummeriert (.self lage) start withdrawn)

end Abschluss

theorem einsatzAbschliessen_loest (nummeriert : lage.Nummeriert) {flush aktiveZurueckziehen : Bool} {result : Except Fehler Unit}
    (done : einsatzAbschliessen lage flush now akteur siteId aktiveZurueckziehen = (result, lage')) : Loest lage lage' :=
  einsatzAbschliessen_rule (P := Loest lage) (fun numbered kennt held step => held.trans (withdrawFromSite_loest numbered kennt step))
    (fun held => held.trans (.setzeSitePhase _ siteId _ none)) nummeriert (.refl lage) done

theorem Lage.EinOrtAusser.loest {ankommend : Nat → Prop} (inv : lage.EinOrtAusser ankommend)
    (loest : Loest lage lage') : lage'.EinOrtAusser ankommend :=
  inv.weiter loest.weiter (loest.nummeriert inv.nummeriert)

theorem vorhandene_some
    (found : vorhandene lage einheitId siteId = some d) :
    d ∈ lage.dispatches ∧ offeneAn einheitId siteId d = true ∧
      ∀ other ∈ lage.dispatches, offeneAn einheitId siteId other = true → other.einheitStatus.aktiv = true →
        d.einheitStatus.aktiv = true := by
  unfold vorhandene at found
  dsimp only at found
  rcases Option.or_eq_some_iff.mp found with first | ⟨none, first⟩
  · obtain ⟨member, open_⟩ := List.mem_filter.mp (List.mem_of_find?_eq_some first)
    have active : d.einheitStatus.aktiv = true := by simpa using List.find?_some first
    exact ⟨member, open_, fun _ _ _ _ => active⟩
  · obtain ⟨member, open_⟩ := List.mem_filter.mp (List.mem_of_head? first)
    refine ⟨member, open_, fun other inside fits active => ?_⟩
    have idle := List.find?_eq_none.mp none other (List.mem_filter.mpr ⟨inside, fits⟩)
    exact absurd active idle

theorem vorhandene_none (none : vorhandene lage einheitId siteId = none) :
    ∀ d ∈ lage.dispatches, offeneAn einheitId siteId d = false := by
  intro d member
  by_contra open_
  have inside : d ∈ lage.dispatches.filter (offeneAn einheitId siteId) :=
    List.mem_filter.mpr ⟨member, by simpa using open_⟩
  unfold vorhandene at none
  dsimp only at none
  have empty := List.head?_eq_none_iff.mp (Option.or_eq_none_iff.mp none).2
  rw [empty] at inside
  cases inside

theorem aktiv_iff :
    d.aktiv = true ↔ d.offen = true ∧ d.einheitStatus.aktiv = true := by
  simp [EinheitSiteDispatch.aktiv]

theorem vorOrt_aktiv (open_ : d.offen = true) :
    (vorOrt now d).aktiv = true := by
  refine aktiv_iff.mpr ⟨open_, ?_⟩
  unfold vorOrt
  dsimp only
  split <;> rfl

@[simp] theorem angekommen_id (now : Zeit) (site : IncidentSite) (e : LageEinheit) :
    (angekommen now site e).id = e.id := by
  simp [angekommen]

theorem vorOrt_einOrt (now : Zeit) {site : IncidentSite} {z : EinheitSiteDispatch}
    (inv : lage.EinOrtAusser (· = z.einheitId)) (member : z ∈ lage.dispatches) (atSite : z.siteId = site.id)
    (open_ : z.offen = true)
    (alone : ∀ d ∈ lage.dispatches, d.aktiv = true → d.einheitId = z.einheitId → d = z) :
    ((lage.setDispatch z.id (vorOrt now)).setEinheit z.einheitId (angekommen now site)).EinOrt := by
  have same : ∀ d, SameOrder d (vorOrt now d) := fun d => ⟨rfl, rfl, rfl, rfl⟩
  refine inv.ankunft member alone same (vorOrt_aktiv open_) (angekommen_id now site) fun e => ?_
  simp [angekommen, atSite]

theorem setVorOrtAtSite_einOrt
    (inv : lage.EinOrtAusser (· = einheitId))
    (done : setVorOrtAtSite lage now akteur einheitId lageId siteId = (.ok (.inl result), lage')) :
    lage'.EinOrt := by
  unfold setVorOrtAtSite at done
  split at done
  · cases done
  · cases done
  · next e site _ siteFound =>
    have siteId_eq : site.id = siteId := site?_id (getSite_ok siteFound).1
    split at done
    · cases done
    · next free =>
      have nowhere : ∀ d ∈ lage.dispatches, d.aktiv = true → d.einheitId = einheitId → d.siteId = siteId := by
        intro d member active ofUnit
        by_contra elsewhere
        refine List.find?_eq_none.mp free d member ?_
        simp [aktivAnderswo, ofUnit, elsewhere, active]
      dsimp only at done
      split at done
      · next dispatch found =>
        cases done
        obtain ⟨member, fits, first⟩ := vorhandene_some found
        simp only [offeneAn, Bool.and_eq_true, beq_iff_eq] at fits
        obtain ⟨⟨ofUnit, atSite⟩, open_⟩ := fits
        subst ofUnit
        refine (vorOrt_einOrt now inv member (atSite.trans siteId_eq.symm) open_ ?_).loest (.aktualisiereSitePhase _ siteId)
        intro d inside active sameUnit
        have fitsToo : offeneAn dispatch.einheitId siteId d = true := by
          simp [offeneAn, sameUnit, nowhere d inside active sameUnit, (aktiv_iff.mp active).1]
        have activeToo := first d inside fitsToo (aktiv_iff.mp active).2
        exact inv.einer d inside dispatch member active (aktiv_iff.mpr ⟨open_, activeToo⟩) sameUnit
      · next missing =>
        cases done
        have added : (lage.addDispatch (neueDisposition lage now akteur einheitId siteId)).EinOrtAusser (· = einheitId) :=
          inv.weiter (.addDispatch lage rfl) (inv.nummeriert.addDispatch rfl)
        have member : neueDisposition lage now akteur einheitId siteId ∈
            (lage.addDispatch (neueDisposition lage now akteur einheitId siteId)).dispatches :=
          (mem_addDispatch lage).mpr (Or.inr rfl)
        refine (vorOrt_einOrt now added member siteId_eq.symm rfl ?_).loest (.aktualisiereSitePhase _ siteId)
        · intro d inside active ofUnit
          rcases (mem_addDispatch lage).mp inside with old | new
          · have fits := vorhandene_none missing d old
            simp [offeneAn, nowhere d old active ofUnit, (aktiv_iff.mp active).1] at fits
            exact absurd ofUnit fits
          · exact new

theorem setVorOrtAtSite_conflict
    {conflict : Nat} (done : setVorOrtAtSite lage now akteur einheitId lageId siteId = (.ok (.inr conflict), lage')) :
    lage' = lage ∧ ∃ d ∈ lage.dispatches, aktivAnderswo einheitId siteId d = true := by
  unfold setVorOrtAtSite at done
  split at done
  · cases done
  · cases done
  · split at done
    · next d found =>
      cases done
      exact ⟨rfl, d, List.mem_of_find?_eq_some found, List.find?_some found⟩
    · cases done

theorem verlege_ausser {alte : List EinheitSiteDispatch}
    (inv : lage.EinOrtAusser (· = einheitId))
    (kennt : ∀ d ∈ alte, d.einheitId = einheitId ∧ ∃ row ∈ lage.dispatches, SameOrder d row) :
    (verlege now alte lage).EinOrtAusser (· = einheitId) := by
  induction alte generalizing lage with
  | nil => exact inv
  | cons d rest ih =>
    obtain ⟨ofUnit, row, member, same⟩ := kennt d (List.mem_cons_self ..)
    have ended : ∀ d : EinheitSiteDispatch, ({ d with withdrawnAt := some now } : EinheitSiteDispatch).aktiv = false := by
      intro d
      simp [EinheitSiteDispatch.aktiv, EinheitSiteDispatch.offen]
    have rowUnit : row.einheitId = einheitId := same.einheitId.trans ofUnit
    have written : (lage.setDispatch d.id fun d => { d with withdrawnAt := some now }).EinOrtAusser (· = einheitId) := by
      rw [← same.id]
      refine ⟨inv.nummeriert.setDispatch row.id fun _ => rfl, ?_, ?_⟩
      · intro a inside b inside' active active' sameUnit
        obtain ⟨a₀, isIn, resultA⟩ := (mem_setDispatch lage row.id).mp inside
        obtain ⟨b₀, isIn', resultB⟩ := (mem_setDispatch lage row.id).mp inside'
        split at resultA
        · simp [← resultA, ended] at active
        · split at resultB
          · simp [← resultB, ended] at active'
          · subst resultA resultB
            exact inv.einer a₀ isIn b₀ isIn' active active' sameUnit
      · intro e inside other siteId located
        obtain ⟨z, isIn, active, ofE, atSite⟩ := inv.ort e inside other siteId located
        refine ⟨z, (mem_setDispatch lage row.id).mpr ⟨z, isIn, if_neg fun atRow => other ?_⟩, active, ofE, atSite⟩
        rw [inv.nummeriert.dispatch_inj isIn member atRow] at ofE
        exact ofE.symm.trans rowUnit
    have phased := written.loest (.aktualisiereSitePhase _ d.siteId)
    refine ih phased fun d' member' => ?_
    obtain ⟨ofUnit', row', inside', same'⟩ := kennt d' (List.mem_cons_of_mem _ member')
    refine ⟨ofUnit', ?_⟩
    rw [aktualisiereSitePhase_dispatches]
    by_cases atId : row'.id = d.id
    · exact ⟨_, (mem_setDispatch lage d.id).mpr ⟨row', inside', if_pos atId⟩, same'.trans ⟨rfl, rfl, rfl, rfl⟩⟩
    · exact ⟨row', (mem_setDispatch lage d.id).mpr ⟨row', inside', if_neg atId⟩, same'⟩

theorem verlege_aktiv {alte : List EinheitSiteDispatch}
    (member : d ∈ (verlege now alte lage).dispatches) (active : d.aktiv = true) :
    d ∈ lage.dispatches ∧ ∀ a ∈ alte, d.id ≠ a.id := by
  induction alte generalizing lage with
  | nil => exact ⟨member, fun a none => absurd none List.not_mem_nil⟩
  | cons a rest ih =>
    obtain ⟨inside, others⟩ := ih member
    rw [aktualisiereSitePhase_dispatches] at inside
    obtain ⟨old, isIn, result⟩ := (mem_setDispatch lage a.id).mp inside
    split at result
    · subst result
      simp [EinheitSiteDispatch.aktiv, EinheitSiteDispatch.offen] at active
    · next other =>
      subst result
      exact ⟨isIn, List.forall_mem_cons.mpr ⟨other, others⟩⟩

theorem resolveVorOrtConflict_free
    {conflict : Nat} :
    resolveVorOrtConflict lage now akteur einheitId lageId siteId ≠ (.ok (.inr conflict), lage') := by
  intro done
  unfold resolveVorOrtConflict at done
  split at done
  · cases done
  · obtain ⟨-, d, inside, fits⟩ := setVorOrtAtSite_conflict done
    have active : d.aktiv = true := by
      simp only [aktivAnderswo, Bool.and_eq_true] at fits
      exact fits.2
    obtain ⟨old, withdrawn⟩ := verlege_aktiv inside active
    exact withdrawn d (List.mem_filter.mpr ⟨old, fits⟩) rfl

theorem resolveVorOrtConflict_einOrt (inv : lage.EinOrt)
    (done : resolveVorOrtConflict lage now akteur einheitId lageId siteId = (.ok (.inl result), lage')) :
    lage'.EinOrt := by
  unfold resolveVorOrtConflict at done
  split at done
  · cases done
  · refine setVorOrtAtSite_einOrt (verlege_ausser (inv.ausser _) fun d member => ?_) done
    obtain ⟨inside, fits⟩ := List.mem_filter.mp member
    simp only [aktivAnderswo, Bool.and_eq_true, beq_iff_eq] at fits
    exact ⟨fits.1.1, d, inside, .refl d⟩

end Einsatzcockpit.Gsl
