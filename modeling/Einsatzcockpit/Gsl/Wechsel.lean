import Einsatzcockpit.Gsl.Bewegung

namespace Einsatzcockpit.Gsl

@[simp] theorem position_id (alter neuer : EinheitStatus) (site : IncidentSite) (e : LageEinheit) :
    (position alter neuer site e).id = e.id := by
  unfold position
  split
  · rfl
  · split
    · exact verlaesst_id site.id e
    · rfl

/-- The report that `setze_einheit_status` accepts: its order and the new status. -/
def angenommen (lage : Lage) (now : Zeit) (dispatchId : Nat) (meldung : Meldung) :
    Option (EinheitSiteDispatch × EinheitStatus) :=
  match lage.dispatch? dispatchId with
  | none => none
  | some dispatch =>
    if dispatch.withdrawnAt.isSome then none
    else if meldung.auftragVersion.any (· != dispatch.version) then none
    else if meldung.neuerStatus = dispatch.einheitStatus.wert then none
    else
      match lage.site? dispatch.siteId with
      | none => none
      | some site =>
        match pruefeUebergang site dispatch meldung with
        | .error _ => none
        | .ok neuer =>
          match unterbrich now lage dispatch neuer meldung with
          | .error _ => none
          | .ok _ => some (dispatch, neuer)

section Operations

variable {oeffnet : Nat → Prop} {neu : EinheitSiteDispatch → Prop} {lage lage' : Lage} {now : Zeit} {akteur : Akteur}

variable {dispatchId einheitId lageId siteId : Nat} {result : Except Fehler Bool} {site : IncidentSite}
  {dispatch : EinheitSiteDispatch} {neuer : EinheitStatus} {meldung : Meldung}

theorem zieheFertigeEinheitAb_zeilen (nummeriert : lage.Nummeriert) {automatisch : Bool}
    (done : zieheFertigeEinheitAb lage now akteur dispatchId automatisch = (result, lage')) :
    Zeilen oeffnet neu lage lage' := by
  rcases zieheFertigeEinheitAb_cases done with rfl | ⟨dispatch, member, rfl, ended, written⟩
  · exact .refl _
  · have row : Zeilen oeffnet neu lage (lage.setDispatch dispatch.id (abgezogen now akteur automatisch)) := by
      refine .setDispatch dispatch.id fun d inside atId => .abgezogen now akteur automatisch ?_
      rwa [nummeriert.dispatch_inj inside member atId]
    rcases written with rfl | rfl
    · exact row
    · exact row.trans (.of_same rfl)

theorem withdrawFromSite_zeilen (nummeriert : lage.Nummeriert) {stand : List EinheitSiteDispatch}
    {grund : Option String} {auftragsart : Option Auftragsart}
    (done : withdrawFromSite lage stand now akteur einheitId lageId siteId grund auftragsart = (result, lage')) :
    Zeilen oeffnet neu lage lage' := by
  rcases withdrawFromSite_cases done with rfl | ⟨dispatch, -, ⟨_, abziehen⟩ | rfl⟩
  · exact .refl _
  · exact zieheFertigeEinheitAb_zeilen nummeriert abziehen
  · have row : Zeilen oeffnet neu lage (lage.setDispatch dispatch.id (zurueckgezogen now akteur grund)) :=
      .setDispatch dispatch.id fun d _ _ => .zurueckgezogen now akteur grund
    exact (row.trans (.of_same rfl)).trans (.aktualisiereSitePhase _ dispatch.siteId)

theorem einsatzAbschliessen_zeilen (nummeriert : lage.Nummeriert) {flush aktiveZurueckziehen : Bool}
    {result : Except Fehler Unit}
    (done : einsatzAbschliessen lage flush now akteur siteId aktiveZurueckziehen = (result, lage')) :
    Zeilen oeffnet neu lage lage' :=
  einsatzAbschliessen_rule (P := Zeilen oeffnet neu lage)
    (fun numbered _ held step => held.trans (withdrawFromSite_zeilen numbered step))
    (fun held => held.trans (.setzeSitePhase _ siteId _ none)) nummeriert (.refl lage) done

theorem unterbrich_cases {other : Option Nat} (done : unterbrich now lage dispatch neuer meldung = .ok (other, lage')) :
    lage' = lage ∧ (neuer.aktiv = true → anderer lage dispatch = none) ∨
      ∃ a ∈ lage.dispatches, neuer.aktiv = true ∧ anderer lage dispatch = some a ∧
        (a.einheitId = dispatch.einheitId ∧ a.id ≠ dispatch.id) ∧ a.aktiv = true ∧
          lage' = (lage.setDispatch a.id (unterbrochen now)).setEinheit dispatch.einheitId (verlaesst a.siteId) := by
  unfold unterbrich at done
  split at done
  · next idle =>
    cases done
    exact .inl ⟨rfl, fun active => by simp [active] at idle⟩
  · next active =>
    split at done
    · next free =>
      cases done
      exact .inl ⟨rfl, fun _ => free⟩
    · next a found =>
      have fits := List.find?_some found
      simp only [Bool.and_eq_true, beq_iff_eq, bne_iff_ne] at fits
      split at done
      · cases done
      · cases done
        exact .inr ⟨a, List.mem_of_find?_eq_some found, by simpa using active, found, fits.1, fits.2, rfl⟩

theorem unterbrich_zeilen
    {other : Option Nat} (nummeriert : lage.Nummeriert)
    (done : unterbrich now lage dispatch neuer meldung = .ok (other, lage')) : Zeilen oeffnet neu lage lage' := by
  rcases unterbrich_cases done with ⟨rfl, -⟩ | ⟨a, inside, -, -, -, active, rfl⟩
  · exact .refl _
  · have row : Zeilen oeffnet neu lage (lage.setDispatch a.id (unterbrochen now)) := by
      refine .setDispatch a.id fun d member atId => .unterbrochen now ?_
      rwa [nummeriert.dispatch_inj member inside atId]
    exact row.trans (.of_same rfl)

section

variable (nummeriert : lage.Nummeriert) (member : dispatch ∈ lage.dispatches)
include nummeriert member

theorem melde_zeilen
    {grund : Option String}
    (kept : dispatch.withdrawnAt = none) (allowed : neuer ∈ uebergaenge dispatch.auftragsart dispatch.einheitStatus) :
    Zeilen oeffnet neu lage (melde now akteur lage dispatch site neuer grund).2 := by
  have row : Zeilen oeffnet neu lage (lage.setDispatch dispatch.id (gemeldet now neuer grund)) := by
    refine .setDispatch dispatch.id fun d inside atId => ?_
    rw [nummeriert.dispatch_inj inside member atId]
    exact .gemeldet now neuer grund kept allowed
  unfold melde
  refine .trans ?_ (.aktualisiereSitePhase _ site.id)
  split
  · generalize pulled : zieheFertigeEinheitAb _ now akteur dispatch.id true = outcome
    obtain ⟨result, after⟩ := outcome
    have keeps : ∀ d, (gemeldet now neuer grund d).id = d.id := fun _ => rfl
    have moves : ∀ e, (imEinsatz now (position dispatch.einheitStatus neuer site e)).id = e.id := fun e => by simp
    have numbered := (nummeriert.setDispatch dispatch.id keeps).setEinheit dispatch.einheitId moves
    have last : Zeilen oeffnet neu _ after := zieheFertigeEinheitAb_zeilen numbered pulled
    exact (row.trans (.of_same rfl)).trans last
  · exact row.trans (.of_same rfl)

theorem unterbrich_keeps
    {other : Option Nat}
    (done : unterbrich now lage dispatch neuer meldung = .ok (other, lage')) :
    lage'.Nummeriert ∧ dispatch ∈ lage'.dispatches ∧ lage'.sites = lage.sites := by
  rcases unterbrich_cases done with ⟨rfl, -⟩ | ⟨a, -, -, -, ⟨-, differs⟩, -, rfl⟩
  · exact ⟨nummeriert, member, rfl⟩
  · refine ⟨?_, (mem_setDispatch lage a.id).mpr ⟨dispatch, member, if_neg differs.symm⟩, rfl⟩
    have keeps : ∀ d, (unterbrochen now d).id = d.id := fun _ => rfl
    exact (nummeriert.setDispatch a.id keeps).setEinheit _ (verlaesst_id a.siteId)

end

theorem angenommen_eq_some {after : Option Nat × Lage} (found : lage.dispatch? dispatchId = some dispatch)
    (kept : ¬ dispatch.withdrawnAt.isSome = true) (current : ¬ meldung.auftragVersion.any (· != dispatch.version) = true)
    (changes : ¬ meldung.neuerStatus = dispatch.einheitStatus.wert) (atSite : lage.site? dispatch.siteId = some site)
    (allowed : pruefeUebergang site dispatch meldung = .ok neuer)
    (interrupted : unterbrich now lage dispatch neuer meldung = .ok after) :
    angenommen lage now dispatchId meldung = some (dispatch, neuer) := by
  unfold angenommen
  rw [found]
  dsimp only
  rw [if_neg kept, if_neg current, if_neg changes, atSite]
  dsimp only
  rw [allowed]
  dsimp only
  rw [interrupted]


/-- A report changes nothing, or it writes through `unterbrich` and `melde`. -/
theorem setzeEinheitStatus_cases {result : Except Fehler StatusErgebnis}
    (done : setzeEinheitStatus lage now akteur dispatchId meldung = (result, lage')) :
    lage' = lage ∨ ∃ dispatch site neuer other between, lage.dispatch? dispatchId = some dispatch ∧
      angenommen lage now dispatchId meldung = some (dispatch, neuer) ∧
      dispatch.withdrawnAt = none ∧ lage.site? dispatch.siteId = some site ∧
      neuer ∈ uebergaenge dispatch.auftragsart dispatch.einheitStatus ∧
      unterbrich now lage dispatch neuer meldung = .ok (other, between) ∧
      lage' = (melde now akteur between dispatch site neuer meldung.grund).2 := by
  unfold setzeEinheitStatus at done
  split at done
  · cases done
    exact Or.inl rfl
  · next dispatch found =>
    split at done
    · cases done
      exact Or.inl rfl
    · next kept =>
      split at done
      · cases done
        exact Or.inl rfl
      · next current =>
        split at done
        · cases done
          exact Or.inl rfl
        · next changes =>
          split at done
          · cases done
            exact Or.inl rfl
          · next site atSite =>
            split at done
            · cases done
              exact Or.inl rfl
            · next neuer allowed =>
              split at done
              · cases done
                exact Or.inl rfl
              · next other between interrupted =>
                cases done
                exact Or.inr ⟨dispatch, site, neuer, other, between, found,
                  angenommen_eq_some found kept current changes atSite allowed interrupted, by simpa using kept, atSite,
                  pruefeUebergang_ok allowed, interrupted, rfl⟩

theorem setzeEinheitStatus_zeilen (nummeriert : lage.Nummeriert)
    {result : Except Fehler StatusErgebnis}
    (done : setzeEinheitStatus lage now akteur dispatchId meldung = (result, lage')) :
    Zeilen oeffnet neu lage lage' := by
  rcases setzeEinheitStatus_cases done with rfl |
    ⟨dispatch, site, neuer, other, between, found, -, kept, atSite, allowed, interrupted, rfl⟩
  · exact .refl _
  · obtain ⟨numbered, member, -⟩ := unterbrich_keeps nummeriert (mem_of_dispatch? found).1 interrupted
    exact (unterbrich_zeilen nummeriert interrupted).trans (melde_zeilen numbered member kept allowed)

theorem oeffneAuftragWieder_zeilen (nummeriert : lage.Nummeriert)
    (reopens : oeffnet dispatchId) (done : oeffneAuftragWieder lage now dispatchId = (result, lage')) :
    Zeilen oeffnet neu lage lage' := by
  unfold oeffneAuftragWieder at done
  split at done
  · cases done
    exact .refl lage
  · next dispatch found =>
    split at done
    · cases done
      exact .refl lage
    · next ended =>
      cases done
      have row : Zeilen oeffnet neu lage (lage.setDispatch dispatchId (wiedereroeffnet now)) := by
        obtain ⟨member, rfl⟩ := mem_of_dispatch? found
        refine .setDispatch dispatch.id fun d inside atId => ?_
        rw [nummeriert.dispatch_inj inside member atId]
        exact .wiedereroeffnet now reopens (by simpa [Option.isSome_iff_ne_none] using ended)
      exact row.trans (.aktualisiereSitePhase _ dispatch.siteId)

theorem pruefeDisposition_ok {auftrag text : Option String} {auftragsart : String}
    {reihenfolge rang : Option Int} {art : Auftragsart}
    (ok : pruefeDisposition lage einheitId lageId siteId auftrag auftragsart reihenfolge = .ok (art, text, rang)) :
    (∃ site, lage.site? siteId = some site ∧ site.phase.geschlossen = false) ∧
      ∀ d ∈ lage.dispatches, offeneAn einheitId siteId d = true → d.auftragsart ≠ art := by
  simp only [pruefeDisposition, bind, Except.bind, pure, Except.pure, throw, throwThe, MonadExceptOf.throw] at ok
  split at ok
  · cases ok
  · split at ok
    · cases ok
    · split at ok
      · cases ok
      · next site found =>
        split at ok
        · cases ok
        · next open_ =>
          split at ok
          · split at ok
            · cases ok
            · next frei =>
              split at ok
              · cases ok
              · cases ok
                refine ⟨⟨site, (getSite_ok found).1, by simpa using open_⟩, fun d member fits same => frei ?_⟩
                exact List.any_eq_true.mpr ⟨d, member, by simp [fits, same]⟩
          · cases ok

theorem dispatchToSite_zeilen {auftrag : Option String} {auftragsart : String}
    {reihenfolge : Option Int} {vorgang : Vorgang} {result : Except Fehler (Nat × Bool)}
    (orders : vorgang.disposition = some (einheitId, lageId, siteId))
    (done : dispatchToSite lage now akteur einheitId lageId siteId auftrag auftragsart reihenfolge = (result, lage')) :
    Zeilen oeffnet (Neu lage vorgang) lage lage' := by
  unfold dispatchToSite at done
  split at done
  · cases done
    exact .refl lage
  · next art text rang checked =>
    cases done
    obtain ⟨⟨site, found, open_⟩, frei⟩ := pruefeDisposition_ok checked
    have added : Zeilen oeffnet (Neu lage vorgang) lage
        (lage.addDispatch { neueDisposition lage now akteur einheitId siteId with
          auftrag := text, auftragsart := art, reihenfolge := rang }) :=
      .addDispatch (.disponiert ⟨rfl, rfl, rfl, rfl, rfl⟩ lageId orders site found open_ frei)
    exact (added.trans (.of_same rfl)).trans (.aktualisiereSitePhase _ siteId)

theorem stelleIn_of_getSite (found : getSite lage siteId lageId = .ok site) :
    lage.StelleIn siteId lageId := by
  rw [Lage.StelleIn, (getSite_ok found).1, Option.map_some, (getSite_ok found).2]

/-- The arrival alone, from a state in which `neu` describes its new row. -/
theorem setVorOrtAtSite_zeilen (nummeriert : lage.Nummeriert)
    {result : Except Fehler (Nat × Bool ⊕ Nat)}
    (fresh : ∀ e, getEinheit lage einheitId lageId = .ok e → lage.StelleIn siteId lageId →
      (∀ d ∈ lage.dispatches, offeneAn einheitId siteId d = false) →
      (∀ d ∈ lage.dispatches, aktivAnderswo einheitId siteId d = false) →
      neu (neueDisposition lage now akteur einheitId siteId))
    (done : setVorOrtAtSite lage now akteur einheitId lageId siteId = (result, lage')) :
    Zeilen oeffnet neu lage lage' := by
  unfold setVorOrtAtSite at done
  split at done
  · cases done
    exact .refl lage
  · cases done
    exact .refl lage
  · next e site ofLage siteFound =>
    split at done
    · cases done
      exact .refl lage
    · next keine =>
      dsimp only at done
      split at done
      · next dispatch found =>
        cases done
        obtain ⟨member, fits, -⟩ := vorhandene_some found
        have row : Zeilen oeffnet neu lage (lage.setDispatch dispatch.id (vorOrt now)) := by
          refine .setDispatch dispatch.id fun d inside atId => .vorOrt now ?_
          rw [nummeriert.dispatch_inj inside member atId]
          simp only [offeneAn, Bool.and_eq_true] at fits
          exact fits.2
        exact (row.trans (.of_same rfl)).trans (.aktualisiereSitePhase _ siteId)
      · next missing =>
        cases done
        have added : Zeilen oeffnet neu lage (lage.addDispatch (neueDisposition lage now akteur einheitId siteId)) :=
          .addDispatch (fresh e ofLage (stelleIn_of_getSite siteFound) (vorhandene_none missing) fun d inside => by
            simpa using List.find?_eq_none.mp keine d inside)
        refine (added.trans (.trans (.setDispatch _ fun d inside atId => .vorOrt now ?_) (.of_same rfl))).trans
          (.aktualisiereSitePhase _ siteId)
        rcases (mem_addDispatch lage).mp inside with old | rfl
        · have below := nummeriert.dispatch_id_lt old
          omega
        · rfl

theorem verlege_zeilen {alte : List EinheitSiteDispatch} : Zeilen oeffnet neu lage (verlege now alte lage) := by
  induction alte generalizing lage with
  | nil => exact .refl lage
  | cons d rest ih =>
    have row : Zeilen oeffnet neu lage (lage.setDispatch d.id fun d => { d with withdrawnAt := some now }) :=
      .setDispatch d.id fun d _ _ => .verlegt now
    exact (row.trans (.aktualisiereSitePhase _ d.siteId)).trans ih

theorem verlege_keeps (now : Zeit) (alte : List EinheitSiteDispatch) (nummeriert : lage.Nummeriert) :
    (verlege now alte lage).Nummeriert ∧ (verlege now alte lage).naechsteId = lage.naechsteId ∧
      (∀ siteId lageId, (verlege now alte lage).StelleIn siteId lageId → lage.StelleIn siteId lageId) ∧
      ∀ d ∈ lage.dispatches, (∀ a ∈ alte, d.id ≠ a.id) → d ∈ (verlege now alte lage).dispatches := by
  induction alte generalizing lage with
  | nil => exact ⟨nummeriert, rfl, fun _ _ => id, fun d member _ => member⟩
  | cons a rest ih =>
    have keeps : ∀ d : EinheitSiteDispatch, ({ d with withdrawnAt := some now } : EinheitSiteDispatch).id = d.id :=
      fun _ => rfl
    have numbered := (nummeriert.setDispatch a.id keeps).aktualisiereSitePhase a.siteId
    obtain ⟨atEnd, next, sites, rows⟩ := ih numbered
    refine ⟨atEnd, next.trans ?_, fun siteId lageId stelle => ?_, fun d member others => rows d ?_ fun b inRest => ?_⟩
    · simp [Lage.naechsteId, Lage.setDispatch]
    · have before := sites siteId lageId stelle
      rw [Lage.StelleIn, aktualisiereSitePhase_lageId] at before
      exact before
    · rw [aktualisiereSitePhase_dispatches]
      exact (mem_setDispatch lage a.id).mpr ⟨d, member, if_neg (others a (List.mem_cons_self ..))⟩
    · exact others b (List.mem_cons_of_mem _ inRest)

theorem resolveVorOrtConflict_zeilen (nummeriert : lage.Nummeriert)
    {result : Except Fehler (Nat × Bool ⊕ Nat)}
    (done : resolveVorOrtConflict lage now akteur einheitId lageId siteId = (result, lage')) :
    Zeilen oeffnet (Neu lage (.verlege now akteur einheitId lageId siteId)) lage lage' := by
  unfold resolveVorOrtConflict at done
  split at done
  · cases done
    exact .refl lage
  · next e ofLage =>
    obtain ⟨numbered, next, sites, rows⟩ :=
      verlege_keeps now (lage.dispatches.filter (aktivAnderswo einheitId siteId)) nummeriert
    refine verlege_zeilen.trans (setVorOrtAtSite_zeilen numbered (fun _ _ stelle frei _ => ?_) done)
    refine .angekommen ⟨next, rfl, rfl, rfl, rfl⟩ lageId rfl e ofLage (sites siteId lageId stelle) (fun d member => ?_)
      fun weicht => absurd weicht (by simp [Vorgang.weicht])
    by_contra open_
    have fits : offeneAn einheitId siteId d = true := (Bool.not_eq_false _).mp open_
    have atSite : d.siteId = siteId := by
      simp only [offeneAn, Bool.and_eq_true, beq_iff_eq] at fits
      exact fits.1.2
    have kept := rows d member fun a inside same => ?_
    · simp [frei d kept] at fits
    · obtain ⟨old, elsewhere⟩ := List.mem_filter.mp inside
      rw [← nummeriert.dispatch_inj member old same] at elsewhere
      simp [aktivAnderswo, atSite] at elsewhere

end Operations

theorem step_zeilen {lage : Lage} (nummeriert : lage.Nummeriert) (vorgang : Vorgang) :
    Zeilen vorgang.oeffnet (Neu lage vorgang) lage (step lage vorgang) := by
  have same : ∀ {after : Lage}, after.dispatches = lage.dispatches →
      Zeilen vorgang.oeffnet (Neu lage vorgang) lage after := fun equal => .of_same equal
  cases vorgang with
  | einheit | site | sector => exact same rfl
  | disponiere => exact transaktion_of (same rfl) fun result lage' done => dispatchToSite_zeilen rfl done
  | vorOrt now akteur einheitId lageId siteId =>
    refine transaktion_of (same rfl) fun result lage' done => setVorOrtAtSite_zeilen nummeriert ?_ done
    intro e ofLage stelle frei keine
    exact .angekommen ⟨rfl, rfl, rfl, rfl, rfl⟩ lageId rfl e ofLage stelle frei fun _ => keine
  | verlege => exact transaktion_of (same rfl) fun result lage' done => resolveVorOrtConflict_zeilen nummeriert done
  | withdraw => exact transaktion_of (same rfl) fun result lage' done => withdrawFromSite_zeilen nummeriert done
  | status => exact transaktion_of (same rfl) fun result lage' done => setzeEinheitStatus_zeilen nummeriert done
  | oeffne now dispatchId =>
    refine transaktion_of (same rfl) fun result lage' done => ?_
    exact oeffneAuftragWieder_zeilen nummeriert ⟨now, rfl⟩ done
  | abziehen => exact transaktion_of (same rfl) fun result lage' done => zieheFertigeEinheitAb_zeilen nummeriert done
  | abschnitt => exact transaktion_of (same rfl) fun result lage' done => same (assignToSector_einheit done).dispatches
  | pool => exact transaktion_of (same rfl) fun result lage' done => same (moveToPool_einheit done).dispatches
  | ressource => exact transaktion_of (same rfl) fun result lage' done => same (setStatus_einheit done).dispatches
  | reaktiviere =>
    exact transaktion_of (same rfl) fun result lage' done => same (reaktiviereEinheit_einheit done).dispatches
  | phase siteId neuePhase sortIndex => exact .setzeSitePhase lage siteId neuePhase sortIndex
  | abschliessen => exact transaktion_of (same rfl) fun result lage' done => einsatzAbschliessen_zeilen nummeriert done
  | wiedereroeffnen siteId =>
    refine transaktion_of (same rfl) fun result lage' done => ?_
    obtain ⟨phase, rfl⟩ := einsatzWiedereroeffnen_nurSites done
    exact .setzeSitePhase lage siteId phase none

end Einsatzcockpit.Gsl
