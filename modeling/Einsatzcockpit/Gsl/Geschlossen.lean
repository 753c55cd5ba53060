import Einsatzcockpit.Gsl.Einzeln

namespace Einsatzcockpit.Gsl

open Transition

def Lage.geschlossen (lage : Lage) (siteId : Nat) : Bool :=
  (lage.site? siteId).any (·.phase.geschlossen)

def legtAn (lage : Lage) (einheitId lageId siteId : Nat) : Bool :=
  (getEinheit lage einheitId lageId).isOk && (getSite lage siteId lageId).isOk &&
    (vorhandene lage einheitId siteId).isNone

def einzelnAn (lage : Lage) (siteId : Nat) : Bool :=
  lage.dispatches.all fun d => !(d.siteId == siteId && d.offen) ||
    lage.dispatches.all fun other => !gleichartig d other || other.id == d.id

/-- A request that leaves the closed sites alone and, where it closes one,
withdraws every live order of it. -/
def stelleGewahrt (lage : Lage) : Vorgang → Bool
  | .vorOrt _ _ einheitId lageId siteId =>
    !(lage.geschlossen siteId && legtAn lage einheitId lageId siteId) ||
      lage.dispatches.any (aktivAnderswo einheitId siteId)
  | .verlege _ _ einheitId lageId siteId => !(lage.geschlossen siteId && legtAn lage einheitId lageId siteId)
  | .oeffne _ dispatchId =>
    (lage.dispatch? dispatchId).all fun d =>
      d.beendetAt.isNone || d.withdrawnAt.isSome || !lage.geschlossen d.siteId
  | .abschliessen flush _ _ siteId aktiveZurueckziehen =>
    !aktiveZurueckziehen || (flush && !lage.geschlossen siteId) || einzelnAn lage siteId
  | _ => true

/-- What a run leaves of the closed sites: no order there comes to life, and
none is alive after the site was closed as long as it stays closed. -/
structure Ruht (vorgaenge : List Vorgang) : Prop where
  keiner : ∀ before vorgang after, vorgaenge = before ++ vorgang :: after →
    ∀ d' ∈ (step (run step {} before) vorgang).dispatches, d'.offen = true →
      (run step {} before).geschlossen d'.siteId = true →
        ∃ d ∈ (run step {} before).dispatches, d.id = d'.id ∧ d.offen = true
  leer : ∀ before flush now akteur siteId aktiveZurueckziehen after,
    vorgaenge = before ++ .abschliessen flush now akteur siteId aktiveZurueckziehen :: after →
      (einsatzAbschliessen (run step {} before) flush now akteur siteId aktiveZurueckziehen).1 = .ok () →
        Meets step (fun lage _ => lage.geschlossen siteId = true)
          (step (run step {} before) (.abschliessen flush now akteur siteId aktiveZurueckziehen)) after →
            ∀ d ∈ (run step {} vorgaenge).dispatches, d.siteId = siteId → d.offen = false

variable {lage : Lage} {siteId : Nat}

theorem Lage.geschlossen_of_site {site : IncidentSite}
    (found : lage.site? siteId = some site) : lage.geschlossen siteId = site.phase.geschlossen := by
  rw [Lage.geschlossen, found, Option.any_some]

theorem getSite_isOk {lageId : Nat} (stelle : lage.StelleIn siteId lageId) :
    (getSite lage siteId lageId).isOk = true := by
  obtain ⟨site, found, ofLage⟩ := Option.map_eq_some_iff.mp stelle
  rw [getSite, found]
  dsimp only
  rw [if_pos ofLage]
  rfl

theorem vorhandene_eq_none {einheitId : Nat}
    (frei : ∀ d ∈ lage.dispatches, offeneAn einheitId siteId d = false) : vorhandene lage einheitId siteId = none := by
  have empty : lage.dispatches.filter (offeneAn einheitId siteId) = [] :=
    List.filter_eq_nil_iff.mpr fun d member => by simp [frei d member]
  unfold vorhandene
  rw [empty]
  rfl

theorem gewahrt_angekommen {vorgang : Vorgang} {einheitId lageId : Nat}
    (arrives : vorgang.ankunft = some (einheitId, lageId, siteId)) {e : LageEinheit}
    (ofLage : getEinheit lage einheitId lageId = .ok e) (stelle : lage.StelleIn siteId lageId)
    (frei : ∀ d ∈ lage.dispatches, offeneAn einheitId siteId d = false)
    (weicht : vorgang.weicht = true → ∀ d ∈ lage.dispatches, aktivAnderswo einheitId siteId d = false)
    (gewahrt : stelleGewahrt lage vorgang = true) : lage.geschlossen siteId = false := by
  have creates : legtAn lage einheitId lageId siteId = true := by
    rw [legtAn, ofLage, getSite_isOk stelle, vorhandene_eq_none frei]
    rfl
  cases vorgang with
  | vorOrt now akteur unit major site =>
    cases arrives
    have free : lage.dispatches.any (aktivAnderswo einheitId siteId) = false := by
      rw [List.any_eq_false]
      exact fun d member => by simp [weicht rfl d member]
    simpa [stelleGewahrt, creates, free] using gewahrt
  | verlege now akteur unit major site =>
    cases arrives
    simpa [stelleGewahrt, creates] using gewahrt
  | _ => cases arrives

theorem step_ruht (nummeriert : lage.Nummeriert) {vorgang : Vorgang}
    (gewahrt : stelleGewahrt lage vorgang = true) {d' : EinheitSiteDispatch}
    (member : d' ∈ (step lage vorgang).dispatches) (open_ : d'.offen = true)
    (closed : lage.geschlossen d'.siteId = true) : ∃ d ∈ lage.dispatches, SameOrder d d' ∧ d.offen = true := by
  obtain ⟨d, source, schritte⟩ := step_zeilen nummeriert vorgang d' member
  have same := Schritte.same schritte
  rw [same.siteId] at closed
  rcases source with old | neu
  · refine ⟨d, old, same, ?_⟩
    by_cases reopens : vorgang.oeffnet d.id
    · obtain ⟨now, rfl⟩ := reopens
      have kept := Schritte.withdrawn schritte (offen_iff.mp open_).1
      simp only [stelleGewahrt, nummeriert.dispatch?_of_mem old, Option.all_some, kept, closed] at gewahrt
      simpa [EinheitSiteDispatch.offen, kept] using gewahrt
    · exact Schritte.offen schritte reopens open_
  · cases neu with
    | disponiert frisch lageId orders site found isOpen frei =>
      rw [Lage.geschlossen_of_site found, isOpen] at closed
      cases closed
    | angekommen frisch lageId arrives e ofLage stelle frei weicht =>
      have open' := gewahrt_angekommen arrives ofLage stelle frei weicht gewahrt
      rw [open'] at closed
      cases closed

theorem unbeendet_eq_offen {d : EinheitSiteDispatch} (stimmig : Stimmig d) : unbeendet d = d.offen := by
  unfold unbeendet EinheitSiteDispatch.offen
  rw [← stimmig, Option.not_isSome]

structure Lage.Bestand (lage : Lage) : Prop where
  gueltig : lage.Gueltig
  nurFertig : ∀ d ∈ lage.dispatches, NurFertigAb d

theorem step_bestand (bestand : lage.Bestand) (vorgang : Vorgang) : (step lage vorgang).Bestand := by
  refine ⟨⟨step_einOrt bestand.gueltig vorgang, step_stimmig bestand.gueltig vorgang⟩, fun d' member => ?_⟩
  obtain ⟨d, source, schritte⟩ := step_zeilen bestand.gueltig.einOrt.nummeriert vorgang d' member
  refine Schritte.nurFertigAb schritte ?_
  rcases source with old | neu
  · exact bestand.nurFertig d old
  · intro pulled
    rw [neu.frisch.abgezogenAt] at pulled
    cases pulled

theorem einzelnAn_spec (einzeln : einzelnAn lage siteId = true)
    {d other : EinheitSiteDispatch} (member : d ∈ lage.dispatches) (inside : other ∈ lage.dispatches)
    (atSite : d.siteId = siteId) (open_ : d.offen = true) (like : gleichartig d other = true) : other.id = d.id := by
  have alone := List.all_eq_true.mp einzeln d member
  simp only [atSite, open_, beq_self_eq_true, Bool.and_true, Bool.not_true, Bool.false_or] at alone
  simpa [like] using List.all_eq_true.mp alone other inside

theorem einsatzAbschliessen_leer {lage' : Lage} (bestand : lage.Bestand) {flush : Bool} {now : Zeit}
    {akteur : Akteur} {aktiveZurueckziehen : Bool}
    (gewahrt : stelleGewahrt lage (.abschliessen flush now akteur siteId aktiveZurueckziehen) = true) {result : Unit}
    (done : einsatzAbschliessen lage flush now akteur siteId aktiveZurueckziehen = (.ok result, lage')) :
    ∀ d ∈ lage'.dispatches, d.siteId = siteId → d.offen = false := by
  have nummeriert := bestand.gueltig.einOrt.nummeriert
  unfold einsatzAbschliessen at done
  split at done
  · cases done
  · next site found =>
    have atSite := site?_id found
    dsimp only at done
    generalize listed : (lage.dispatches.filter fun d => d.siteId == siteId && unbeendet d) = aktive at done
    have live : ∀ d, d ∈ aktive ↔ d ∈ lage.dispatches ∧ d.siteId = site.id ∧ d.offen = true := by
      intro d
      rw [← listed, List.mem_filter, Bool.and_eq_true, beq_iff_eq, atSite]
      constructor
      · rintro ⟨member, fits, open_⟩
        exact ⟨member, fits, unbeendet_eq_offen (bestand.gueltig.stimmig d member) ▸ open_⟩
      · rintro ⟨member, fits, open_⟩
        exact ⟨member, fits, (unbeendet_eq_offen (bestand.gueltig.stimmig d member)).trans open_⟩
    split at done
    · cases done
    · next allowed =>
      split at done
      · cases done
      · next ok between withdrawn =>
        cases done
        intro d inside isSite
        rw [(setzeSitePhase_nurSites between siteId .erledigt none).dispatches] at inside
        by_contra alive
        have open_ : d.offen = true := (Bool.not_eq_false _).mp alive
        by_cases sees : (flush && !site.phase.geschlossen) = true
        · rw [sees] at withdrawn
          have count : ∀ key, lage.dispatches.countP (lebtAn site.id key) =
              aktive.countP fun d => einheitUndArt d == key := by
            intro key
            rw [← listed, List.countP_filter]
            refine List.countP_congr fun row member => ?_
            rw [lebtAn_iff, unbeendet_eq_offen (bestand.gueltig.stimmig row member), atSite]
            simp only [Bool.and_eq_true, beq_iff_eq]
            tauto
          have none := zieheZurueck_flush nummeriert bestand.nurFertig count withdrawn (einheitUndArt d)
          rw [List.countP_eq_zero] at none
          exact none d inside (lebtAn_iff.mpr ⟨isSite.trans atSite.symm, open_, rfl⟩)
        · have blind : (flush && !site.phase.geschlossen) = false := by simpa using sees
          rw [blind] at withdrawn
          have einzeln : ∀ d ∈ lage.dispatches, ∀ other ∈ lage.dispatches, d.siteId = site.id → d.offen = true →
              lebtAn site.id (einheitUndArt d) other = true → d = other := by
            intro d member other inside isHere open_ like
            obtain ⟨otherSite, otherOpen, same⟩ := lebtAn_iff.mp like
            obtain ⟨sameUnit, sameArt⟩ := Prod.mk.inj same
            have asked : aktiveZurueckziehen = true := by
              have some : aktive ≠ [] := List.ne_nil_of_mem ((live d).mpr ⟨member, isHere, open_⟩)
              simpa [some] using allowed
            simp only [stelleGewahrt, asked, Lage.geschlossen_of_site found, blind, Bool.not_true, Bool.false_or] at gewahrt
            refine nummeriert.dispatch_inj member inside (Eq.symm ?_)
            refine einzelnAn_spec gewahrt member inside (isHere.trans atSite) open_ ?_
            exact gleichartig_iff.mpr ⟨otherOpen, sameUnit, otherSite.trans isHere.symm, sameArt⟩
          obtain ⟨old, others⟩ := zieheZurueck_einzeln bestand.nurFertig einzeln (fun d member => (live d).mp member)
            withdrawn d inside open_
          exact others d ((live d).mpr ⟨old, isSite.trans atSite.symm, open_⟩) rfl

/-- As long as no request touches a closed site, closed sites stay empty. -/
theorem stelle_ruht (vorgaenge : List Vorgang)
    (gewahrt : Meets step (fun lage vorgang => stelleGewahrt lage vorgang = true) {} vorgaenge) : Ruht vorgaenge := by
  have bestand : ∀ before, (run step {} before).Bestand := fun before =>
    run_invariant Lage.Bestand (fun _ vorgang bestand => step_bestand bestand vorgang)
      ⟨run_gueltig [], fun _ member => absurd member List.not_mem_nil⟩ before
  refine ⟨?_, ?_⟩
  · rintro before vorgang after rfl d' member open_ closed
    obtain ⟨-, first, -⟩ := meets_append.mp gewahrt
    obtain ⟨d, inside, same, was⟩ := step_ruht (bestand before).gueltig.einOrt.nummeriert first member open_ closed
    exact ⟨d, inside, same.id.symm, was⟩
  · rintro before flush now akteur siteId aktiveZurueckziehen after rfl closes shut
    obtain ⟨-, first, rest⟩ := meets_append.mp gewahrt
    rw [run_append, run_cons]
    generalize ended : einsatzAbschliessen (run step {} before) flush now akteur siteId aktiveZurueckziehen = outcome
      at closes
    obtain ⟨result, lage'⟩ := outcome
    cases closes
    have becomes : step (run step {} before) (.abschliessen flush now akteur siteId aktiveZurueckziehen) = lage' := by
      simp only [step, ended, transaktion]
    have empty := einsatzAbschliessen_leer (bestand before) first ended
    have valid : lage'.Bestand := becomes ▸ step_bestand (bestand before) _
    rw [becomes] at shut rest ⊢
    have both : Meets step (fun lage vorgang => stelleGewahrt lage vorgang = true ∧ lage.geschlossen siteId = true)
        lage' after := rest.and shut
    refine (run_induction (fun lage => lage.Bestand ∧ ∀ d ∈ lage.dispatches, d.siteId = siteId → d.offen = false)
      (fun lage vorgang held ok => ⟨step_bestand held.1 vorgang, fun d' member isSite => ?_⟩) ⟨valid, empty⟩ both).2
    by_contra alive
    have open_ : d'.offen = true := (Bool.not_eq_false _).mp alive
    obtain ⟨d, inside, same, was⟩ :=
      step_ruht held.1.gueltig.einOrt.nummeriert ok.1 member open_ (isSite ▸ ok.2)
    rw [held.2 d inside (same.siteId.symm.trans isSite)] at was
    cases was

/-- A unit, a site that is closed with its only order, and the unit's way back. -/
def geschlosseneStelle : List Vorgang :=
  [.einheit { id := 0, lageId := 1, label := "RLF" },
    .site { id := 0, majorIncidentId := 1, bezeichnung := "Keller" },
    .disponiere 0 {} 1 1 1 none "abarbeitung" none,
    .abschliessen false 1 {} 1 true]

theorem stelle_ruht_closed :
    Meets step (fun lage vorgang => stelleGewahrt lage vorgang = true) {} (geschlosseneStelle ++ [.pool 2 1 1]) ∧
      Ruht (geschlosseneStelle ++ [.pool 2 1 1]) :=
  have gewahrt : Meets step (fun lage vorgang => stelleGewahrt lage vorgang = true) {}
      (geschlosseneStelle ++ [.pool 2 1 1]) := by decide +kernel
  ⟨gewahrt, stelle_ruht (geschlosseneStelle ++ [.pool 2 1 1]) gewahrt⟩

/-- An arrival puts a new order on the closed site. -/
theorem vorOrt_geschlossen : ¬ Ruht (geschlosseneStelle ++ [.vorOrt 2 {} 1 1 1]) := by
  intro ruht
  have arrived : ∃ d' ∈ (step (run step {} geschlosseneStelle) (.vorOrt 2 {} 1 1 1)).dispatches, d'.offen = true ∧
      (run step {} geschlosseneStelle).geschlossen d'.siteId = true ∧
      ∀ d ∈ (run step {} geschlosseneStelle).dispatches, d.id ≠ d'.id := by decide +kernel
  obtain ⟨d', member, open_, closed, fresh⟩ := arrived
  obtain ⟨d, inside, same, -⟩ := ruht.keiner geschlosseneStelle (.vorOrt 2 {} 1 1 1) [] rfl d' member open_ closed
  exact fresh d inside same

end Einsatzcockpit.Gsl
