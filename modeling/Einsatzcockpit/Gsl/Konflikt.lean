import Einsatzcockpit.Lib.Session
import Einsatzcockpit.Gsl.Platz

namespace Einsatzcockpit.Gsl

/-- A call that writes the rows one statement after the other: what it has
written stays in the session when it raises. -/
abbrev Sitzung := Session Fehler Lage

namespace Sitzung

open Session Raising

/-- `ziehe_fertige_einheit_ab` -/
def zieheFertigeEinheitAb (now : Zeit) (akteur : Akteur) (dispatchId : Nat) (automatisch : Bool) : Sitzung Bool := do
  let dispatch ← check fun lage => demand (lage.dispatch? dispatchId) (.wert "Auftrag nicht gefunden")
  check fun _ => require (dispatch.withdrawnAt.isNone = true) (.wert "Auftrag ist zurückgezogen")
  check fun _ => require (dispatch.beendetAt.isSome = true) (.wert "Auftrag ist nicht beendet")
  if dispatch.abgezogenAt.isSome then
    return false
  else
    write fun lage => lage.setDispatch dispatchId (abgezogen now akteur automatisch)
    let anderer ← check fun lage => .ok (lage.dispatches.any fun d =>
      d.einheitId == dispatch.einheitId && d.id != dispatchId && d.siteId == dispatch.siteId && d.aktiv)
    write fun lage => if anderer then lage else lage.setEinheit dispatch.einheitId (verlaesst dispatch.siteId)
    return true

/-- `aktualisiere_site_phase` raises nothing. -/
def aktualisiereSitePhase (siteId : Nat) : Sitzung Bool := do
  let geaendert ← check fun lage => .ok (Gsl.aktualisiereSitePhase lage siteId).1
  write fun lage => (Gsl.aktualisiereSitePhase lage siteId).2
  return geaendert

def unterbrich (now : Zeit) (dispatch : EinheitSiteDispatch) (neuer : EinheitStatus) (meldung : Meldung) :
    Sitzung (Option Nat) := do
  let anderer ← check fun lage => .ok (if neuer.aktiv then anderer lage dispatch else none)
  match anderer with
  | none => return none
  | some a =>
    check fun lage => require (meldung.unterbrechen = true ∧ ¬ meldung.aktiverDispatchId.any (· != a.id))
      (konflikt "aktiver_auftrag" a.id a.siteId none ((lage.site? a.siteId).map (·.bezeichnung)))
    write fun lage => lage.setDispatch a.id (unterbrochen now)
    write fun lage => lage.setEinheit dispatch.einheitId (verlaesst a.siteId)
    return some a.id

/-- What `setze_einheit_status` does after the interruption. -/
def melde (now : Zeit) (akteur : Akteur) (dispatch : EinheitSiteDispatch) (site : IncidentSite)
    (neuer : EinheitStatus) (grund : Option String) : Sitzung Bool := do
  write fun lage => lage.setDispatch dispatch.id (gemeldet now neuer grund)
  write fun lage => lage.setEinheit dispatch.einheitId (position dispatch.einheitStatus neuer site)
  write fun lage => lage.setEinheit dispatch.einheitId (imEinsatz now)
  if neuer.beendet then
    let _ ← zieheFertigeEinheitAb now akteur dispatch.id true
    aktualisiereSitePhase site.id
  else
    aktualisiereSitePhase site.id

/-- `setze_einheit_status` -/
def setzeEinheitStatus (now : Zeit) (akteur : Akteur) (dispatchId : Nat) (meldung : Meldung) : Sitzung StatusErgebnis := do
  let dispatch ← check fun lage => demand (lage.dispatch? dispatchId) (.wert "Auftrag nicht gefunden")
  check fun _ => require (dispatch.withdrawnAt.isNone = true) (konflikt "auftrag_zurueckgezogen" none none none none)
  check fun _ => require (¬ meldung.auftragVersion.any (· != dispatch.version))
    (konflikt "auftrag_geaendert" dispatch.id none dispatch.version none)
  if meldung.neuerStatus = dispatch.einheitStatus.wert then
    let alleEinheitenFertig ← check fun lage => .ok (alleEinheitenFertig lage dispatch.siteId)
    return {
      geaendert := false
      dispatchId
      einheitStatus := dispatch.einheitStatus
      version := dispatch.version
      alleEinheitenFertig }
  else
    let site ← check fun lage => demand (lage.site? dispatch.siteId) (.wert "Einsatzstelle nicht gefunden")
    let neuer ← check fun _ => pruefeUebergang site dispatch meldung
    let unterbrochenDispatchId ← unterbrich now dispatch neuer meldung
    let phaseGeaendert ← melde now akteur dispatch site neuer meldung.grund
    let alleEinheitenFertig ← check fun lage => .ok (alleEinheitenFertig lage site.id)
    return {
      geaendert := true
      dispatchId
      einheitStatus := neuer
      version := dispatch.version
      phaseGeaendert
      unterbrochenDispatchId
      alleEinheitenFertig }

end Sitzung

/-- The end of a request in `fuehre_aktion_aus`: the session is committed after
an answer and after a conflict, any other exception leaves it. -/
def uebernommen {α : Type} (lage : Lage) : Wirkung α → Lage
  | (.ok _, lage') => lage'
  | (.error (.konflikt ..), lage') => lage'
  | (.error _, _) => lage

section Exec

variable {lage : Lage} {now : Zeit} {akteur : Akteur}

open Session

theorem dispatch?_setDispatch (id dispatchId : Nat) {werte : EinheitSiteDispatch → EinheitSiteDispatch}
    (keeps : ∀ d, (werte d).id = d.id) : (lage.setDispatch id werte).dispatch? dispatchId =
      if dispatchId = id then (lage.dispatch? dispatchId).map werte else lage.dispatch? dispatchId :=
  Relational.find?_update_key EinheitSiteDispatch.id id dispatchId werte lage.dispatches fun d atId => (keeps d).trans atId

theorem zieheFertigeEinheitAb_exec (dispatchId : Nat) (automatisch : Bool) :
    (Sitzung.zieheFertigeEinheitAb now akteur dispatchId automatisch).exec lage =
      zieheFertigeEinheitAb lage now akteur dispatchId automatisch := by
  unfold Sitzung.zieheFertigeEinheitAb zieheFertigeEinheitAb
  rw [exec_check_bind]
  cases lage.dispatch? dispatchId with
  | none => rfl
  | some dispatch =>
    dsimp only [Raising.demand]
    have others : ((lage.setDispatch dispatchId (abgezogen now akteur automatisch)).dispatches.any fun d =>
        d.einheitId == dispatch.einheitId && d.id != dispatchId && d.siteId == dispatch.siteId && d.aktiv) =
        lage.dispatches.any fun d =>
          d.einheitId == dispatch.einheitId && d.id != dispatchId && d.siteId == dispatch.siteId && d.aktiv := by
      show ((lage.dispatches.map _).any _) = _
      rw [List.any_map]
      refine List.any_congr rfl fun d => ?_
      rw [Function.comp_apply]
      split <;> rfl
    rw [exec_require_bind]
    by_cases withdrawn : dispatch.withdrawnAt.isSome = true
    · rw [if_pos withdrawn, if_neg (by simpa [Option.isSome_iff_ne_none] using withdrawn)]
    rw [if_neg withdrawn, if_pos (by simpa using withdrawn), exec_require_bind]
    by_cases ended : dispatch.beendetAt.isSome = true
    · have notRunning : ¬ dispatch.beendetAt.isNone = true := by simpa [Option.isSome_iff_ne_none] using ended
      rw [if_pos ended, if_neg notRunning]
      split
      · rfl
      · rw [exec_write_bind, exec_check_bind]
        dsimp only
        rw [exec_write_bind, exec_pure, others]
    · rw [if_neg ended, if_pos (by simpa using ended)]

theorem unterbrich_exec (dispatch : EinheitSiteDispatch) (neuer : EinheitStatus) (meldung : Meldung) :
    (Sitzung.unterbrich now dispatch neuer meldung).exec lage =
      match unterbrich now lage dispatch neuer meldung with
      | .ok (unterbrochenDispatchId, lage') => (.ok unterbrochenDispatchId, lage')
      | .error fehler => (.error fehler, lage) := by
  unfold Sitzung.unterbrich unterbrich
  rw [exec_check_bind]
  dsimp only
  cases active : neuer.aktiv with
  | false => rfl
  | true =>
    rw [if_pos rfl, if_neg (by decide)]
    cases anderer lage dispatch with
    | none => rfl
    | some a =>
      dsimp only
      rw [exec_require_bind]
      by_cases allowed : meldung.unterbrechen = true ∧ ¬ meldung.aktiverDispatchId.any (· != a.id)
      · rw [if_pos allowed, if_neg (by simpa using allowed)]
        rfl
      · rw [if_neg allowed, if_pos (by rw [not_and_or] at allowed; simpa using allowed)]

theorem zieheFertigeEinheitAb_ok (now : Zeit) (akteur : Akteur) {dispatchId : Nat} {dispatch : EinheitSiteDispatch} (automatisch : Bool)
    (found : lage.dispatch? dispatchId = some dispatch) (live : dispatch.withdrawnAt = none)
    (ended : dispatch.beendetAt.isSome = true) :
    ∃ gezogen, (zieheFertigeEinheitAb lage now akteur dispatchId automatisch).1 = .ok gezogen := by
  obtain ⟨at_, isEnd⟩ := Option.isSome_iff_exists.mp ended
  unfold zieheFertigeEinheitAb
  rw [found]
  dsimp only
  rw [live, isEnd, if_neg (by decide), if_neg (by simp)]
  split
  · exact ⟨false, rfl⟩
  · exact ⟨true, rfl⟩

theorem melde_exec {dispatch : EinheitSiteDispatch} (site : IncidentSite) (neuer : EinheitStatus) (grund : Option String)
    (found : lage.dispatch? dispatch.id = some dispatch) (live : dispatch.withdrawnAt = none) :
    (Sitzung.melde now akteur dispatch site neuer grund).exec lage =
      (.ok (melde now akteur lage dispatch site neuer grund).1, (melde now akteur lage dispatch site neuer grund).2) := by
  have unit : ((lage.setDispatch dispatch.id (gemeldet now neuer grund)).setEinheit dispatch.einheitId
      (position dispatch.einheitStatus neuer site)).setEinheit dispatch.einheitId (imEinsatz now) =
      (lage.setDispatch dispatch.id (gemeldet now neuer grund)).setEinheit dispatch.einheitId fun e =>
        imEinsatz now (position dispatch.einheitStatus neuer site e) :=
    (setEinheit_comp _ dispatch.einheitId (imEinsatz now) (position_id dispatch.einheitStatus neuer site)).symm
  unfold Sitzung.melde melde
  rw [exec_write_bind, exec_write_bind, exec_write_bind, unit]
  cases ended : neuer.beendet with
  | false => rfl
  | true =>
    have reported : ((lage.setDispatch dispatch.id (gemeldet now neuer grund)).setEinheit dispatch.einheitId fun e =>
        imEinsatz now (position dispatch.einheitStatus neuer site e)).dispatch? dispatch.id =
        some (gemeldet now neuer grund dispatch) := by
      refine (dispatch?_setDispatch dispatch.id dispatch.id fun d => ?_).trans ?_
      · rfl
      · rw [if_pos rfl, found]
        rfl
    have isEnd : (gemeldet now neuer grund dispatch).beendetAt.isSome = true := by
      simp [gemeldet, ended]
    obtain ⟨gezogen, pulled⟩ := zieheFertigeEinheitAb_ok now akteur true reported live isEnd
    rw [if_pos rfl, exec_bind, zieheFertigeEinheitAb_exec]
    dsimp only
    rw [if_pos rfl]
    generalize zieheFertigeEinheitAb _ now akteur dispatch.id true = outcome at pulled ⊢
    obtain ⟨result, after⟩ := outcome
    subst pulled
    rfl

theorem unterbrich_dispatch? {lage' : Lage} {dispatch : EinheitSiteDispatch} {neuer : EinheitStatus} {meldung : Meldung}
    {other : Option Nat} (done : unterbrich now lage dispatch neuer meldung = .ok (other, lage')) :
    lage'.dispatch? dispatch.id = lage.dispatch? dispatch.id := by
  rcases unterbrich_cases done with ⟨rfl, -⟩ | ⟨a, -, -, -, ⟨-, differs⟩, -, rfl⟩
  · rfl
  · refine (dispatch?_setDispatch a.id dispatch.id fun d => ?_).trans (if_neg differs.symm)
    rfl

theorem unterbrich_clean (dispatch : EinheitSiteDispatch) (neuer : EinheitStatus) (meldung : Meldung) :
    (Sitzung.unterbrich now dispatch neuer meldung).Clean lage := by
  intro fehler lage' raised
  rw [unterbrich_exec] at raised
  split at raised
  · cases raised
  · cases raised
    rfl

/-- Statement by statement `setze_einheit_status` does what it does as a whole. -/
theorem setzeEinheitStatus_exec (lage : Lage) (now : Zeit) (akteur : Akteur) (dispatchId : Nat) (meldung : Meldung) :
    (Sitzung.setzeEinheitStatus now akteur dispatchId meldung).exec lage =
      setzeEinheitStatus lage now akteur dispatchId meldung := by
  unfold Sitzung.setzeEinheitStatus setzeEinheitStatus
  rw [exec_check_bind]
  cases found : lage.dispatch? dispatchId with
  | none => rfl
  | some dispatch =>
    dsimp only [Raising.demand]
    have atId : dispatch.id = dispatchId := by simpa using List.find?_some found
    rw [exec_require_bind]
    by_cases withdrawn : dispatch.withdrawnAt.isSome = true
    · rw [if_pos withdrawn, if_neg (by simpa [Option.isSome_iff_ne_none] using withdrawn)]
    have live : dispatch.withdrawnAt = none := by simpa using withdrawn
    rw [if_neg withdrawn, if_pos (by rw [live]; rfl), exec_require_bind]
    by_cases changed : meldung.auftragVersion.any (· != dispatch.version) = true
    · rw [if_pos changed, if_neg fun same => same changed]
    rw [if_neg changed, if_pos changed]
    by_cases same : meldung.neuerStatus = dispatch.einheitStatus.wert
    · rw [if_pos same, if_pos same]
      rfl
    rw [if_neg same, if_neg same, exec_check_bind]
    cases lage.site? dispatch.siteId with
    | none => rfl
    | some site =>
      dsimp only
      rw [exec_check_bind]
      cases pruefeUebergang site dispatch meldung with
      | error fehler => rfl
      | ok neuer =>
        dsimp only
        rw [exec_bind, unterbrich_exec]
        cases interrupted : unterbrich now lage dispatch neuer meldung with
        | error fehler => rfl
        | ok outcome =>
          obtain ⟨unterbrochenDispatchId, between⟩ := outcome
          have kept : between.dispatch? dispatch.id = some dispatch := by
            rw [unterbrich_dispatch? interrupted, atId, found]
          dsimp only
          rw [exec_bind, melde_exec site neuer meldung.grund kept live]
          rfl

/-- Where `setze_einheit_status` raises, it has written nothing: every check
stands before the first write, and what follows the interruption comes through. -/
theorem setzeEinheitStatus_clean (lage : Lage) (now : Zeit) (akteur : Akteur) (dispatchId : Nat) (meldung : Meldung) :
    (Sitzung.setzeEinheitStatus now akteur dispatchId meldung).Clean lage := by
  unfold Sitzung.setzeEinheitStatus
  refine Clean.check_bind fun dispatch found => Clean.check_bind fun _ live => Clean.check_bind fun _ _ => ?_
  rw [Raising.require_eq_ok, Option.isNone_iff_eq_none] at live
  have found : lage.dispatch? dispatchId = some dispatch := Raising.demand_eq_ok.mp found
  have atId : dispatch.id = dispatchId := by simpa using List.find?_some found
  split
  · exact Clean.check_bind fun _ _ => (completes_pure _).clean
  refine Clean.check_bind fun site _ => Clean.check_bind fun neuer _ => ?_
  refine (unterbrich_clean dispatch neuer meldung).bind fun unterbrochenDispatchId between ran => ?_
  have kept : between.dispatch? dispatch.id = some dispatch := by
    rw [unterbrich_exec] at ran
    split at ran
    · next interrupted =>
      cases ran
      rw [unterbrich_dispatch? interrupted, atId, found]
    · cases ran
  refine Completes.bind ⟨_, _, melde_exec site neuer meldung.grund kept live⟩ fun _ _ _ => ?_
  exact Completes.check_bind rfl (completes_pure _)

theorem uebernommen_eq_transaktion (lage : Lage) (now : Zeit) (akteur : Akteur) (dispatchId : Nat) (meldung : Meldung) :
    uebernommen lage ((Sitzung.setzeEinheitStatus now akteur dispatchId meldung).exec lage) =
      transaktion lage (setzeEinheitStatus lage now akteur dispatchId meldung) := by
  have clean := setzeEinheitStatus_clean lage now akteur dispatchId meldung
  rw [← setzeEinheitStatus_exec]
  generalize ran : (Sitzung.setzeEinheitStatus now akteur dispatchId meldung).exec lage = outcome
  obtain ⟨result, after⟩ := outcome
  cases result with
  | ok ergebnis => rfl
  | error fehler =>
    cases fehler with
    | wert | pruefung => rfl
    | konflikt => exact clean _ _ ran

end Exec

/-- A status report that is rejected with a conflict changes no row, and the
commit that follows it writes nothing. -/
theorem konflikt_unveraendert (lage : Lage) (now : Zeit) (akteur : Akteur) (dispatchId : Nat) (meldung : Meldung)
    {code : String} {auftrag stelle version : Option Nat} {angabe : Option String} {lage' : Lage}
    (raised : (Sitzung.setzeEinheitStatus now akteur dispatchId meldung).exec lage =
      (.error (.konflikt code auftrag stelle version angabe), lage')) :
    lage' = lage ∧ uebernommen lage ((Sitzung.setzeEinheitStatus now akteur dispatchId meldung).exec lage) = lage := by
  have same := setzeEinheitStatus_clean lage now akteur dispatchId meldung _ _ raised
  exact ⟨same, by rw [raised]; exact same⟩

/-- A unit on the site of its first order has a second one and wants to leave for it. -/
def zweiAuftraege : List Vorgang :=
  [.einheit { id := 0, lageId := 1, label := "RLF" }, .site { id := 0, majorIncidentId := 1, bezeichnung := "Keller" },
    .site { id := 0, majorIncidentId := 1, bezeichnung := "Baum" }, .disponiere 0 {} 1 1 1 none "abarbeitung" none,
    .disponiere 0 {} 1 1 2 none "abarbeitung" none, .status 1 {} 1 { neuerStatus := "vor_ort" }]

theorem konflikt_unveraendert_zweiAuftraege :
    uebernommen (Transition.run step {} zweiAuftraege)
      ((Sitzung.setzeEinheitStatus 2 {} 2 { neuerStatus := "anfahrt" }).exec (Transition.run step {} zweiAuftraege)) =
      Transition.run step {} zweiAuftraege :=
  (konflikt_unveraendert _ 2 {} 2 { neuerStatus := "anfahrt" }
    (Prod.ext (by decide +kernel : _ = Except.error (konflikt "aktiver_auftrag" (some 1) (some 1) none (some "Keller"))) rfl)).2

end Einsatzcockpit.Gsl
