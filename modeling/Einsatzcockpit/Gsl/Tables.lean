import Einsatzcockpit.Gsl.Status

namespace Einsatzcockpit.Gsl

section Writes

variable (lage : Lage) (id : Nat)

theorem mem_setDispatch {werte : EinheitSiteDispatch → EinheitSiteDispatch} {d' : EinheitSiteDispatch} :
    d' ∈ (lage.setDispatch id werte).dispatches ↔
      ∃ d ∈ lage.dispatches, (if d.id = id then werte d else d) = d' := by
  simp [Lage.setDispatch, Relational.mem_update]

theorem mem_setEinheit {werte : LageEinheit → LageEinheit} {e' : LageEinheit} :
    e' ∈ (lage.setEinheit id werte).einheiten ↔ ∃ e ∈ lage.einheiten, (if e.id = id then werte e else e) = e' := by
  simp [Lage.setEinheit, Relational.mem_update]

theorem mem_addDispatch {dispatch d' : EinheitSiteDispatch} :
    d' ∈ (lage.addDispatch dispatch).dispatches ↔ d' ∈ lage.dispatches ∨ d' = dispatch := by
  simp [Lage.addDispatch]

end Writes

/-- Two states differ at most in the phases and the order of their sites. -/
structure NurSites (lage lage' : Lage) : Prop where
  einheiten : lage'.einheiten = lage.einheiten
  dispatches : lage'.dispatches = lage.dispatches
  sectors : lage'.sectors = lage.sectors

section

variable (lage : Lage)
include lage

theorem NurSites.refl : NurSites lage lage := ⟨rfl, rfl, rfl⟩

theorem setzeSitePhase_nurSites (siteId : Nat) (phase : SitePhase) (sortIndex : Option Int) :
    NurSites lage (setzeSitePhase lage siteId phase sortIndex).2 := by
  unfold setzeSitePhase
  split
  · exact .refl lage
  · dsimp only
    split <;> exact ⟨rfl, rfl, rfl⟩

theorem aktualisiereSitePhase_nurSites (siteId : Nat) :
    NurSites lage (aktualisiereSitePhase lage siteId).2 := by
  unfold aktualisiereSitePhase
  split
  · exact .refl lage
  · split
    · exact .refl lage
    · split
      · exact .refl lage
      · exact setzeSitePhase_nurSites lage siteId _ none

@[simp] theorem aktualisiereSitePhase_dispatches (siteId : Nat) :
    (aktualisiereSitePhase lage siteId).2.dispatches = lage.dispatches :=
  (aktualisiereSitePhase_nurSites lage siteId).dispatches

theorem setzeSitePhase_lageId (siteId : Nat) (phase : SitePhase) (sortIndex : Option Int) (id : Nat) :
    ((setzeSitePhase lage siteId phase sortIndex).2.site? id).map (·.majorIncidentId) =
      (lage.site? id).map (·.majorIncidentId) := by
  have set : ∀ (lage : Lage) (werte : IncidentSite → IncidentSite), (∀ site, (werte site).id = site.id) →
      (∀ site, (werte site).majorIncidentId = site.majorIncidentId) →
      ((lage.setSite siteId werte).site? id).map (·.majorIncidentId) = (lage.site? id).map (·.majorIncidentId) := by
    intro lage werte keepsId keeps
    unfold Lage.site? Lage.setSite
    rw [Relational.find?_update _ _ _ _ fun site _ => by rw [keepsId], Option.map_map]
    congr 1
    funext site
    simp only [Function.comp_apply]
    split
    · exact keeps site
    · rfl
  unfold setzeSitePhase
  split
  · rfl
  · dsimp only
    split
    · refine set lage _ (fun site => ?_) fun site => ?_ <;> rfl
    · refine (set _ _ (fun site => ?_) fun site => ?_).trans (set lage _ (fun site => ?_) fun site => ?_) <;> rfl

theorem aktualisiereSitePhase_lageId (siteId id : Nat) :
    ((aktualisiereSitePhase lage siteId).2.site? id).map (·.majorIncidentId) =
      (lage.site? id).map (·.majorIncidentId) := by
  unfold aktualisiereSitePhase
  split
  · rfl
  · split
    · rfl
    · split
      · rfl
      · exact setzeSitePhase_lageId lage siteId _ none id

end

section Found

variable {lage : Lage}

theorem getSite_ok {siteId lageId : Nat} {site : IncidentSite} (found : getSite lage siteId lageId = .ok site) :
    lage.site? siteId = some site ∧ site.majorIncidentId = lageId := by
  unfold getSite at found
  split at found
  · split at found
    · cases found
      exact ⟨‹_›, ‹_›⟩
    · cases found
  · cases found

theorem site?_id {id : Nat} {site : IncidentSite} (found : lage.site? id = some site) : site.id = id := by
  simpa using List.find?_some found

theorem mem_of_dispatch? {id : Nat} {d : EinheitSiteDispatch} (found : lage.dispatch? id = some d) :
    d ∈ lage.dispatches ∧ d.id = id :=
  ⟨List.mem_of_find?_eq_some found, by simpa using List.find?_some found⟩

end Found

structure Lage.Nummeriert (lage : Lage) : Prop where
  einheiten : lage.einheiten.map (·.id) = List.range' 1 lage.einheiten.length
  sites : lage.sites.map (·.id) = List.range' 1 lage.sites.length
  dispatches : lage.dispatches.map (·.id) = List.range' 1 lage.dispatches.length

namespace Lage.Nummeriert

variable {lage : Lage} (nummeriert : lage.Nummeriert)
include nummeriert

theorem dispatch_inj {d d' : EinheitSiteDispatch} (member : d ∈ lage.dispatches) (member' : d' ∈ lage.dispatches)
    (same : d.id = d'.id) : d = d' := by
  have nodup : (lage.dispatches.map (·.id)).Nodup := nummeriert.dispatches ▸ List.nodup_range'
  exact List.inj_on_of_nodup_map nodup member member' same

theorem dispatch_id_lt {d : EinheitSiteDispatch} (member : d ∈ lage.dispatches) : d.id < lage.naechsteId := by
  have inside : d.id ∈ lage.dispatches.map (·.id) := List.mem_map_of_mem member
  rw [nummeriert.dispatches, List.mem_range'_1] at inside
  unfold Lage.naechsteId
  omega

theorem dispatch?_of_mem {d : EinheitSiteDispatch} (member : d ∈ lage.dispatches) :
    lage.dispatch? d.id = some d := by
  obtain ⟨other, found⟩ : ∃ other, lage.dispatch? d.id = some other := by
    refine Option.isSome_iff_exists.mp (List.find?_isSome.mpr ⟨d, member, by simp⟩)
  obtain ⟨inside, same⟩ := mem_of_dispatch? found
  rw [found, nummeriert.dispatch_inj inside member same]

theorem setEinheit (id : Nat) {werte : LageEinheit → LageEinheit} (keeps : ∀ e, (werte e).id = e.id) :
    (lage.setEinheit id werte).Nummeriert := by
  refine ⟨?_, nummeriert.sites, nummeriert.dispatches⟩
  simp only [Lage.setEinheit, Relational.map_update keeps, Relational.length_update]
  exact nummeriert.einheiten

theorem setDispatch (id : Nat) {werte : EinheitSiteDispatch → EinheitSiteDispatch}
    (keeps : ∀ d, (werte d).id = d.id) : (lage.setDispatch id werte).Nummeriert := by
  refine ⟨nummeriert.einheiten, nummeriert.sites, ?_⟩
  simp only [Lage.setDispatch, Relational.map_update keeps, Relational.length_update]
  exact nummeriert.dispatches

theorem setSite (id : Nat) {werte : IncidentSite → IncidentSite} (keeps : ∀ site, (werte site).id = site.id) :
    (lage.setSite id werte).Nummeriert := by
  refine ⟨nummeriert.einheiten, ?_, nummeriert.dispatches⟩
  simp only [Lage.setSite, Relational.map_update keeps, Relational.length_update]
  exact nummeriert.sites

theorem addDispatch {d : EinheitSiteDispatch} (next : d.id = lage.naechsteId) :
    (lage.addDispatch d).Nummeriert := by
  refine ⟨nummeriert.einheiten, nummeriert.sites, ?_⟩
  simp only [Lage.addDispatch, List.map_append, List.map_cons, List.map_nil, List.length_append,
    List.length_singleton, List.range'_concat, nummeriert.dispatches, next, Lage.naechsteId]
  rw [Nat.one_mul, Nat.add_comm 1]

theorem setzeSitePhase (siteId : Nat) (phase : SitePhase) (sortIndex : Option Int) :
    (setzeSitePhase lage siteId phase sortIndex).2.Nummeriert := by
  unfold Gsl.setzeSitePhase
  split
  · exact nummeriert
  · have keeps : ∀ site : IncidentSite,
        ({ site with sortIndex := sortIndex.getD site.sortIndex } : IncidentSite).id = site.id := fun _ => rfl
    have sorted := nummeriert.setSite siteId keeps
    dsimp only
    split
    · exact sorted
    · exact sorted.setSite siteId fun _ => rfl

theorem aktualisiereSitePhase (siteId : Nat) : (aktualisiereSitePhase lage siteId).2.Nummeriert := by
  unfold Gsl.aktualisiereSitePhase
  split
  · exact nummeriert
  · split
    · exact nummeriert
    · split
      · exact nummeriert
      · exact nummeriert.setzeSitePhase siteId _ none

end Lage.Nummeriert

end Einsatzcockpit.Gsl

namespace Einsatzcockpit.Gsl

open Relation

structure SameOrder (d d' : EinheitSiteDispatch) : Prop where
  id : d'.id = d.id
  einheitId : d'.einheitId = d.einheitId
  siteId : d'.siteId = d.siteId
  auftragsart : d'.auftragsart = d.auftragsart

theorem SameOrder.refl (d : EinheitSiteDispatch) : SameOrder d d := ⟨rfl, rfl, rfl, rfl⟩

theorem SameOrder.trans {a b c : EinheitSiteDispatch} (first : SameOrder a b) (second : SameOrder b c) :
    SameOrder a c :=
  ⟨second.id.trans first.id, second.einheitId.trans first.einheitId, second.siteId.trans first.siteId,
    second.auftragsart.trans first.auftragsart⟩

theorem pruefeUebergang_ok {site : IncidentSite} {dispatch : EinheitSiteDispatch} {meldung : Meldung}
    {neuer : EinheitStatus} (ok : pruefeUebergang site dispatch meldung = .ok neuer) :
    neuer ∈ uebergaenge dispatch.auftragsart dispatch.einheitStatus := by
  simp only [pruefeUebergang, bind, Except.bind, pure, Except.pure, throw, throwThe, MonadExceptOf.throw] at ok
  split at ok
  · cases ok
  · split at ok
    · next wanted _ =>
      split at ok
      · cases ok
      · next allowed =>
        have same : wanted = neuer := by
          split at ok
          · cases ok
          · split at ok
            · cases ok
            · split at ok
              · split at ok <;> cases ok
                rfl
              · cases ok
                rfl
        rw [← same]
        exact not_not.mp allowed
    · cases ok

theorem uebergaenge_spec {art : Auftragsart} {alter neuer : EinheitStatus} (allowed : neuer ∈ uebergaenge art alter) :
    alter.beendet = false ∧ (neuer.aktiv = true ∨ neuer.beendet = true ∨ neuer = .bestaetigt) := by
  revert allowed
  cases art <;> cases alter <;> cases neuer <;> decide

/-- What one write can do to a dispatch; only `oeffne_auftrag_wieder` reopens. -/
inductive Schritt (oeffnet : Nat → Prop) (d : EinheitSiteDispatch) : EinheitSiteDispatch → Prop
  | vorOrt (now : Zeit) (open_ : d.offen = true) : Schritt oeffnet d (vorOrt now d)
  | verlegt (now : Zeit) : Schritt oeffnet d { d with withdrawnAt := some now }
  | zurueckgezogen (now : Zeit) (akteur : Akteur) (grund : Option String) :
      Schritt oeffnet d (zurueckgezogen now akteur grund d)
  | abgezogen (now : Zeit) (akteur : Akteur) (automatisch : Bool) (ended : d.beendetAt.isSome = true) :
      Schritt oeffnet d (abgezogen now akteur automatisch d)
  | unterbrochen (now : Zeit) (active : d.aktiv = true) : Schritt oeffnet d (unterbrochen now d)
  | gemeldet (now : Zeit) (neuer : EinheitStatus) (grund : Option String) (kept : d.withdrawnAt = none)
      (allowed : neuer ∈ uebergaenge d.auftragsart d.einheitStatus) : Schritt oeffnet d (gemeldet now neuer grund d)
  | wiedereroeffnet (now : Zeit) (reopens : oeffnet d.id) (ended : d.beendetAt.isSome = true) :
      Schritt oeffnet d (wiedereroeffnet now d)

def Stimmig (d : EinheitSiteDispatch) : Prop :=
  d.beendetAt.isSome = d.einheitStatus.beendet

def NurFertigAb (d : EinheitSiteDispatch) : Prop :=
  d.abgezogenAt.isSome = true → d.beendetAt.isSome = true

namespace Schritt

variable {oeffnet : Nat → Prop} {d d' : EinheitSiteDispatch}

section

variable (schritt : Schritt oeffnet d d')
include schritt

theorem same : SameOrder d d' := by
  cases schritt <;> exact ⟨rfl, rfl, rfl, rfl⟩

theorem stimmig (stimmig : Stimmig d) : Stimmig d' := by
  cases schritt with
  | vorOrt now open_ =>
    simp only [EinheitSiteDispatch.offen, Bool.and_eq_true, Option.isNone_iff_eq_none] at open_
    have status : (Gsl.vorOrt now d).einheitStatus.beendet = false := by
      unfold Gsl.vorOrt
      dsimp only
      split <;> rfl
    show d.beendetAt.isSome = _
    rw [status, open_.2]
    rfl
  | verlegt | zurueckgezogen | abgezogen => exact stimmig
  | unterbrochen now active =>
    simp only [EinheitSiteDispatch.aktiv, EinheitSiteDispatch.offen, Bool.and_eq_true,
      Option.isNone_iff_eq_none] at active
    simp [Stimmig, Gsl.unterbrochen, active.1.2, EinheitStatus.beendet]
  | gemeldet now neuer grund kept allowed =>
    have before := (uebergaenge_spec allowed).1
    rw [Stimmig, before] at stimmig
    by_cases ends : neuer.beendet = true
    · simp [Stimmig, Gsl.gemeldet, ends]
    · simp [Stimmig, Gsl.gemeldet, ends, stimmig]
  | wiedereroeffnet now reopens ended => rfl

theorem nurFertigAb (nurFertig : NurFertigAb d) : NurFertigAb d' := by
  cases schritt with
  | vorOrt | verlegt | zurueckgezogen | unterbrochen => exact nurFertig
  | abgezogen now akteur automatisch ended => exact fun _ => ended
  | gemeldet now neuer grund kept allowed =>
    intro pulled
    have ended := nurFertig pulled
    simp only [Gsl.gemeldet]
    split
    · rfl
    · exact ended
  | wiedereroeffnet now reopens ended =>
    intro pulled
    cases pulled

theorem offen (closed : ¬ oeffnet d.id) (open_ : d'.offen = true) : d.offen = true := by
  simp only [EinheitSiteDispatch.offen, Bool.and_eq_true, Option.isNone_iff_eq_none] at open_ ⊢
  cases schritt with
  | vorOrt | abgezogen | unterbrochen => exact open_
  | verlegt => simp at open_
  | zurueckgezogen => simp [Gsl.zurueckgezogen] at open_
  | gemeldet now neuer grund kept allowed =>
    refine ⟨kept, ?_⟩
    have notEnded := open_.2
    simp only [Gsl.gemeldet] at notEnded
    split at notEnded
    · cases notEnded
    · exact notEnded
  | wiedereroeffnet now reopens ended => exact absurd reopens closed

end

end Schritt

namespace Schritte

variable {oeffnet : Nat → Prop} {d d' : EinheitSiteDispatch} (schritte : ReflTransGen (Schritt oeffnet) d d')
include schritte

theorem same : SameOrder d d' := by
  induction schritte with
  | refl => exact .refl d
  | tail _ last ih => exact ih.trans last.same

theorem stimmig (stimmig : Stimmig d) : Stimmig d' := by
  induction schritte with
  | refl => exact stimmig
  | tail _ last ih => exact last.stimmig ih

theorem nurFertigAb (nurFertig : NurFertigAb d) : NurFertigAb d' := by
  induction schritte with
  | refl => exact nurFertig
  | tail _ last ih => exact last.nurFertigAb ih

theorem offen (closed : ¬ oeffnet d.id) (open_ : d'.offen = true) : d.offen = true := by
  induction schritte with
  | refl => exact open_
  | tail before last ih =>
    have sameId := (Schritte.same before).id
    exact ih (last.offen (sameId ▸ closed) open_)

end Schritte

/-- Every dispatch of the new state comes from one of the old state or from a
new row. -/
def Zeilen (oeffnet : Nat → Prop) (neu : EinheitSiteDispatch → Prop) (lage lage' : Lage) : Prop :=
  ∀ d' ∈ lage'.dispatches, ∃ d, (d ∈ lage.dispatches ∨ neu d) ∧ ReflTransGen (Schritt oeffnet) d d'

namespace Zeilen

variable {oeffnet : Nat → Prop} {neu : EinheitSiteDispatch → Prop} {lage a b c : Lage}

theorem of_same (same : b.dispatches = a.dispatches) : Zeilen oeffnet neu a b :=
  fun d member => ⟨d, Or.inl (same ▸ member), .refl⟩

theorem refl (lage : Lage) : Zeilen oeffnet neu lage lage := of_same rfl

theorem trans (first : Zeilen oeffnet neu a b) (second : Zeilen oeffnet neu b c) : Zeilen oeffnet neu a c := by
  intro d'' member
  obtain ⟨d', source, schritte⟩ := second d'' member
  rcases source with inside | fresh
  · obtain ⟨d, source, before⟩ := first d' inside
    exact ⟨d, source, before.trans schritte⟩
  · exact ⟨d', Or.inr fresh, schritte⟩

theorem setDispatch (id : Nat) {werte : EinheitSiteDispatch → EinheitSiteDispatch}
    (schritt : ∀ d ∈ lage.dispatches, d.id = id → Schritt oeffnet d (werte d)) :
    Zeilen oeffnet neu lage (lage.setDispatch id werte) := by
  intro d' member
  obtain ⟨d, inside, result⟩ := (mem_setDispatch lage id).mp member
  refine ⟨d, Or.inl inside, ?_⟩
  split at result
  · next atId =>
    subst result
    exact .single (schritt d inside atId)
  · subst result
    exact .refl

theorem addDispatch {d : EinheitSiteDispatch} (fresh : neu d) : Zeilen oeffnet neu lage (lage.addDispatch d) := by
  intro d' member
  rcases (mem_addDispatch lage).mp member with old | rfl
  · exact ⟨d', Or.inl old, .refl⟩
  · exact ⟨d', Or.inr fresh, .refl⟩

theorem aktualisiereSitePhase (lage : Lage) (siteId : Nat) :
    Zeilen oeffnet neu lage (aktualisiereSitePhase lage siteId).2 :=
  of_same (aktualisiereSitePhase_dispatches lage siteId)

theorem setzeSitePhase (lage : Lage) (siteId : Nat) (phase : SitePhase) (sortIndex : Option Int) :
    Zeilen oeffnet neu lage (setzeSitePhase lage siteId phase sortIndex).2 :=
  of_same (setzeSitePhase_nurSites lage siteId phase sortIndex).dispatches

end Zeilen

/-- The unit, the major incident and the site of a request to send a unit out. -/
def Vorgang.disposition : Vorgang → Option (Nat × Nat × Nat)
  | .disponiere _ _ einheitId lageId siteId _ _ _ => some (einheitId, lageId, siteId)
  | _ => none

def Vorgang.ankunft : Vorgang → Option (Nat × Nat × Nat)
  | .vorOrt _ _ einheitId lageId siteId | .verlege _ _ einheitId lageId siteId => some (einheitId, lageId, siteId)
  | _ => none

/-- `set_vor_ort_at_site` gives way to an active order elsewhere, the resolved
conflict does not. -/
def Vorgang.weicht : Vorgang → Bool
  | .vorOrt .. => true
  | _ => false

def Vorgang.oeffnet (vorgang : Vorgang) (dispatchId : Nat) : Prop :=
  ∃ now, vorgang = .oeffne now dispatchId

structure Frisch (lage : Lage) (d : EinheitSiteDispatch) : Prop where
  id : d.id = lage.naechsteId
  status : d.einheitStatus = .zugewiesen
  withdrawnAt : d.withdrawnAt = none
  beendetAt : d.beendetAt = none
  abgezogenAt : d.abgezogenAt = none

def Lage.StelleIn (lage : Lage) (siteId lageId : Nat) : Prop :=
  (lage.site? siteId).map (·.majorIncidentId) = some lageId

/-- When a request adds a dispatch: at an open site where the unit has no live
order of the kind, or by an arrival where it has no live order at all. -/
inductive Neu (lage : Lage) (vorgang : Vorgang) (d : EinheitSiteDispatch) : Prop
  | disponiert (frisch : Frisch lage d) (lageId : Nat)
      (orders : vorgang.disposition = some (d.einheitId, lageId, d.siteId)) (site : IncidentSite)
      (found : lage.site? d.siteId = some site) (open_ : site.phase.geschlossen = false)
      (frei : ∀ d₀ ∈ lage.dispatches, offeneAn d.einheitId d.siteId d₀ = true → d₀.auftragsart ≠ d.auftragsart)
  | angekommen (frisch : Frisch lage d) (lageId : Nat)
      (arrives : vorgang.ankunft = some (d.einheitId, lageId, d.siteId)) (e : LageEinheit)
      (ofLage : getEinheit lage d.einheitId lageId = .ok e) (stelle : lage.StelleIn d.siteId lageId)
      (frei : ∀ d₀ ∈ lage.dispatches, offeneAn d.einheitId d.siteId d₀ = false)
      (weicht : vorgang.weicht = true → ∀ d₀ ∈ lage.dispatches, aktivAnderswo d.einheitId d.siteId d₀ = false)

theorem Neu.frisch {lage : Lage} {vorgang : Vorgang} {d : EinheitSiteDispatch} (neu : Neu lage vorgang d) :
    Frisch lage d := by
  cases neu with
  | disponiert frisch | angekommen frisch => exact frisch

end Einsatzcockpit.Gsl
