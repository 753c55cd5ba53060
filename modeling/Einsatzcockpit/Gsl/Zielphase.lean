import Einsatzcockpit.Gsl.Records

namespace Einsatzcockpit.Gsl

/-- The automatic phase of the orders, if they have one, is the phase itself. -/
def Steht (dispatches : List EinheitSiteDispatch) (phase : SitePhase) : Prop :=
  ∀ ziel, zielphase dispatches (some phase) = some ziel → ziel = phase

/-- An unfinished order of the kind that makes a site `disponiert`. -/
def abzuarbeiten (d : EinheitSiteDispatch) : Bool :=
  d.auftragsart == .abarbeitung && unbeendet d

/-- One that makes it `in_arbeit`. -/
def bearbeitet (d : EinheitSiteDispatch) : Bool :=
  abzuarbeiten d && (d.einheitStatus == .vorOrt || d.einheitStatus == .inArbeit)

/-- The phase of a site whose `abarbeitung` orders are all finished or withdrawn. -/
def ruhephase (dispatches : List EinheitSiteDispatch) : Option SitePhase :=
  let abarbeitungen := dispatches.filter (·.auftragsart == .abarbeitung)
  let erkundungen := dispatches.filter (·.auftragsart == .erkundung)
  let nichtZurueckgezogeneA := abarbeitungen.filter (·.withdrawnAt.isNone)
  if nichtZurueckgezogeneA ≠ [] ∧ nichtZurueckgezogeneA.all (·.einheitStatus.beendet) then some .fertigGemeldet
  else if nichtZurueckgezogeneA = [] ∧ abarbeitungen ≠ [] ∧ ¬ erkundungen.any unbeendet then
    if erkundungen ≠ [] then some .bewertet else none
  else zielphaseErkundung erkundungen

theorem zielphase_eq (dispatches : List EinheitSiteDispatch) (phase : Option SitePhase) :
    zielphase dispatches phase =
      if dispatches.any bearbeitet then some .inArbeit
      else if dispatches.any abzuarbeiten then some (if phase = some .inArbeit then .inArbeit else .disponiert)
      else ruhephase dispatches := by
  have working : ((dispatches.filter (·.auftragsart == .abarbeitung)).filter unbeendet).any
      (fun d => d.einheitStatus == .vorOrt || d.einheitStatus == .inArbeit) = dispatches.any bearbeitet := by
    rw [List.filter_filter, List.any_filter]
    congr 1
    funext d
    rw [bearbeitet, abzuarbeiten, Bool.and_comm (unbeendet d)]
  have ordered : ((dispatches.filter (·.auftragsart == .abarbeitung)).filter unbeendet ≠ []) ↔
      dispatches.any abzuarbeiten = true := by
    simp [List.filter_eq_nil_iff, abzuarbeiten, and_comm]
  unfold zielphase
  dsimp only
  rw [working]
  simp only [ordered]
  rfl

variable {dispatches : List EinheitSiteDispatch} {phase : SitePhase}

theorem zielphase_steht {vorher : Option SitePhase} {ziel : SitePhase}
    (set : zielphase dispatches vorher = some ziel) : Steht dispatches ziel := by
  intro weiter again
  rw [zielphase_eq] at set again
  split at set
  · rw [if_pos ‹_›] at again
    cases set
    cases again
    rfl
  · next idle =>
    rw [if_neg idle] at again
    split at set
    · rw [if_pos ‹_›] at again
      split at set
      · cases set
        simpa using again.symm
      · cases set
        simpa using again.symm
    · rw [if_neg ‹_›, set] at again
      cases again
      rfl

theorem Steht.of_none {vorher : Option SitePhase} (none : zielphase dispatches vorher = none) :
    Steht dispatches phase := by
  intro ziel set
  rw [zielphase_eq] at none set
  split at none
  · cases none
  · next idle =>
    rw [if_neg idle] at set
    split at none
    · cases none
    · rw [if_neg ‹_›, none] at set
      cases set

theorem steht_nil : Steht [] phase := @Steht.of_none [] phase none rfl

/-- Writes that change neither the kind of an order nor whether it is finished or withdrawn. -/
structure Gleichrangig (werte : EinheitSiteDispatch → EinheitSiteDispatch) (d : EinheitSiteDispatch) : Prop where
  auftragsart : (werte d).auftragsart = d.auftragsart
  withdrawnAt : (werte d).withdrawnAt = d.withdrawnAt
  beendet : (werte d).einheitStatus.beendet = d.einheitStatus.beendet

theorem Gleichrangig.unbeendet {werte : EinheitSiteDispatch → EinheitSiteDispatch} {d : EinheitSiteDispatch}
    (same : Gleichrangig werte d) : unbeendet (werte d) = unbeendet d := by
  rw [Gsl.unbeendet, Gsl.unbeendet, same.withdrawnAt, same.beendet]

theorem Gleichrangig.abzuarbeiten {werte : EinheitSiteDispatch → EinheitSiteDispatch} {d : EinheitSiteDispatch}
    (same : Gleichrangig werte d) : abzuarbeiten (werte d) = abzuarbeiten d := by
  rw [Gsl.abzuarbeiten, Gsl.abzuarbeiten, same.auftragsart, same.unbeendet]

section Writes

variable {werte : EinheitSiteDispatch → EinheitSiteDispatch} (same : ∀ d ∈ dispatches, Gleichrangig werte d)
include same

theorem zielphaseErkundung_map : zielphaseErkundung (dispatches.map werte) = zielphaseErkundung dispatches := by
  have active : (dispatches.map werte).any unbeendet = dispatches.any unbeendet :=
    Relational.any_map_keeps fun d member => (same d member).unbeendet
  have finished : ((dispatches.map werte).all fun d => d.withdrawnAt.isSome || d.einheitStatus.beendet) =
      dispatches.all fun d => d.withdrawnAt.isSome || d.einheitStatus.beendet :=
    Relational.all_map_keeps fun d member => by rw [(same d member).withdrawnAt, (same d member).beendet]
  rw [zielphaseErkundung, zielphaseErkundung, active, finished]
  simp only [ne_eq, List.map_eq_nil_iff]

theorem ruhephase_map : ruhephase (dispatches.map werte) = ruhephase dispatches := by
  have kind (art : Auftragsart) : (dispatches.map werte).filter (·.auftragsart == art) =
      (dispatches.filter (·.auftragsart == art)).map werte :=
    Relational.filter_map_keeps fun d member => by rw [(same d member).auftragsart]
  have among (art : Auftragsart) : ∀ d ∈ dispatches.filter (·.auftragsart == art), Gleichrangig werte d :=
    fun d member => same d (List.mem_of_mem_filter member)
  have kept : ((dispatches.filter (·.auftragsart == .abarbeitung)).map werte).filter (·.withdrawnAt.isNone) =
      ((dispatches.filter (·.auftragsart == .abarbeitung)).filter (·.withdrawnAt.isNone)).map werte :=
    Relational.filter_map_keeps fun d member => by rw [(among _ d member).withdrawnAt]
  have finished : (((dispatches.filter (·.auftragsart == .abarbeitung)).filter (·.withdrawnAt.isNone)).map werte).all
      (·.einheitStatus.beendet) =
        ((dispatches.filter (·.auftragsart == .abarbeitung)).filter (·.withdrawnAt.isNone)).all
          (·.einheitStatus.beendet) :=
    Relational.all_map_keeps fun d member => (among _ d (List.mem_of_mem_filter member)).beendet
  have active : ((dispatches.filter (·.auftragsart == .erkundung)).map werte).any unbeendet =
      (dispatches.filter (·.auftragsart == .erkundung)).any unbeendet :=
    Relational.any_map_keeps fun d member => (among _ d member).unbeendet
  unfold ruhephase
  dsimp only
  rw [kind, kind, kept, finished, active, zielphaseErkundung_map (among _)]
  simp only [ne_eq, List.map_eq_nil_iff]

theorem Steht.map (steht : Steht dispatches phase)
    (idle : ∀ d ∈ dispatches, bearbeitet (werte d) = true → bearbeitet d = true) :
    Steht (dispatches.map werte) phase := by
  have ordered : (dispatches.map werte).any abzuarbeiten = dispatches.any abzuarbeiten :=
    Relational.any_map_keeps fun d member => (same d member).abzuarbeiten
  intro ziel set
  rw [zielphase_eq, ordered, ruhephase_map same] at set
  by_cases before : dispatches.any bearbeitet = true
  · have running : phase = .inArbeit := (steht .inArbeit (by rw [zielphase_eq, if_pos before])).symm
    obtain ⟨d, member, works⟩ := List.any_eq_true.mp before
    have open_ : dispatches.any abzuarbeiten = true := by
      rw [bearbeitet, Bool.and_eq_true] at works
      exact List.any_eq_true.mpr ⟨d, member, works.1⟩
    rw [open_, running] at set
    rw [running]
    split at set <;> cases set <;> rfl
  · have after : ¬ (dispatches.map werte).any bearbeitet = true := by
      intro works
      obtain ⟨d', member', works'⟩ := List.any_eq_true.mp works
      obtain ⟨d, member, rfl⟩ := List.mem_map.mp member'
      exact before (List.any_eq_true.mpr ⟨d, member, idle d member works'⟩)
    rw [if_neg after] at set
    exact steht ziel (by rw [zielphase_eq, if_neg before]; exact set)

end Writes

end Einsatzcockpit.Gsl
