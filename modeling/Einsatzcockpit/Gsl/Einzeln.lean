import Einsatzcockpit.Gsl.Platz

namespace Einsatzcockpit.Gsl

def einheitUndArt (d : EinheitSiteDispatch) : Nat × Auftragsart := (d.einheitId, d.auftragsart)

def lebtAn (siteId : Nat) (key : Nat × Auftragsart) (d : EinheitSiteDispatch) : Bool :=
  d.siteId == siteId && d.offen && einheitUndArt d == key

variable {siteId : Nat} {d : EinheitSiteDispatch} {stand : List EinheitSiteDispatch} {lage lage' : Lage} {now : Zeit}
  {akteur : Akteur}

theorem lebtAn_iff {key : Nat × Auftragsart} :
    lebtAn siteId key d = true ↔ d.siteId = siteId ∧ d.offen = true ∧ einheitUndArt d = key := by
  simp [lebtAn, and_assoc]

theorem offen_iff : d.offen = true ↔ d.withdrawnAt = none ∧ d.beendetAt = none := by
  simp [EinheitSiteDispatch.offen]

theorem zurueckzuziehen_lebt (nurFertig : ∀ d ∈ stand, NurFertigAb d) (member : d ∈ stand) (atSite : d.siteId = siteId) (open_ : d.offen = true) :
    ∃ row ∈ stand, zurueckzuziehen stand d.einheitId siteId (some d.auftragsart) = some row ∧
      lebtAn siteId (einheitUndArt d) row = true := by
  obtain ⟨kept, going⟩ := offen_iff.mp open_
  have present : d.abgezogenAt = none := by
    by_contra pulled
    have ended := nurFertig d member (Option.isSome_iff_ne_none.mpr pulled)
    simp [going] at ended
  unfold zurueckzuziehen
  dsimp only
  generalize passend : (stand.filter fun row => row.einheitId == d.einheitId && row.siteId == siteId &&
    row.withdrawnAt.isNone && row.abgezogenAt.isNone && (some d.auftragsart).all fun art => row.auftragsart == art) =
    passende
  have inside : d ∈ passende := by
    rw [← passend]
    exact List.mem_filter.mpr ⟨member, by simp [atSite, kept, present]⟩
  obtain ⟨row, found⟩ : ∃ row, passende.find? (·.beendetAt.isNone) = some row :=
    Option.isSome_iff_exists.mp (List.find?_isSome.mpr ⟨d, inside, by simp [going]⟩)
  have fits := List.mem_of_find?_eq_some found
  rw [← passend] at fits
  obtain ⟨isIn, same⟩ := List.mem_filter.mp fits
  have still : row.beendetAt.isNone = true := by simpa using List.find?_some found
  simp only [Option.all_some, Bool.and_eq_true, beq_iff_eq] at same
  obtain ⟨⟨⟨⟨ofUnit, rowSite⟩, rowKept⟩, -⟩, art⟩ := same
  refine ⟨row, isIn, by rw [found, Option.some_or], lebtAn_iff.mpr ⟨rowSite, ?_, ?_⟩⟩
  · simp [EinheitSiteDispatch.offen, rowKept, still]
  · simp [einheitUndArt, ofUnit, art]

theorem withdrawFromSite_writes
    {einheitId lageId : Nat} {grund : Option String} {auftragsart : Option Auftragsart} {result : Bool}
    (done : withdrawFromSite lage stand now akteur einheitId lageId siteId grund auftragsart = (.ok result, lage'))
    {row : EinheitSiteDispatch} (found : zurueckzuziehen stand einheitId siteId auftragsart = some row)
    (open_ : row.offen = true) :
    lage'.dispatches = (lage.setDispatch row.id (zurueckgezogen now akteur grund)).dispatches := by
  unfold withdrawFromSite at done
  rw [found] at done
  split at done
  · cases done
  · split at done
    · cases done
    · next missing =>
      cases missing
    · next picked same =>
      cases same
      split at done
      · next ended =>
        simp [(offen_iff.mp open_).2] at ended
      · cases done
        exact aktualisiereSitePhase_dispatches _ siteId

theorem zurueckgezogen_offen (now : Zeit) (akteur : Akteur) (grund : Option String) (d : EinheitSiteDispatch) :
    (zurueckgezogen now akteur grund d).offen = false := by
  simp [EinheitSiteDispatch.offen, zurueckgezogen]

theorem zieheZurueck_einzeln {site : IncidentSite}
    {aktive : List EinheitSiteDispatch} (nurFertig : ∀ d ∈ stand, NurFertigAb d)
    (einzeln : ∀ d ∈ stand, ∀ other ∈ stand, d.siteId = site.id → d.offen = true →
      lebtAn site.id (einheitUndArt d) other = true → d = other)
    (live : ∀ d ∈ aktive, d ∈ stand ∧ d.siteId = site.id ∧ d.offen = true) {result : Unit}
    (done : zieheZurueck false now akteur site stand aktive lage = (.ok result, lage')) :
    ∀ d' ∈ lage'.dispatches, d'.offen = true → d' ∈ lage.dispatches ∧ ∀ d ∈ aktive, d'.id ≠ d.id := by
  induction aktive generalizing lage with
  | nil =>
    cases done
    exact fun d' member _ => ⟨member, fun _ none => absurd none List.not_mem_nil⟩
  | cons d rest ih =>
    unfold zieheZurueck at done
    split at done
    · cases done
    · next ok between withdrawn =>
      obtain ⟨member, atSite, open_⟩ := live d (List.mem_cons_self ..)
      obtain ⟨row, isIn, found, lebt⟩ := zurueckzuziehen_lebt nurFertig member atSite open_
      have picked := einzeln d member row isIn atSite open_ lebt
      have written := withdrawFromSite_writes withdrawn found (lebtAn_iff.mp lebt).2.1
      rw [← picked] at written
      intro d' inside open'
      obtain ⟨old, others⟩ := ih (fun other later => live other (List.mem_cons_of_mem _ later)) done d' inside open'
      rw [written] at old
      obtain ⟨before, wasIn, result⟩ := (mem_setDispatch lage d.id).mp old
      split at result
      · rw [← result, zurueckgezogen_offen] at open'
        cases open'
      · next differs =>
        subst result
        refine ⟨wasIn, fun other listed => ?_⟩
        rcases List.mem_cons.mp listed with rfl | later
        · exact differs
        · exact others other later

theorem zieheZurueck_flush {site : IncidentSite} {aktive : List EinheitSiteDispatch} (nummeriert : lage.Nummeriert) (nurFertig : ∀ d ∈ lage.dispatches, NurFertigAb d)
    (count : ∀ key, lage.dispatches.countP (lebtAn site.id key) = aktive.countP fun d => einheitUndArt d == key)
    {result : Unit}
    (done : zieheZurueck true now akteur site lage.dispatches aktive lage = (.ok result, lage')) :
    ∀ key, lage'.dispatches.countP (lebtAn site.id key) = 0 := by
  induction aktive generalizing lage with
  | nil =>
    cases done
    intro key
    rw [count key, List.countP_nil]
  | cons d rest ih =>
    unfold zieheZurueck at done
    split at done
    · cases done
    · next ok between withdrawn =>
      obtain ⟨live, member, lives⟩ : ∃ live ∈ lage.dispatches, lebtAn site.id (einheitUndArt d) live = true := by
        refine List.countP_pos_iff.mp ?_
        rw [count, List.countP_cons_of_pos (by simp)]
        omega
      obtain ⟨atSite, open_, same⟩ := lebtAn_iff.mp lives
      obtain ⟨row, isIn, found, rowLives⟩ := zurueckzuziehen_lebt nurFertig member atSite open_
      rw [same] at rowLives
      obtain ⟨sameUnit, sameArt⟩ := Prod.mk.inj same
      rw [sameUnit, sameArt] at found
      have written := withdrawFromSite_writes withdrawn found (lebtAn_iff.mp rowLives).2.1
      have keeps : ∀ d, (zurueckgezogen now akteur (some "Einsatz abgeschlossen") d).id = d.id := fun _ => rfl
      have numbered : between.Nummeriert := (withdrawFromSite_loest nummeriert (.self lage) withdrawn).nummeriert nummeriert
      simp only [if_true] at done
      refine ih numbered (fun d' inside => ?_) (fun key => ?_) done
      · rw [written] at inside
        obtain ⟨before, wasIn, result⟩ := (mem_setDispatch lage row.id).mp inside
        have kept := nurFertig before wasIn
        rw [← result]
        split <;> exact kept
      · have gone : lebtAn site.id key (zurueckgezogen now akteur (some "Einsatz abgeschlossen") row) = false := by
          simp [lebtAn, zurueckgezogen_offen]
        have nodup : (lage.dispatches.map (·.id)).Nodup := nummeriert.dispatches ▸ List.nodup_range'
        have less := Relational.countP_update_gone (·.id) nodup isIn gone
        have total := count key
        rw [List.countP_cons] at total
        have picks : lebtAn site.id key row = (einheitUndArt d == key) := by
          obtain ⟨rowSite, rowOpen, rowKey⟩ := lebtAn_iff.mp rowLives
          simp [lebtAn, rowSite, rowOpen, rowKey]
        rw [picks] at less
        rw [written]
        simp only [Lage.setDispatch]
        omega

end Einsatzcockpit.Gsl

namespace Einsatzcockpit.Gsl

open Transition

def gleichartig (d other : EinheitSiteDispatch) : Bool :=
  offeneAn d.einheitId d.siteId other && other.auftragsart == d.auftragsart

def platzFrei (lage : Lage) : Vorgang → Bool
  | .oeffne _ dispatchId =>
    (lage.dispatch? dispatchId).all fun d =>
      d.beendetAt.isNone || d.withdrawnAt.isSome || !lage.dispatches.any (gleichartig d)
  | _ => true

def Lage.Einzeln (lage : Lage) : Prop :=
  ∀ d ∈ lage.dispatches, ∀ d' ∈ lage.dispatches, d.offen = true → d'.offen = true → d.einheitId = d'.einheitId →
    d.siteId = d'.siteId → d.auftragsart = d'.auftragsart → d = d'

variable {d : EinheitSiteDispatch} {lage : Lage} {vorgang : Vorgang}

theorem gleichartig_iff {other : EinheitSiteDispatch} :
    gleichartig d other = true ↔ other.offen = true ∧ other.einheitId = d.einheitId ∧ other.siteId = d.siteId ∧
      other.auftragsart = d.auftragsart := by
  simp only [gleichartig, offeneAn, Bool.and_eq_true, beq_iff_eq]
  constructor
  · rintro ⟨⟨⟨unit, site⟩, open_⟩, art⟩
    exact ⟨open_, unit, site, art⟩
  · rintro ⟨open_, unit, site, art⟩
    exact ⟨⟨⟨unit, site⟩, open_⟩, art⟩

theorem Schritte.withdrawn {oeffnet : Nat → Prop} {d' : EinheitSiteDispatch}
    (schritte : Relation.ReflTransGen (Schritt oeffnet) d d') (kept : d'.withdrawnAt = none) : d.withdrawnAt = none := by
  induction schritte with
  | refl => exact kept
  | tail before last ih =>
    refine ih ?_
    cases last with
    | verlegt | zurueckgezogen => cases kept
    | vorOrt | abgezogen | unterbrochen | gemeldet | wiedereroeffnet => exact kept

section

variable (nummeriert : lage.Nummeriert) (frei : platzFrei lage vorgang = true)
include nummeriert frei

theorem platzFrei_reopened (member : d ∈ lage.dispatches)
    (reopens : vorgang.oeffnet d.id) (kept : d.withdrawnAt = none) (closed : d.offen = false) :
    ∀ other ∈ lage.dispatches, gleichartig d other = false := by
  intro other inside
  obtain ⟨now, rfl⟩ := reopens
  have ended : d.beendetAt ≠ none := fun none => by simp [offen_iff.mpr ⟨kept, none⟩] at closed
  simp only [platzFrei, nummeriert.dispatch?_of_mem member, Option.all_some, kept] at frei
  by_contra like
  have any : lage.dispatches.any (gleichartig d) = true :=
    List.any_eq_true.mpr ⟨other, inside, (Bool.not_eq_false _).mp like⟩
  simp [any, ended] at frei

theorem step_allein {d' : EinheitSiteDispatch} (member : d' ∈ (step lage vorgang).dispatches)
    (open_ : d'.offen = true) :
    ∃ d, SameOrder d d' ∧ ((d ∈ lage.dispatches ∧ d.offen = true) ∨
      (∀ other ∈ lage.dispatches, gleichartig d other = false) ∧
        ((d ∈ lage.dispatches ∧ vorgang.oeffnet d.id) ∨ Neu lage vorgang d)) := by
  obtain ⟨d, source, schritte⟩ := step_zeilen nummeriert vorgang d' member
  refine ⟨d, Schritte.same schritte, ?_⟩
  rcases source with old | neu
  · by_cases was : d.offen = true
    · exact Or.inl ⟨old, was⟩
    · have reopens : vorgang.oeffnet d.id := by
        by_contra none
        exact was (Schritte.offen schritte none open_)
      have kept := Schritte.withdrawn schritte (offen_iff.mp open_).1
      have alone := platzFrei_reopened nummeriert frei old reopens kept (by simpa using was)
      exact Or.inr ⟨alone, Or.inl ⟨old, reopens⟩⟩
  · refine Or.inr ⟨fun other inside => ?_, Or.inr neu⟩
    cases neu with
    | disponiert frisch lageId orders site found open_ frei =>
      by_contra like
      obtain ⟨isOpen, unit, atSite, art⟩ := gleichartig_iff.mp ((Bool.not_eq_false _).mp like)
      exact frei other inside (by simp [offeneAn, isOpen, unit, atSite]) art
    | angekommen frisch lageId arrives e ofLage stelle frei weicht =>
      simp [gleichartig, frei other inside]

end

theorem SameOrder.gleichartig {a b a' b' : EinheitSiteDispatch} (first : SameOrder a a') (second : SameOrder b b')
    (open_ : b.offen = true) (unit : a'.einheitId = b'.einheitId) (site : a'.siteId = b'.siteId)
    (art : a'.auftragsart = b'.auftragsart) : Gsl.gleichartig a b = true := by
  refine gleichartig_iff.mpr ⟨open_, ?_, ?_, ?_⟩
  · rw [← first.einheitId, ← second.einheitId, unit]
  · rw [← first.siteId, ← second.siteId, site]
  · rw [← first.auftragsart, ← second.auftragsart, art]

theorem step_einzeln (gueltig : lage.Gueltig) (einzeln : lage.Einzeln)
    (frei : platzFrei lage vorgang = true) : (step lage vorgang).Einzeln := by
  intro a' inside b' inside' open_ open' unit site art
  have nummeriert := gueltig.einOrt.nummeriert
  have numbered := (step_einOrt gueltig vorgang).nummeriert
  obtain ⟨a, same, sourceA⟩ := step_allein nummeriert frei inside open_
  obtain ⟨b, same', sourceB⟩ := step_allein nummeriert frei inside' open'
  refine numbered.dispatch_inj inside inside' ?_
  rw [same.id, same'.id]
  rcases sourceA with ⟨oldA, openA⟩ | ⟨aloneA, bornA⟩
  · rcases sourceB with ⟨oldB, openB⟩ | ⟨aloneB, -⟩
    · obtain ⟨-, unitB, siteB, artB⟩ := gleichartig_iff.mp (same.gleichartig same' openB unit site art)
      rw [einzeln a oldA b oldB openA openB unitB.symm siteB.symm artB.symm]
    · have like := same'.gleichartig same openA unit.symm site.symm art.symm
      simp [aloneB a oldA] at like
  · rcases sourceB with ⟨oldB, openB⟩ | ⟨-, bornB⟩
    · have like := same.gleichartig same' openB unit site art
      simp [aloneA b oldB] at like
    · rcases bornA with ⟨-, now, reopensA⟩ | neuA
      · rcases bornB with ⟨-, now', reopensB⟩ | neuB
        · rw [reopensA] at reopensB
          exact (Vorgang.oeffne.inj reopensB).2
        · cases neuB with
          | disponiert frisch lageId orders => simp [reopensA, Vorgang.disposition] at orders
          | angekommen frisch lageId arrives => simp [reopensA, Vorgang.ankunft] at arrives
      · rcases bornB with ⟨-, now', reopensB⟩ | neuB
        · cases neuA with
          | disponiert frisch lageId orders => simp [reopensB, Vorgang.disposition] at orders
          | angekommen frisch lageId arrives => simp [reopensB, Vorgang.ankunft] at arrives
        · rw [neuA.frisch.id, neuB.frisch.id]

/-- As long as no order is reopened beside a live one of its unit, site and
kind, no unit ever has two of them. -/
theorem einheit_einzeln (vorgaenge : List Vorgang)
    (frei : Meets step (fun lage vorgang => platzFrei lage vorgang = true) {} vorgaenge) :
    ∀ d ∈ (run step {} vorgaenge).dispatches, ∀ d' ∈ (run step {} vorgaenge).dispatches, d.offen = true →
      d'.offen = true → d.einheitId = d'.einheitId → d.siteId = d'.siteId → d.auftragsart = d'.auftragsart → d = d' := by
  have start : Lage.Gueltig {} ∧ Lage.Einzeln {} :=
    ⟨run_gueltig [], fun _ member => absurd member List.not_mem_nil⟩
  refine (run_induction (fun lage => lage.Gueltig ∧ lage.Einzeln) (fun lage vorgang held frei => ?_) start frei).2
  exact ⟨⟨step_einOrt held.1 vorgang, step_stimmig held.1 vorgang⟩, step_einzeln held.1 held.2 frei⟩

def zweiterAuftrag : List Vorgang :=
  [.einheit { id := 0, lageId := 1, label := "RLF" },
    .site { id := 0, majorIncidentId := 1, bezeichnung := "Keller" },
    .disponiere 0 {} 1 1 1 none "abarbeitung" none,
    .status 1 {} 1 { neuerStatus := "nicht_durchfuehrbar", grund := some "Zufahrt gesperrt" },
    .disponiere 2 {} 1 1 1 none "abarbeitung" none]

theorem einheit_einzeln_reopened :
    Meets step (fun lage vorgang => platzFrei lage vorgang = true) {} (zweiterAuftrag.take 4 ++ [.oeffne 3 1]) ∧
    ∀ d ∈ (run step {} (zweiterAuftrag.take 4 ++ [.oeffne 3 1])).dispatches,
      ∀ d' ∈ (run step {} (zweiterAuftrag.take 4 ++ [.oeffne 3 1])).dispatches, d.offen = true → d'.offen = true →
        d.einheitId = d'.einheitId → d.siteId = d'.siteId → d.auftragsart = d'.auftragsart → d = d' :=
  have frei : Meets step (fun lage vorgang => platzFrei lage vorgang = true) {}
      (zweiterAuftrag.take 4 ++ [.oeffne 3 1]) := by decide +kernel
  ⟨frei, einheit_einzeln (zweiterAuftrag.take 4 ++ [.oeffne 3 1]) frei⟩

/-- Reopening the first order leaves the unit with two live ones. -/
theorem oeffne_zweiter : ∃ d ∈ (run step {} (zweiterAuftrag ++ [.oeffne 3 1])).dispatches,
    ∃ d' ∈ (run step {} (zweiterAuftrag ++ [.oeffne 3 1])).dispatches, d.offen = true ∧ d'.offen = true ∧
      d.einheitId = d'.einheitId ∧ d.siteId = d'.siteId ∧ d.auftragsart = d'.auftragsart ∧ d.id ≠ d'.id := by
  decide +kernel

/-- In the second part of the run the order was sent out or reopened. -/
def Belebt (before after : List Vorgang) (d' : EinheitSiteDispatch) : Prop :=
  ∃ first vorgang rest d, after = first ++ vorgang :: rest ∧ SameOrder d d' ∧
    (Neu (run step {} (before ++ first)) vorgang d ∨ vorgang.oeffnet d.id)

theorem auftrag_belebt (before after : List Vorgang) {d' : EinheitSiteDispatch}
    (dead : ∀ d ∈ (run step {} before).dispatches, SameOrder d d' → d.offen = false)
    (member : d' ∈ (run step {} (before ++ after)).dispatches) (alive : d'.offen = true) : Belebt before after d' := by
  rw [run_append] at member
  have none : ¬ ∃ z ∈ (run step {} before).dispatches, SameOrder z d' ∧ z.offen = true := by
    rintro ⟨z, inside, same, open_⟩
    simp [dead z inside same] at open_
  obtain ⟨first, vorgang, rest, rfl, still, z, inside, same, open_⟩ :=
    exists_becomes (fun lage : Lage => ∃ z ∈ lage.dispatches, SameOrder z d' ∧ z.offen = true) none
      ⟨d', member, .refl d', alive⟩
  rw [← run_append] at still inside
  obtain ⟨d, source, schritte⟩ := step_zeilen (run_gueltig (before ++ first)).einOrt.nummeriert vorgang z inside
  have likewise := (Schritte.same schritte).trans same
  refine ⟨first, vorgang, rest, d, rfl, likewise, source.symm.imp_right fun old => ?_⟩
  by_contra kept
  exact still ⟨d, old, likewise, Schritte.offen schritte kept open_⟩

theorem auftrag_belebt_reopened :
    ∃ d' ∈ (run step {} (zweiterAuftrag.take 4 ++ [.oeffne 3 1])).dispatches,
      Belebt (zweiterAuftrag.take 4) [.oeffne 3 1] d' := by
  obtain ⟨d', member, dead, alive⟩ : ∃ d' ∈ (run step {} (zweiterAuftrag.take 4 ++ [.oeffne 3 1])).dispatches,
    (∀ d ∈ (run step {} (zweiterAuftrag.take 4)).dispatches, d.offen = false) ∧ d'.offen = true := by decide +kernel
  exact ⟨d', member, auftrag_belebt _ _ (fun d inside _ => dead d inside) member alive⟩

end Einsatzcockpit.Gsl
