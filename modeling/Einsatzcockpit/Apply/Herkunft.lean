import Einsatzcockpit.Apply.Ingest

namespace Einsatzcockpit.Apply

theorem herkunft_speichereFeld (felder : List IncidentAlarmField) (incidentId orgId incidentId' orgId' : Nat)
    (feld feld' : Feld) (wert : Feldwert) (source : Source) (ingestId : Option Nat) (now : Zeit)
    (other : incidentId' ≠ incidentId ∨ orgId' ≠ orgId ∨ feld' ≠ feld) :
    herkunft (speichereFeld felder incidentId orgId feld wert source ingestId now) incidentId' orgId' feld' =
      herkunft felder incidentId' orgId' feld' := by
  unfold speichereFeld
  split
  · unfold herkunft
    rw [Relational.find?_update]
    · cases found : felder.find? fun eintrag =>
          eintrag.orgId == orgId' && eintrag.incidentId == incidentId' && eintrag.field == feld' with
      | none => rfl
      | some eintrag =>
        have keys := List.find?_some found
        simp only [Bool.and_eq_true, beq_iff_eq] at keys
        rw [Option.map_some, if_neg]
        rw [keys.1.1, keys.1.2, keys.2]
        simp only [Bool.and_eq_true, beq_iff_eq]
        tauto
    · exact fun eintrag _ => rfl
  · unfold herkunft
    rw [List.find?_append, List.find?_cons_of_neg, List.find?_nil, Option.or_none]
    simp only [Bool.and_eq_true, beq_iff_eq]
    tauto

def NurFelder (felder : List IncidentAlarmField) : Prop :=
  ∀ eintrag ∈ felder, eintrag.source = .manual → eintrag.field ≠ .codes

theorem NurFelder.speichereFeld {felder : List IncidentAlarmField} (nur : NurFelder felder) {incidentId orgId : Nat}
    {feld : Feld} {wert : Feldwert} {source : Source} {ingestId : Option Nat} {now : Zeit}
    (allowed : source = .manual → feld ≠ .codes) :
    NurFelder (speichereFeld felder incidentId orgId feld wert source ingestId now) := by
  unfold Apply.speichereFeld
  split
  · intro eintrag member manual
    obtain ⟨old, inside, rfl⟩ := Relational.mem_update.mp member
    split at manual
    · next hit =>
      rw [if_pos hit]
      simp only [Bool.and_eq_true, beq_iff_eq] at hit
      have notCodes := allowed manual
      rw [← hit.2] at notCodes
      exact notCodes
    · next miss =>
      rw [if_neg miss]
      exact nur old inside manual
  · intro eintrag member manual
    rcases List.mem_append.mp member with old | new
    · exact nur eintrag old manual
    · rw [List.mem_singleton.mp new] at manual ⊢
      exact allowed manual

theorem Einsatz.setze_wert (einsatz : Einsatz) {feld feld' : Feld} (other : feld' ≠ feld) (wert : Option String) :
    (einsatz.setze feld wert).wert feld' = einsatz.wert feld' := by
  cases feld <;> cases feld' <;> first | rfl | exact absurd rfl other

theorem Einsatz.setze_id (einsatz : Einsatz) (feld : Feld) (wert : Option String) :
    (einsatz.setze feld wert).id = einsatz.id ∧ (einsatz.setze feld wert).primaryOrgId = einsatz.primaryOrgId := by
  cases feld <;> exact ⟨rfl, rfl⟩

/-- What a part of a merge leaves: the fields marked as manual, the other
incidents, and a code that is not lowered. -/
structure Stand.Achtet (umgebung : Alarmumgebung) (orgId : Nat) (vor nach : Stand) : Prop where
  id : nach.incident.id = vor.incident.id
  primaryOrgId : nach.incident.primaryOrgId = vor.incident.primaryOrgId
  hoeher : Hoeher umgebung vor.incident.alarmTypeCode nach.incident.alarmTypeCode
  manuell : ∀ feld eintrag, feld ≠ .codes → herkunft vor.felder vor.incident.id orgId feld = some eintrag →
    eintrag.source = .manual → herkunft nach.felder vor.incident.id orgId feld = some eintrag ∧
      nach.incident.wert feld = vor.incident.wert feld
  andere : ∀ incidentId orgId' feld, incidentId ≠ vor.incident.id ∨ orgId' ≠ orgId →
    herkunft nach.felder incidentId orgId' feld = herkunft vor.felder incidentId orgId' feld
  nur : NurFelder vor.felder → NurFelder nach.felder

namespace Stand.Achtet

variable {umgebung : Alarmumgebung} {orgId : Nat} {a b c : Stand}

theorem of_same (incident : b.incident = a.incident) (felder : b.felder = a.felder) : Achtet umgebung orgId a b := by
  refine ⟨?_, ?_, ?_, fun feld eintrag _ found _ => ?_, fun _ _ _ _ => ?_, fun nur => ?_⟩
  · rw [incident]
  · rw [incident]
  · rw [incident]
    exact .refl _
  · rw [incident, felder]
    exact ⟨found, rfl⟩
  · rw [felder]
  · rw [felder]
    exact nur

theorem refl (stand : Stand) : Achtet umgebung orgId stand stand := of_same rfl rfl

theorem ergebnis (achtet : Achtet umgebung orgId a b) (ergebnis : MergeErgebnis) :
    Achtet umgebung orgId a { b with ergebnis } :=
  ⟨achtet.id, achtet.primaryOrgId, achtet.hoeher, achtet.manuell, achtet.andere, achtet.nur⟩

theorem trans (first : Achtet umgebung orgId a b) (second : Achtet umgebung orgId b c) : Achtet umgebung orgId a c := by
  refine ⟨second.id.trans first.id, second.primaryOrgId.trans first.primaryOrgId, first.hoeher.trans second.hoeher,
    fun feld eintrag notCodes found manual => ?_, fun incidentId orgId' feld other => ?_, second.nur ∘ first.nur⟩
  · obtain ⟨found', same⟩ := first.manuell feld eintrag notCodes found manual
    have later := second.manuell feld eintrag notCodes
    rw [first.id] at later
    obtain ⟨found'', same'⟩ := later found' manual
    exact ⟨found'', same'.trans same⟩
  · rw [second.andere incidentId orgId' feld (by rw [first.id]; exact other)]
    exact first.andere incidentId orgId' feld other

end Stand.Achtet

section Merge

variable {umgebung : Alarmumgebung} {auftrag : Auftrag}

variable (auftrag) in
theorem hinweis_same (feld : Feld) (wert : String) (stand : Stand) :
    (hinweis auftrag feld wert stand).incident = stand.incident ∧
      (hinweis auftrag feld wert stand).felder = stand.felder := by
  unfold hinweis
  dsimp only
  split <;> exact ⟨rfl, rfl⟩

theorem geschuetzt_spec {feld : Feld} {wert : String} {stand nach : Stand} {schutz : Bool}
    (asked : geschuetzt auftrag feld wert stand = (schutz, nach)) :
    nach.incident = stand.incident ∧ nach.felder = stand.felder ∧
      (schutz = false → ∀ eintrag, herkunft stand.felder stand.incident.id auftrag.orgId feld = some eintrag →
        eintrag.source ≠ .manual) := by
  unfold geschuetzt at asked
  dsimp only at asked
  split at asked
  · cases asked
    obtain ⟨incident, felder⟩ := hinweis_same auftrag feld wert stand
    exact ⟨incident, felder, fun no => by cases no⟩
  · next free =>
    cases asked
    refine ⟨rfl, rfl, fun _ eintrag found manual => free ?_⟩
    simp [found, manual]

theorem aendern_achtet {feld : Feld} {wert text : String} {stand : Stand}
    (free : ∀ eintrag, herkunft stand.felder stand.incident.id auftrag.orgId feld = some eintrag →
      eintrag.source ≠ .manual)
    (hoeher : feld = .alarmTypeCode → Hoeher umgebung stand.incident.alarmTypeCode (some wert)) :
    stand.Achtet umgebung auftrag.orgId (aendern auftrag feld wert text stand) := by
  refine ⟨(Einsatz.setze_id ..).1, (Einsatz.setze_id ..).2, ?_, fun feld' eintrag _ found manual => ?_,
    fun incidentId orgId' feld' other => ?_, fun nur => nur.speichereFeld fun no => by cases no⟩
  · by_cases isCode : feld = .alarmTypeCode
    · have raised := hoeher isCode
      subst isCode
      exact raised
    · have kept := Einsatz.setze_wert stand.incident (Ne.symm isCode) (some wert)
      exact Or.inl kept
  · by_cases same : feld' = feld
    · subst same
      exact absurd manual (free eintrag found)
    · refine ⟨?_, Einsatz.setze_wert stand.incident same (some wert)⟩
      exact (herkunft_speichereFeld _ _ _ _ _ _ _ _ _ _ _ (Or.inr (Or.inr same))).trans found
  · refine herkunft_speichereFeld _ _ _ _ _ _ _ _ _ _ _ ?_
    tauto

end Merge

end Einsatzcockpit.Apply
