import Mathlib.Data.List.Infix
import Einsatzcockpit.Apply.Herkunft

namespace Einsatzcockpit.Apply

abbrev Sicht := Option String × Option IncidentAlarmField

namespace Sicht

def manuell (sicht : Sicht) : Bool := sicht.2.any (·.source == .manual)

def vomAlarm (sicht : Sicht) : Bool := sicht.2.any (·.source == .alarm)

theorem manuell_of_vomAlarm {sicht : Sicht} (alarm : sicht.vomAlarm = true) : sicht.manuell = false := by
  unfold vomAlarm at alarm
  unfold manuell
  cases origin : sicht.2 with
  | none => rfl
  | some eintrag =>
    rw [origin, Option.any_some, beq_iff_eq] at alarm
    rw [Option.any_some, alarm]
    rfl

end Sicht

def Stand.sicht (stand : Stand) (orgId : Nat) (feld : Feld) : Sicht :=
  (stand.incident.wert feld, herkunft stand.felder stand.incident.id orgId feld)

/-- A merge has written at most one field, and nothing is taken from the journal. -/
structure Stand.Nur (orgId : Nat) (feld : Option Feld) (vor nach : Stand) : Prop where
  id : nach.incident.id = vor.incident.id
  primaryOrgId : nach.incident.primaryOrgId = vor.incident.primaryOrgId
  sonst : ∀ feld', some feld' ≠ feld → nach.sicht orgId feld' = vor.sicht orgId feld'
  journal : vor.journal ⊆ nach.journal

namespace Stand.Nur

variable {orgId : Nat} {feld : Option Feld} {a b c : Stand}

theorem of_same (incident : b.incident = a.incident) (felder : b.felder = a.felder) (journal : a.journal ⊆ b.journal) :
    Nur orgId feld a b := by
  refine ⟨by rw [incident], by rw [incident], fun feld' _ => ?_, journal⟩
  rw [sicht, sicht, incident, felder]

theorem refl (stand : Stand) : Nur orgId feld stand stand := of_same rfl rfl (List.Subset.refl _)

theorem trans (first : Nur orgId feld a b) (second : Nur orgId feld b c) : Nur orgId feld a c :=
  ⟨second.id.trans first.id, second.primaryOrgId.trans first.primaryOrgId,
    fun feld' other => (second.sonst feld' other).trans (first.sonst feld' other), List.Subset.trans first.journal second.journal⟩

end Stand.Nur

def Vermerkt (logs : List Eintrag) (incidentId : Nat) (feld : Feld) (wert : String) : Prop :=
  ∃ log ∈ logs, log.incidentId = incidentId ∧ log.text = s!"Abweichender Alarmwert fuer {feld.name}: {wert}"

theorem Vermerkt.mono {logs logs' : List Eintrag} {incidentId : Nat} {feld : Feld} {wert : String}
    (noted : Vermerkt logs incidentId feld wert) (more : logs ⊆ logs') : Vermerkt logs' incidentId feld wert := by
  obtain ⟨log, member, same⟩ := noted
  exact ⟨log, more member, same⟩

def Gesperrt (nurAlarm : Bool) (logs : List Eintrag) (incidentId : Nat) (feld : Feld) (wert : String) (sicht : Sicht) : Prop :=
  if sicht.manuell then Vermerkt logs incidentId feld wert else nurAlarm = true ∧ sicht.vomAlarm = false

def Frei (nurAlarm : Bool) (sicht : Sicht) : Prop := sicht.manuell = false ∧ (nurAlarm = true → sicht.vomAlarm = true)

section Merge

variable {umgebung : Alarmumgebung} {auftrag : Auftrag} {stand nach : Stand} {feld : Feld} {wert : String}

theorem hinweis_nur {nur : Option Feld} : Stand.Nur auftrag.orgId nur stand (hinweis auftrag feld wert stand) := by
  unfold hinweis
  dsimp only
  split
  · exact .refl stand
  · exact .of_same rfl rfl (List.subset_append_left _ _)

theorem hinweis_vermerkt : Vermerkt (auftrag.logs ++ (hinweis auftrag feld wert stand).journal) stand.incident.id feld wert := by
  unfold hinweis
  dsimp only
  split
  · next known =>
    obtain ⟨log, member, same⟩ := List.any_eq_true.mp known
    rw [Bool.and_eq_true, beq_iff_eq, beq_iff_eq] at same
    exact ⟨log, List.mem_append_left _ member, same⟩
  · exact ⟨_, List.mem_append_right _ (List.mem_append_right _ (List.mem_singleton_self _)), rfl, rfl⟩

theorem hinweis_wieder (noted : Vermerkt auftrag.logs stand.incident.id feld wert) : hinweis auftrag feld wert stand = stand := by
  obtain ⟨log, member, ofIncident, text⟩ := noted
  unfold hinweis
  exact if_pos (List.any_eq_true.mpr ⟨log, member, by rw [ofIncident, text, beq_self_eq_true, beq_self_eq_true]; rfl⟩)

theorem geschuetzt_eq (feld : Feld) (wert : String) (stand : Stand) :
    geschuetzt auftrag feld wert stand =
      if (stand.sicht auftrag.orgId feld).manuell then (true, hinweis auftrag feld wert stand)
      else (auftrag.nurAlarm && !(stand.sicht auftrag.orgId feld).vomAlarm, stand) := rfl

theorem geschuetzt_gesperrt (asked : geschuetzt auftrag feld wert stand = (true, nach)) :
    nach.incident = stand.incident ∧ nach.felder = stand.felder ∧ stand.journal ⊆ nach.journal ∧
      Gesperrt auftrag.nurAlarm (auftrag.logs ++ nach.journal) stand.incident.id feld wert (stand.sicht auftrag.orgId feld) := by
  rw [geschuetzt_eq] at asked
  unfold Gesperrt
  split at asked
  · next manual =>
    cases asked
    obtain ⟨incident, felder⟩ := hinweis_same auftrag feld wert stand
    rw [if_pos manual]
    exact ⟨incident, felder, (@hinweis_nur _ stand feld wert none).journal, hinweis_vermerkt⟩
  · next notManual =>
    obtain ⟨silent, rfl⟩ := Prod.mk.inj asked
    rw [Bool.and_eq_true, Bool.not_eq_true'] at silent
    rw [if_neg notManual]
    exact ⟨rfl, rfl, List.Subset.refl _, silent⟩

theorem geschuetzt_frei (asked : geschuetzt auftrag feld wert stand = (false, nach)) :
    nach = stand ∧ Frei auftrag.nurAlarm (stand.sicht auftrag.orgId feld) := by
  rw [geschuetzt_eq] at asked
  split at asked
  · cases asked
  · next notManual =>
    obtain ⟨notSilent, rfl⟩ := Prod.mk.inj asked
    refine ⟨rfl, Bool.eq_false_iff.mpr notManual, fun only => ?_⟩
    rw [only, Bool.true_and, Bool.not_eq_false'] at notSilent
    exact notSilent

theorem geschuetzt_of_gesperrt
    (locked : Gesperrt auftrag.nurAlarm auftrag.logs stand.incident.id feld wert (stand.sicht auftrag.orgId feld)) :
    geschuetzt auftrag feld wert stand = (true, stand) := by
  unfold Gesperrt at locked
  rw [geschuetzt_eq]
  split at locked
  · next manual => rw [if_pos manual, hinweis_wieder locked]
  · next notManual =>
    rw [if_neg notManual, locked.1, locked.2]
    rfl

theorem geschuetzt_of_frei (free : Frei auftrag.nurAlarm (stand.sicht auftrag.orgId feld)) :
    geschuetzt auftrag feld wert stand = (false, stand) := by
  rw [geschuetzt_eq, free.1, if_neg Bool.false_ne_true]
  cases only : auftrag.nurAlarm with
  | false => rfl
  | true => rw [free.2 only]; rfl

theorem aendern_nur (text : String) : Stand.Nur auftrag.orgId (some feld) stand (aendern auftrag feld wert text stand) := by
  refine ⟨(Einsatz.setze_id ..).1, (Einsatz.setze_id ..).2, fun feld' other => ?_, List.subset_append_left _ _⟩
  have different : feld' ≠ feld := fun same => other (congrArg some same)
  refine Prod.ext (Einsatz.setze_wert stand.incident different (some wert)) ?_
  change herkunft _ (stand.incident.setze feld (some wert)).id auftrag.orgId feld' = _
  rw [(Einsatz.setze_id ..).1]
  exact herkunft_speichereFeld _ _ _ _ _ _ _ _ _ _ _ (Or.inr (Or.inr different))

theorem Einsatz.wert_setze (einsatz : Einsatz) {feld : Feld} (known : feld ≠ .codes) (wert : Option String) :
    (einsatz.setze feld wert).wert feld = wert := by
  cases feld <;> first | rfl | exact absurd rfl known

end Merge

end Einsatzcockpit.Apply
