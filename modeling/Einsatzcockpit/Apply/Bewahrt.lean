import Einsatzcockpit.Apply.Herkunft

namespace Einsatzcockpit.Apply

section Merge

variable {umgebung : Alarmumgebung} {auftrag : Auftrag}

theorem geschuetzt_achtet {feld : Feld} {wert : String} {stand nach : Stand} {schutz : Bool}
    (asked : geschuetzt auftrag feld wert stand = (schutz, nach)) : stand.Achtet umgebung auftrag.orgId nach :=
  .of_same (geschuetzt_spec asked).1 (geschuetzt_spec asked).2.1

theorem hinweis_achtet (feld : Feld) (wert : String) (stand : Stand) :
    stand.Achtet umgebung auftrag.orgId (hinweis auftrag feld wert stand) :=
  .of_same (hinweis_same auftrag feld wert stand).1 (hinweis_same auftrag feld wert stand).2

theorem geschuetzt_free {feld : Feld} {wert : String} {stand nach : Stand}
    (asked : geschuetzt auftrag feld wert stand = (false, nach)) :
    ∀ eintrag, herkunft nach.felder nach.incident.id auftrag.orgId feld = some eintrag → eintrag.source ≠ .manual := by
  obtain ⟨incident, felder, free⟩ := geschuetzt_spec asked
  rw [incident, felder]
  exact free rfl

theorem mergeAdresse_achtet (stand : Stand) {feld : Feld} (address : feld ≠ .alarmTypeCode) (wert : Option String) :
    stand.Achtet umgebung auftrag.orgId (mergeAdresse auftrag stand (feld, wert)) := by
  unfold mergeAdresse
  dsimp only
  split
  · exact .refl stand
  · next neu _ =>
    split
    · exact .refl stand
    · split
      · next nach asked => exact geschuetzt_achtet asked
      · next nach asked =>
        refine (geschuetzt_achtet asked).trans ?_
        split
        · exact (aendern_achtet (geschuetzt_free asked) fun isCode => absurd isCode address).ergebnis _
        · exact hinweis_achtet feld neu nach

theorem mergeAdressen_achtet (adressen : List (Feld × Option String)) (stand : Stand)
    (address : ∀ adresse ∈ adressen, adresse.1 ≠ .alarmTypeCode) :
    stand.Achtet umgebung auftrag.orgId (adressen.foldl (mergeAdresse auftrag) stand) := by
  induction adressen generalizing stand with
  | nil => exact .refl stand
  | cons adresse rest ih =>
    have first : stand.Achtet umgebung auftrag.orgId (mergeAdresse auftrag stand adresse) :=
      mergeAdresse_achtet stand (address adresse (List.mem_cons_self ..)) adresse.2
    exact first.trans (ih _ fun other later => address other (List.mem_cons_of_mem _ later))

theorem loescheKoordinaten_achtet (stand : Stand) :
    stand.Achtet umgebung auftrag.orgId (loescheKoordinaten auftrag stand) := by
  have ort : ∀ (stand nach : Stand), nach.felder = stand.felder →
      (∃ lat lng, nach.incident = { stand.incident with lat, lng }) → stand.Achtet umgebung auftrag.orgId nach := by
    rintro stand nach felder ⟨lat, lng, incident⟩
    refine ⟨by rw [incident], by rw [incident], ?_, fun feld eintrag _ found _ => ?_, fun _ _ _ _ => by rw [felder], ?_⟩
    · rw [incident]
      exact .refl _
    · rw [felder, incident]
      exact ⟨found, by cases feld <;> rfl⟩
    · rw [felder]
      exact id
  unfold loescheKoordinaten
  dsimp only
  split <;> split <;> refine ort _ _ rfl ?_ <;> exact ⟨_, _, rfl⟩

theorem mergeStichwort_achtet {typen : List AlarmType} {parsed : Parsed} {stand nach : Stand}
    (done : mergeStichwort umgebung auftrag typen parsed stand = .ok nach) :
    stand.Achtet umgebung auftrag.orgId nach := by
  unfold mergeStichwort at done
  dsimp only at done
  split at done
  · cases done
    exact .refl stand
  · next code _ =>
    split at done
    · cases done
      exact .refl stand
    · split at done
      · next asked =>
        cases done
        exact geschuetzt_achtet asked
      · next between asked =>
        refine (geschuetzt_achtet asked).trans ?_
        simp only [bind, Except.bind, pure, Except.pure] at done
        split at done
        · cases done
        · next erhoeht decided =>
          have same := (geschuetzt_spec asked).1
          split at done
          · next raised =>
            cases done
            refine (aendern_achtet (geschuetzt_free asked) fun _ => ?_).ergebnis _
            rw [same]
            exact stufeErhoeht_hoeher (raised ▸ decided)
          · cases done
            exact hinweis_achtet _ code between

theorem mergeReason_achtet (parsed : Parsed) (stand : Stand) :
    stand.Achtet umgebung auftrag.orgId (mergeReason auftrag parsed stand) := by
  unfold mergeReason
  split
  · exact .refl stand
  · next reason _ =>
    split
    · exact .refl stand
    · exact geschuetzt_achtet rfl

theorem mergeReport_achtet (parsed : Parsed) (stand : Stand) :
    stand.Achtet umgebung auftrag.orgId (mergeReport umgebung auftrag parsed stand) := by
  unfold mergeReport
  dsimp only
  split
  · exact .refl stand
  · split
    · next asked => exact geschuetzt_achtet asked
    · next asked =>
      refine (geschuetzt_achtet asked).trans (aendern_achtet (geschuetzt_free asked) fun isCode => ?_)
      cases isCode

theorem ergaenzeCodes_achtet (bisher neu : List String) (stand : Stand) :
    stand.Achtet umgebung auftrag.orgId (ergaenzeCodes auftrag bisher neu stand) := by
  refine ⟨rfl, rfl, .refl _, fun feld eintrag notCodes found _ => ⟨?_, rfl⟩, fun incidentId orgId' feld other => ?_,
    fun nur => nur.speichereFeld fun no => by cases no⟩
  · exact (herkunft_speichereFeld _ _ _ _ _ _ _ _ _ _ _ (Or.inr (Or.inr notCodes))).trans found
  · refine herkunft_speichereFeld _ _ _ _ _ _ _ _ _ _ _ ?_
    tauto

theorem mergeCodes_achtet (parsed : Parsed) (stand : Stand) :
    stand.Achtet umgebung auftrag.orgId (mergeCodes umgebung auftrag parsed stand) := by
  unfold mergeCodes
  dsimp only
  have start : stand.Achtet umgebung auftrag.orgId { stand with
      ergebnis := { stand.ergebnis with
        neueCodes := (codesVon umgebung parsed).filter (· ∉ bisherigeCodes auftrag stand) } } :=
    (Stand.Achtet.refl stand).ergebnis _
  split
  · exact start
  · refine start.trans ?_
    split
    · next asked =>
      split at asked
      · exact geschuetzt_achtet asked
      · cases asked
    · next between asked =>
      refine .trans ?_ (ergaenzeCodes_achtet _ _ between)
      split at asked
      · exact geschuetzt_achtet asked
      · cases asked
        exact .refl _

theorem mergeAdressteil_achtet (parsed : Parsed) (stand : Stand) :
    stand.Achtet umgebung auftrag.orgId
      (let nach := [(Feld.addressStreet, parsed.street), (.addressNo, parsed.houseNo),
        (.addressCity, parsed.city)].foldl (mergeAdresse auftrag) stand
      if nach.ergebnis.adresseGeaendert then loescheKoordinaten auftrag nach else nach) := by
  have adressen : stand.Achtet umgebung auftrag.orgId ([(Feld.addressStreet, parsed.street),
      (.addressNo, parsed.houseNo), (.addressCity, parsed.city)].foldl (mergeAdresse auftrag) stand) := by
    refine mergeAdressen_achtet _ stand fun adresse member => ?_
    simp only [List.mem_cons, List.not_mem_nil, or_false] at member
    rcases member with rfl | rfl | rfl <;> simp
  dsimp only
  split
  · exact adressen.trans (loescheKoordinaten_achtet _)
  · exact adressen

theorem mergeFolgenachricht_achtet {typen : List AlarmType} {ingestOrgId : Option Nat} {parsed : Parsed}
    {stand nach : Stand} (done : mergeFolgenachricht umgebung auftrag typen ingestOrgId parsed stand = .ok nach) :
    stand.incident.primaryOrgId = some auftrag.orgId ∧ stand.Achtet umgebung auftrag.orgId nach := by
  simp only [mergeFolgenachricht, bind, Except.bind, pure, Except.pure, throw, throwThe, MonadExceptOf.throw] at done
  split at done
  · cases done
  · next tenant =>
    split at done
    · cases done
    · next keyword merged =>
      cases done
      rw [not_or, not_not] at tenant
      refine ⟨tenant.1, ?_⟩
      have stichwort := (mergeAdressteil_achtet parsed stand).trans (mergeStichwort_achtet merged)
      exact ((stichwort.trans (mergeReason_achtet parsed keyword)).trans (mergeReport_achtet parsed _)).trans
        (mergeCodes_achtet parsed _)

end Merge

end Einsatzcockpit.Apply

namespace Einsatzcockpit.Apply

open Alarm

/-- The ids of the incidents come from the table, and no user marked the codes. -/
structure Bestand.Gueltig (bestand : Bestand) : Prop where
  nummeriert : Relational.Numbered (fun incident : Einsatz => incident.id) bestand.incidents
  nur : NurFelder bestand.felder

/-- What is left of one field of an incident: its organisation, a code that is
not lowered, and a manual value together with the row that marks it. -/
structure Einsatz.Bewahrt (umgebung : Alarmumgebung) (feld : Feld) (vor nach : Einsatz)
    (felder felder' : List IncidentAlarmField) : Prop where
  primaryOrgId : nach.primaryOrgId = vor.primaryOrgId
  hoeher : feld = .alarmTypeCode → Hoeher umgebung vor.alarmTypeCode nach.alarmTypeCode
  manuell : ∀ orgId eintrag, vor.primaryOrgId = some orgId → herkunft felder vor.id orgId feld = some eintrag →
    eintrag.source = .manual → nach.wert feld = vor.wert feld ∧ herkunft felder' vor.id orgId feld = some eintrag

def Bestand.Bewahrt (umgebung : Alarmumgebung) (id : Nat) (feld : Feld) (vor nach : Bestand) : Prop :=
  ∀ incident, vor.incident? id = some incident →
    ∃ incident', nach.incident? id = some incident' ∧ incident.Bewahrt umgebung feld incident' vor.felder nach.felder

theorem Bestand.incident?_id {bestand : Bestand} {id : Nat} {incident : Einsatz}
    (found : bestand.incident? id = some incident) : incident.id = id := by
  simpa using List.find?_some found

namespace Bestand.Bewahrt

variable {umgebung : Alarmumgebung} {id : Nat} {feld : Feld} {a b c : Bestand}

theorem of_found (incidents : ∀ incident, a.incident? id = some incident → b.incident? id = some incident)
    (felder : (a.incident? id).isSome →
      ∀ orgId, herkunft b.felder id orgId feld = herkunft a.felder id orgId feld) : Bewahrt umgebung id feld a b := by
  intro incident found
  have atId := incident?_id found
  refine ⟨incident, incidents incident found, rfl, fun _ => .refl _, fun orgId eintrag _ marked _ => ⟨rfl, ?_⟩⟩
  rw [atId] at marked ⊢
  rw [felder (by rw [found]; rfl), marked]

theorem of_same (incidents : b.incidents = a.incidents) (felder : b.felder = a.felder) :
    Bewahrt umgebung id feld a b := by
  refine of_found (fun incident found => ?_) fun _ orgId => by rw [felder]
  rw [incident?, incidents]
  exact found

theorem trans (first : Bewahrt umgebung id feld a b) (second : Bewahrt umgebung id feld b c) :
    Bewahrt umgebung id feld a c := by
  intro incident found
  obtain ⟨incident', found', left⟩ := first incident found
  obtain ⟨incident'', found'', right⟩ := second incident' found'
  have sameId : incident'.id = incident.id := (incident?_id found').trans (incident?_id found).symm
  refine ⟨incident'', found'', right.primaryOrgId.trans left.primaryOrgId,
    fun isCode => (left.hoeher isCode).trans (right.hoeher isCode), fun orgId eintrag ofOrg marked manual => ?_⟩
  obtain ⟨same, marked'⟩ := left.manuell orgId eintrag ofOrg marked manual
  have later := right.manuell orgId eintrag (left.primaryOrgId.trans ofOrg)
  rw [sameId] at later
  obtain ⟨same', marked''⟩ := later marked' manual
  exact ⟨same'.trans same, marked''⟩

theorem then_felder (first : Bewahrt umgebung id feld a b) (incidents : c.incidents = b.incidents)
    (felder : (a.incident? id).isSome → ∀ orgId, herkunft c.felder id orgId feld = herkunft b.felder id orgId feld) :
    Bewahrt umgebung id feld a c := by
  intro incident found
  obtain ⟨incident', found', left⟩ := first incident found
  refine ⟨incident', ?_, left.primaryOrgId, left.hoeher, fun orgId eintrag ofOrg marked manual => ?_⟩
  · rw [incident?, incidents]
    exact found'
  · obtain ⟨same, marked'⟩ := left.manuell orgId eintrag ofOrg marked manual
    refine ⟨same, ?_⟩
    rw [incident?_id found] at marked' ⊢
    rw [felder (by rw [found]; rfl), marked']

end Bestand.Bewahrt

theorem Bestand.incident?_setIncident (bestand : Bestand) (incident : Einsatz) (id : Nat) :
    (bestand.setIncident incident).incident? id =
      if id = incident.id then (bestand.incident? id).map fun _ => incident else bestand.incident? id :=
  Relational.find?_update_key (fun row : Einsatz => row.id) incident.id id (fun _ => incident) bestand.incidents
    fun _ _ => rfl

structure Bestand.Achtet (umgebung : Alarmumgebung) (vor nach : Bestand) : Prop where
  gueltig : nach.Gueltig
  bewahrt : ∀ id feld, vor.Bewahrt umgebung id feld nach

namespace Bestand.Achtet

variable {umgebung : Alarmumgebung} {a b c : Bestand}

theorem of_same (gueltig : a.Gueltig) (incidents : b.incidents = a.incidents) (felder : b.felder = a.felder) :
    Achtet umgebung a b := by
  refine ⟨⟨?_, ?_⟩, fun id feld => .of_same incidents felder⟩
  · rw [incidents]
    exact gueltig.nummeriert
  · rw [felder]
    exact gueltig.nur

theorem refl (gueltig : a.Gueltig) : Achtet umgebung a a := of_same gueltig rfl rfl

theorem trans (first : Achtet umgebung a b) (second : Achtet umgebung b c) : Achtet umgebung a c :=
  ⟨second.gueltig, fun id feld => (first.bewahrt id feld).trans (second.bewahrt id feld)⟩

theorem then_same (achtet : Achtet umgebung a b) (incidents : c.incidents = b.incidents)
    (felder : c.felder = b.felder) : Achtet umgebung a c :=
  achtet.trans (.of_same achtet.gueltig incidents felder)

theorem anlage (gueltig : a.Gueltig) {incident : Einsatz} (next : incident.id = a.incidents.length + 1) :
    Achtet umgebung a { a with incidents := a.incidents ++ [incident] } := by
  refine ⟨⟨gueltig.nummeriert.append next, gueltig.nur⟩, fun id feld => .of_found (fun old found => ?_) fun _ _ => rfl⟩
  rw [incident?, List.find?_append]
  exact Option.or_eq_some_iff.mpr (Or.inl found)

theorem setIncident (gueltig : a.Gueltig) {alt neu : Einsatz} (member : alt ∈ a.incidents) (sameId : neu.id = alt.id)
    {felder : List IncidentAlarmField} (nur : NurFelder felder)
    (bewahrt : ∀ feld, alt.Bewahrt umgebung feld neu a.felder felder)
    (andere : ∀ id orgId feld, id ≠ alt.id → herkunft felder id orgId feld = herkunft a.felder id orgId feld) :
    Achtet umgebung a { a.setIncident neu with felder } := by
  refine ⟨⟨gueltig.nummeriert.of_map (Relational.map_update_key (fun row : Einsatz => row.id) neu _), nur⟩,
    fun id feld incident found => ?_⟩
  have atId := incident?_id found
  have lookup := a.incident?_setIncident neu id
  by_cases same : id = alt.id
  · subst same
    have isAlt : a.incident? alt.id = some alt := gueltig.nummeriert.find?_of_mem member
    rw [found] at isAlt
    cases isAlt
    rw [if_pos sameId.symm, found] at lookup
    exact ⟨neu, lookup, bewahrt feld⟩
  · rw [sameId, if_neg same, found] at lookup
    refine ⟨incident, lookup, rfl, fun _ => .refl _, fun orgId eintrag _ marked _ => ⟨rfl, ?_⟩⟩
    rw [atId] at marked ⊢
    exact (andere id orgId feld same).trans marked

end Bestand.Achtet

end Einsatzcockpit.Apply
