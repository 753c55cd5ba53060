import Einsatzcockpit.Lib.Raise
import Einsatzcockpit.Apply.Wieder

namespace Einsatzcockpit.Apply

section Teile

def AdresseRuht (nurAlarm : Bool) (logs : List Eintrag) (incidentId : Nat) (feld : Feld) (wert : Option String) (sicht : Sicht) : Prop :=
  ∀ neu, orNone wert = some neu → sicht.1 ≠ some neu →
    Gesperrt nurAlarm logs incidentId feld neu sicht ∨
      (Frei nurAlarm sicht ∧ orNone sicht.1 ≠ none ∧ sicht.vomAlarm = false ∧ Vermerkt logs incidentId feld neu)

def StichwortRuht (umgebung : Alarmumgebung) (typen : List AlarmType) (orgId : Nat) (nurAlarm : Bool) (logs : List Eintrag)
    (incidentId : Nat) (parsed : Parsed) (sicht : Sicht) : Prop :=
  ∀ code, orNone parsed.alarmTypeCode = some code → sicht.1 ≠ some code →
    Gesperrt nurAlarm logs incidentId .alarmTypeCode code sicht ∨
      (Frei nurAlarm sicht ∧ stufeErhoeht umgebung typen orgId sicht.1 code = .ok false ∧
        Vermerkt logs incidentId .alarmTypeCode code)

def ReasonRuht (nurAlarm : Bool) (logs : List Eintrag) (incidentId : Nat) (parsed : Parsed) (sicht : Sicht) : Prop :=
  ∀ reason, orNone parsed.reason = some reason → sicht.1 ≠ some reason →
    Gesperrt nurAlarm logs incidentId .reason reason sicht ∨ Frei nurAlarm sicht

def ReportRuht (nurAlarm : Bool) (logs : List Eintrag) (incidentId : Nat) (parsed : Parsed) (sicht : Sicht) : Prop :=
  neueTeile parsed (sicht.1.getD "") ≠ [] →
    Gesperrt nurAlarm logs incidentId .reportText (String.intercalate "\n" (neueTeile parsed (sicht.1.getD ""))) sicht

def codesIn (sicht : Sicht) : List String :=
  match sicht.2 with
  | none => []
  | some eintrag =>
    match eintrag.value with
    | .codes codes => codes
    | .text _ => []

def neueCodes (umgebung : Alarmumgebung) (parsed : Parsed) (sicht : Sicht) : List String :=
  (codesVon umgebung parsed).filter (· ∉ codesIn sicht)

def CodesRuht (umgebung : Alarmumgebung) (nurAlarm : Bool) (logs : List Eintrag) (incidentId : Nat) (parsed : Parsed) (sicht : Sicht) :
    Prop :=
  neueCodes umgebung parsed sicht ≠ [] →
    nurAlarm = true ∧ Gesperrt nurAlarm logs incidentId .codes (String.intercalate ", " (neueCodes umgebung parsed sicht)) sicht

end Teile

variable {umgebung : Alarmumgebung} {auftrag : Auftrag} {typen : List AlarmType} {parsed : Parsed} {stand nach : Stand}

section Adresse

variable {feld : Feld} {wert : Option String}

theorem mergeAdresse_nur : Stand.Nur auftrag.orgId (some feld) stand (mergeAdresse auftrag stand (feld, wert)) := by
  unfold mergeAdresse
  dsimp only
  split
  · exact .refl stand
  · split
    · exact .refl stand
    · split
      · next asked =>
        obtain ⟨incident, felder, journal, -⟩ := geschuetzt_gesperrt asked
        exact .of_same incident felder journal
      · next asked =>
        obtain ⟨rfl, -⟩ := geschuetzt_frei asked
        split
        · exact (aendern_nur _).trans (.of_same rfl rfl (List.Subset.refl _))
        · exact hinweis_nur

theorem mergeAdresse_ruht (known : feld ≠ .codes) : AdresseRuht auftrag.nurAlarm
    (auftrag.logs ++ (mergeAdresse auftrag stand (feld, wert)).journal) stand.incident.id feld wert
    ((mergeAdresse auftrag stand (feld, wert)).sicht auftrag.orgId feld) := by
  intro neu isNew differs
  unfold mergeAdresse at differs ⊢
  dsimp only at differs ⊢
  rw [isNew] at differs ⊢
  dsimp only at differs ⊢
  split at differs
  · next same => exact absurd same differs
  · next open_ =>
    rw [if_neg open_]
    split
    · next asked =>
      obtain ⟨incident, felder, -, locked⟩ := geschuetzt_gesperrt asked
      refine .inl ?_
      rw [Stand.sicht, incident, felder]
      exact locked
    · next between asked =>
      obtain ⟨rfl, free⟩ := geschuetzt_frei asked
      rw [asked] at differs
      dsimp only at differs
      split at differs
      · exact (differs (Einsatz.wert_setze _ known (some neu))).elim
      · next kept =>
        rw [if_neg kept]
        rw [not_or] at kept
        obtain ⟨incident, felder⟩ := hinweis_same auftrag feld neu between
        refine .inr ?_
        rw [Stand.sicht, incident, felder]
        exact ⟨free, kept.1, Bool.eq_false_iff.mpr kept.2, hinweis_vermerkt⟩

theorem mergeAdresse_wieder
    (rests : AdresseRuht auftrag.nurAlarm auftrag.logs stand.incident.id feld wert (stand.sicht auftrag.orgId feld)) :
    mergeAdresse auftrag stand (feld, wert) = stand := by
  unfold mergeAdresse
  dsimp only
  split
  · rfl
  · next neu isNew =>
    split
    · rfl
    · next differs =>
      rcases rests neu isNew differs with locked | ⟨free, some_, notAlarm, noted⟩
      · rw [geschuetzt_of_gesperrt locked]
      · rw [geschuetzt_of_frei free]
        dsimp only
        rw [if_neg, hinweis_wieder noted]
        exact not_or.mpr ⟨some_, Bool.eq_false_iff.mp notAlarm⟩

end Adresse

section Stichwort

theorem mergeStichwort_nur (done : mergeStichwort umgebung auftrag typen parsed stand = .ok nach) :
    Stand.Nur auftrag.orgId (some .alarmTypeCode) stand nach ∧
      StichwortRuht umgebung typen auftrag.orgId auftrag.nurAlarm (auftrag.logs ++ nach.journal) stand.incident.id parsed
        (nach.sicht auftrag.orgId .alarmTypeCode) := by
  unfold mergeStichwort at done
  dsimp only at done
  split at done
  · next none_ =>
    cases done
    exact ⟨.refl stand, fun code isNew => by rw [none_] at isNew; cases isNew⟩
  · next code isCode =>
    split at done
    · next same =>
      cases done
      refine ⟨.refl stand, fun code' isNew differs => absurd same ?_⟩
      rw [isCode] at isNew
      cases isNew
      exact differs
    · split at done
      · next asked =>
        cases done
        obtain ⟨incident, felder, journal, locked⟩ := geschuetzt_gesperrt asked
        refine ⟨.of_same incident felder journal, fun code' isNew _ => .inl ?_⟩
        rw [isCode] at isNew
        cases isNew
        rw [Stand.sicht, incident, felder]
        exact locked
      · next between asked =>
        obtain ⟨rfl, free⟩ := geschuetzt_frei asked
        obtain ⟨erhoeht, decided, done⟩ := Raising.bind_eq_ok.mp done
        split at done
        · cases Raising.pure_eq_ok.mp done
          refine ⟨(aendern_nur _).trans (.of_same rfl rfl (List.Subset.refl _)), fun code' isNew differs => ?_⟩
          rw [isCode] at isNew
          cases isNew
          exact absurd rfl differs
        · next notRaised =>
          cases Raising.pure_eq_ok.mp done
          refine ⟨hinweis_nur, fun code' isNew _ => .inr ?_⟩
          rw [isCode] at isNew
          cases isNew
          obtain ⟨incident, felder⟩ := hinweis_same auftrag .alarmTypeCode code between
          rw [Stand.sicht, incident, felder]
          rw [Bool.eq_false_iff.mpr notRaised] at decided
          exact ⟨free, decided, hinweis_vermerkt⟩

theorem mergeStichwort_wieder (rests : StichwortRuht umgebung typen auftrag.orgId auftrag.nurAlarm auftrag.logs stand.incident.id parsed
    (stand.sicht auftrag.orgId .alarmTypeCode)) : mergeStichwort umgebung auftrag typen parsed stand = .ok stand := by
  unfold mergeStichwort
  dsimp only
  split
  · rfl
  · next code isCode =>
    split
    · rfl
    · next differs =>
      rcases rests code isCode differs with locked | ⟨free, notRaised, noted⟩
      · rw [geschuetzt_of_gesperrt locked]
      · rw [geschuetzt_of_frei free]
        dsimp only
        change stufeErhoeht umgebung typen auftrag.orgId stand.incident.alarmTypeCode code = _ at notRaised
        rw [notRaised, ← hinweis_wieder noted]
        exact congrArg Except.ok (by rw [hinweis_wieder noted, hinweis_wieder noted])

end Stichwort

section Meldebild

theorem enthaelt_iff {text teil : String} : enthaelt text teil = true ↔ teil.toList <:+: text.toList := by
  rw [enthaelt, List.any_eq_true, List.infix_iff_prefix_suffix]
  refine exists_congr fun rest => ?_
  rw [List.isPrefixOf_iff_prefix, List.mem_tails, and_comm]

theorem enthaelt_append {text teil : String} (held : enthaelt text teil = true) (more : String) : enthaelt (text ++ more) teil = true := by
  rw [enthaelt_iff, String.toList_append]
  exact List.infix_append_of_infix_left (enthaelt_iff.mp held)

theorem enthaelt_intercalate {teil : String} {teile : List String} (member : teil ∈ teile) (trenner : String) :
    enthaelt (trenner.intercalate teile) teil = true := by
  induction teile with
  | nil => cases member
  | cons erster rest ih =>
    cases rest with
    | nil =>
      cases List.mem_singleton.mp member
      rw [String.intercalate_singleton, enthaelt_iff]
    | cons zweiter rest =>
      rw [String.intercalate_cons_cons, enthaelt_iff, String.toList_append]
      rcases List.mem_cons.mp member with rfl | later
      · rw [String.toList_append]
        exact List.infix_append_of_infix_left List.infix_append_left
      · exact List.infix_append_of_infix_right (enthaelt_iff.mp (ih later))

theorem mem_einmalig {values : List String} {value : String} : value ∈ einmalig values ↔ value ∈ values := by
  have fold : ∀ seen : List String, value ∈ values.foldl (fun seen value => if value ∈ seen then seen else seen ++ [value]) seen ↔
      value ∈ seen ∨ value ∈ values := by
    induction values with
    | nil => simp
    | cons first rest ih =>
      intro seen
      rw [List.foldl_cons, ih, List.mem_cons]
      split
      · next known => exact ⟨fun member => by tauto, fun member => by rcases member with old | rfl | new <;> tauto⟩
      · rw [List.mem_append, List.mem_singleton, or_assoc]
  rw [einmalig, fold]
  simp

theorem mem_neueTeile {report teil : String} (member : teil ∈ neueTeile parsed report) : enthaelt report teil = false := by
  unfold neueTeile at member
  simpa using (List.mem_filter.mp (mem_einmalig.mp member)).2

theorem neueTeile_wieder {report report' : String} (old : ∀ teil, enthaelt report teil = true → enthaelt report' teil = true)
    (new : ∀ teil ∈ neueTeile parsed report, enthaelt report' teil = true) : neueTeile parsed report' = [] := by
  refine List.eq_nil_iff_forall_not_mem.mpr fun teil member => ?_
  have missing := mem_neueTeile member
  cases before : enthaelt report teil with
  | true =>
    rw [old teil before] at missing
    cases missing
  | false =>
    have isNew : teil ∈ neueTeile parsed report := by
      unfold neueTeile at member ⊢
      have candidate := (List.mem_filter.mp (mem_einmalig.mp member)).1
      exact mem_einmalig.mpr (List.mem_filter.mpr ⟨candidate, by rw [before]; rfl⟩)
    rw [new teil isNew] at missing
    cases missing

theorem mergeReport_nur : Stand.Nur auftrag.orgId (some .reportText) stand (mergeReport umgebung auftrag parsed stand) ∧
    ReportRuht auftrag.nurAlarm (auftrag.logs ++ (mergeReport umgebung auftrag parsed stand).journal) stand.incident.id parsed
      ((mergeReport umgebung auftrag parsed stand).sicht auftrag.orgId .reportText) := by
  unfold mergeReport
  dsimp only
  split
  · next nothing => exact ⟨.refl stand, fun some_ => absurd nothing some_⟩
  · split
    · next asked =>
      obtain ⟨incident, felder, journal, locked⟩ := geschuetzt_gesperrt asked
      refine ⟨.of_same incident felder journal, fun _ => ?_⟩
      rw [Stand.sicht, incident, felder]
      exact locked
    · next between asked =>
      obtain ⟨rfl, -⟩ := geschuetzt_frei asked
      refine ⟨aendern_nur _, fun some_ => absurd ?_ some_⟩
      refine neueTeile_wieder (fun teil old => enthaelt_append old _) fun teil new => ?_
      change enthaelt (_ ++ (_ ++ _)) teil = true
      rw [← String.append_assoc]
      have written := enthaelt_intercalate new "\n"
      rw [enthaelt_iff] at written ⊢
      rw [String.toList_append]
      exact List.infix_append_of_infix_right written

theorem mergeReport_wieder (rests : ReportRuht auftrag.nurAlarm auftrag.logs stand.incident.id parsed
    (stand.sicht auftrag.orgId .reportText)) : mergeReport umgebung auftrag parsed stand = stand := by
  unfold mergeReport
  dsimp only
  split
  · rfl
  · next some_ =>
    have locked := rests some_
    change Gesperrt _ _ _ _ (String.intercalate "\n" (neueTeile parsed (stand.incident.reportText.getD ""))) _ at locked
    rw [geschuetzt_of_gesperrt locked]

theorem mergeReason_nur : Stand.Nur auftrag.orgId none stand (mergeReason auftrag parsed stand) ∧
    ReasonRuht auftrag.nurAlarm (auftrag.logs ++ (mergeReason auftrag parsed stand).journal) stand.incident.id parsed
      ((mergeReason auftrag parsed stand).sicht auftrag.orgId .reason) := by
  unfold mergeReason
  split
  · next none_ => exact ⟨.refl stand, fun reason isNew => by rw [none_] at isNew; cases isNew⟩
  · next reason isReason =>
    split
    · next same =>
      refine ⟨.refl stand, fun other isNew differs => absurd same ?_⟩
      rw [isReason] at isNew
      cases isNew
      exact differs
    · rcases asked : geschuetzt auftrag .reason reason stand with ⟨schutz, nach⟩
      cases schutz with
      | true =>
        obtain ⟨incident, felder, journal, locked⟩ := geschuetzt_gesperrt asked
        refine ⟨.of_same incident felder journal, fun other isNew _ => .inl ?_⟩
        rw [isReason] at isNew
        cases isNew
        rw [Stand.sicht, incident, felder]
        exact locked
      | false =>
        obtain ⟨rfl, free⟩ := geschuetzt_frei asked
        exact ⟨.refl _, fun _ _ _ => .inr free⟩

theorem mergeReason_wieder (rests : ReasonRuht auftrag.nurAlarm auftrag.logs stand.incident.id parsed
    (stand.sicht auftrag.orgId .reason)) : mergeReason auftrag parsed stand = stand := by
  unfold mergeReason
  split
  · rfl
  · next reason isReason =>
    split
    · rfl
    · next differs =>
      rcases rests reason isReason differs with locked | free
      · rw [geschuetzt_of_gesperrt locked]
      · rw [geschuetzt_of_frei free]

end Meldebild

section Codes

theorem herkunft_gespeichert (felder : List IncidentAlarmField) (incidentId orgId : Nat) (feld : Feld) (wert : Feldwert)
    (source : Source) (ingestId : Option Nat) (now : Zeit) :
    ∃ eintrag, herkunft (speichereFeld felder incidentId orgId feld wert source ingestId now) incidentId orgId feld = some eintrag ∧
      eintrag.value = wert := by
  unfold speichereFeld
  split
  · next held =>
    obtain ⟨eintrag, found⟩ := Option.isSome_iff_exists.mp held
    have keys := List.find?_some found
    unfold herkunft at found ⊢
    rw [Relational.find?_update, found]
    · exact ⟨_, rfl, by simp only [keys, if_true]⟩
    · exact fun eintrag _ => rfl
  · next missing =>
    have none_ : herkunft felder incidentId orgId feld = none := by
      cases found : herkunft felder incidentId orgId feld with
      | none => rfl
      | some _ => rw [found] at missing; exact absurd rfl missing
    unfold herkunft at none_ ⊢
    rw [List.find?_append, none_, Option.none_or, List.find?_singleton, if_pos (by simp)]
    exact ⟨_, rfl, rfl⟩

theorem ergaenzeCodes_nur (bisher neu : List String) :
    Stand.Nur auftrag.orgId (some .codes) stand (ergaenzeCodes auftrag bisher neu stand) ∧
      codesIn ((ergaenzeCodes auftrag bisher neu stand).sicht auftrag.orgId .codes) = bisher ++ neu := by
  refine ⟨⟨rfl, rfl, fun feld' other => Prod.ext rfl ?_, List.subset_append_left _ _⟩, ?_⟩
  · have different : feld' ≠ .codes := fun same => other (congrArg some same)
    exact herkunft_speichereFeld _ _ _ _ _ _ _ _ _ _ _ (Or.inr (Or.inr different))
  · obtain ⟨eintrag, found, stored⟩ := herkunft_gespeichert stand.felder stand.incident.id auftrag.orgId .codes (.codes (bisher ++ neu))
      .alarm (some auftrag.ingestId) auftrag.now
    have origin : ((ergaenzeCodes auftrag bisher neu stand).sicht auftrag.orgId .codes).2 = some eintrag := found
    rw [codesIn, origin]
    dsimp only
    rw [stored]

theorem codesRuht_ergaenzt (logs : List Eintrag) :
    CodesRuht umgebung auftrag.nurAlarm logs stand.incident.id parsed
      ((ergaenzeCodes auftrag (codesIn (stand.sicht auftrag.orgId .codes))
        (neueCodes umgebung parsed (stand.sicht auftrag.orgId .codes)) stand).sicht auftrag.orgId .codes) := by
  refine fun some_ => absurd ?_ some_
  refine List.filter_eq_nil_iff.mpr fun code member isNew => of_decide_eq_true isNew ?_
  rw [(ergaenzeCodes_nur _ _).2, List.mem_append]
  by_cases known : code ∈ codesIn (stand.sicht auftrag.orgId .codes)
  · exact .inl known
  · exact .inr (List.mem_filter.mpr ⟨member, decide_eq_true known⟩)

theorem mergeCodes_nur : Stand.Nur auftrag.orgId (some .codes) stand (mergeCodes umgebung auftrag parsed stand) ∧
    CodesRuht umgebung auftrag.nurAlarm (auftrag.logs ++ (mergeCodes umgebung auftrag parsed stand).journal) stand.incident.id parsed
      ((mergeCodes umgebung auftrag parsed stand).sicht auftrag.orgId .codes) := by
  unfold mergeCodes
  dsimp only
  split
  · next nothing => exact ⟨.of_same rfl rfl (List.Subset.refl _), fun some_ => absurd nothing some_⟩
  · -- the result has been noted already, which nothing here reads
    generalize start : ({ stand with ergebnis := _ } : Stand) = between
    have before : Stand.Nur auftrag.orgId (some .codes) stand between := by
      rw [← start]
      exact .of_same rfl rfl (List.Subset.refl _)
    have incident : between.incident = stand.incident := by rw [← start]
    have sicht : between.sicht auftrag.orgId .codes = stand.sicht auftrag.orgId .codes := by rw [← start]; rfl
    have stored : Stand.Nur auftrag.orgId (some .codes) stand
          (ergaenzeCodes auftrag (bisherigeCodes auftrag stand) (neueCodes umgebung parsed (stand.sicht auftrag.orgId .codes)) between) ∧
        ∀ logs, CodesRuht umgebung auftrag.nurAlarm logs stand.incident.id parsed
          ((ergaenzeCodes auftrag (bisherigeCodes auftrag stand) (neueCodes umgebung parsed (stand.sicht auftrag.orgId .codes))
            between).sicht auftrag.orgId .codes) := by
      refine ⟨before.trans (ergaenzeCodes_nur _ _).1, fun logs => ?_⟩
      have rests := @codesRuht_ergaenzt umgebung auftrag parsed between logs
      rw [incident, sicht] at rests
      exact rests
    split
    · next asked =>
      split at asked
      · next only =>
        obtain ⟨same, felder, journal, locked⟩ := geschuetzt_gesperrt asked
        refine ⟨before.trans (.of_same same felder journal), fun _ => ⟨only, ?_⟩⟩
        rw [Stand.sicht, same, felder, ← Stand.sicht, sicht]
        rw [incident, sicht] at locked
        exact locked
      · cases asked
    · next asked =>
      split at asked
      · obtain ⟨rfl, -⟩ := geschuetzt_frei asked
        exact ⟨stored.1, stored.2 _⟩
      · cases asked
        exact ⟨stored.1, stored.2 _⟩

theorem mergeCodes_wieder (rests : CodesRuht umgebung auftrag.nurAlarm auftrag.logs stand.incident.id parsed
    (stand.sicht auftrag.orgId .codes)) : mergeCodes umgebung auftrag parsed stand =
      { stand with ergebnis := { stand.ergebnis with neueCodes := neueCodes umgebung parsed (stand.sicht auftrag.orgId .codes) } } := by
  unfold mergeCodes
  dsimp only
  split
  · rfl
  · next some_ =>
    obtain ⟨only, locked⟩ := rests some_
    have again : ∀ ergebnis, geschuetzt auftrag .codes
        (String.intercalate ", " ((codesVon umgebung parsed).filter (· ∉ bisherigeCodes auftrag stand))) { stand with ergebnis } =
        (true, { stand with ergebnis }) := fun ergebnis => @geschuetzt_of_gesperrt auftrag { stand with ergebnis } .codes _ locked
    rw [if_pos only, again]
    rfl

end Codes

section Folgenachricht

theorem Gesperrt.mono {nurAlarm : Bool} {logs logs' : List Eintrag} {incidentId : Nat} {feld : Feld} {wert : String} {sicht : Sicht}
    (locked : Gesperrt nurAlarm logs incidentId feld wert sicht) (more : logs ⊆ logs') :
    Gesperrt nurAlarm logs' incidentId feld wert sicht := by
  unfold Gesperrt at locked ⊢
  split
  · next manual =>
    rw [if_pos manual] at locked
    exact locked.mono more
  · next notManual =>
    rw [if_neg notManual] at locked
    exact locked

section Mono

variable {nurAlarm : Bool} {logs logs' : List Eintrag} {incidentId orgId : Nat} {sicht : Sicht}

theorem AdresseRuht.mono {feld : Feld} {wert : Option String} (rests : AdresseRuht nurAlarm logs incidentId feld wert sicht)
    (more : logs ⊆ logs') : AdresseRuht nurAlarm logs' incidentId feld wert sicht := fun neu isNew differs =>
  (rests neu isNew differs).imp (·.mono more) fun ⟨free, some_, notAlarm, noted⟩ => ⟨free, some_, notAlarm, noted.mono more⟩

theorem StichwortRuht.mono (rests : StichwortRuht umgebung typen orgId nurAlarm logs incidentId parsed sicht) (more : logs ⊆ logs') :
    StichwortRuht umgebung typen orgId nurAlarm logs' incidentId parsed sicht := fun code isCode differs =>
  (rests code isCode differs).imp (·.mono more) fun ⟨free, notRaised, noted⟩ => ⟨free, notRaised, noted.mono more⟩

theorem ReasonRuht.mono (rests : ReasonRuht nurAlarm logs incidentId parsed sicht) (more : logs ⊆ logs') :
    ReasonRuht nurAlarm logs' incidentId parsed sicht := fun reason isReason differs =>
  (rests reason isReason differs).imp_left (·.mono more)

theorem ReportRuht.mono (rests : ReportRuht nurAlarm logs incidentId parsed sicht) (more : logs ⊆ logs') :
    ReportRuht nurAlarm logs' incidentId parsed sicht := fun some_ => (rests some_).mono more

theorem CodesRuht.mono (rests : CodesRuht umgebung nurAlarm logs incidentId parsed sicht) (more : logs ⊆ logs') :
    CodesRuht umgebung nurAlarm logs' incidentId parsed sicht := fun some_ => (rests some_).imp_right (·.mono more)

end Mono

structure Ruht (umgebung : Alarmumgebung) (typen : List AlarmType) (orgId : Nat) (nurAlarm : Bool) (logs : List Eintrag)
    (parsed : Parsed) (stand : Stand) : Prop where
  strasse : AdresseRuht nurAlarm logs stand.incident.id .addressStreet parsed.street (stand.sicht orgId .addressStreet)
  hausnummer : AdresseRuht nurAlarm logs stand.incident.id .addressNo parsed.houseNo (stand.sicht orgId .addressNo)
  ort : AdresseRuht nurAlarm logs stand.incident.id .addressCity parsed.city (stand.sicht orgId .addressCity)
  stichwort : StichwortRuht umgebung typen orgId nurAlarm logs stand.incident.id parsed (stand.sicht orgId .alarmTypeCode)
  reason : ReasonRuht nurAlarm logs stand.incident.id parsed (stand.sicht orgId .reason)
  report : ReportRuht nurAlarm logs stand.incident.id parsed (stand.sicht orgId .reportText)
  codes : CodesRuht umgebung nurAlarm logs stand.incident.id parsed (stand.sicht orgId .codes)

structure Stand.Laesst (orgId : Nat) (feld : Feld) (vor nach : Stand) : Prop where
  id : nach.incident.id = vor.incident.id
  primaryOrgId : nach.incident.primaryOrgId = vor.incident.primaryOrgId
  sicht : nach.sicht orgId feld = vor.sicht orgId feld
  journal : vor.journal ⊆ nach.journal

theorem Stand.Laesst.refl (orgId : Nat) (feld : Feld) (stand : Stand) : stand.Laesst orgId feld stand :=
  ⟨rfl, rfl, rfl, List.Subset.refl _⟩

theorem Stand.Nur.laesst {orgId : Nat} {nur : Option Feld} {feld : Feld} {a b c : Stand} (first : Nur orgId nur a b)
    (other : some feld ≠ nur) (later : b.Laesst orgId feld c) : a.Laesst orgId feld c :=
  ⟨later.id.trans first.id, later.primaryOrgId.trans first.primaryOrgId, later.sicht.trans (first.sonst feld other),
    List.Subset.trans first.journal later.journal⟩

theorem loescheKoordinaten_nur : Stand.Nur auftrag.orgId none stand (loescheKoordinaten auftrag stand) := by
  have ort : ∀ stand nach : Stand, nach.felder = stand.felder → stand.journal ⊆ nach.journal →
      (∃ lat lng, nach.incident = { stand.incident with lat, lng }) → Stand.Nur auftrag.orgId none stand nach := by
    rintro stand nach felder journal ⟨lat, lng, incident⟩
    refine ⟨by rw [incident], by rw [incident], fun feld _ => ?_, journal⟩
    rw [Stand.sicht, Stand.sicht, incident, felder]
    cases feld <;> rfl
  unfold loescheKoordinaten
  dsimp only
  split <;> split
  · refine ort _ _ rfl (fun log member => ?_) ⟨_, _, rfl⟩
    exact List.mem_append_left _ (List.mem_append_left _ member)
  · exact ort _ _ rfl (List.subset_append_left _ _) ⟨_, _, rfl⟩
  · exact ort _ _ rfl (List.subset_append_left _ _) ⟨_, _, rfl⟩
  · exact .refl stand

theorem append_subset_of {logs journal journal' all : List Eintrag} (more : journal ⊆ journal') (known : logs ++ journal' ⊆ all) :
    logs ++ journal ⊆ all := by
  intro log member
  rcases List.mem_append.mp member with old | new
  · exact known (List.mem_append_left _ old)
  · exact known (List.mem_append_right _ (more new))

def mergeAdressen (auftrag : Auftrag) (parsed : Parsed) (stand : Stand) : Stand :=
  let nach := mergeAdresse auftrag (mergeAdresse auftrag (mergeAdresse auftrag stand (.addressStreet, parsed.street))
    (.addressNo, parsed.houseNo)) (.addressCity, parsed.city)
  if nach.ergebnis.adresseGeaendert then loescheKoordinaten auftrag nach else nach

theorem mergeFolgenachricht_eq_ok {ingestOrgId : Option Nat} :
    mergeFolgenachricht umgebung auftrag typen ingestOrgId parsed stand = .ok nach ↔
      (stand.incident.primaryOrgId = some auftrag.orgId ∧ ingestOrgId = some auftrag.orgId) ∧
        ∃ keyword, mergeStichwort umgebung auftrag typen parsed (mergeAdressen auftrag parsed stand) = .ok keyword ∧
          mergeCodes umgebung auftrag parsed (mergeReport umgebung auftrag parsed (mergeReason auftrag parsed keyword)) = nach := by
  simp only [mergeFolgenachricht, bind, Except.bind, pure, Except.pure, throw, throwThe, MonadExceptOf.throw]
  split
  · next tenant =>
    refine ⟨fun done => (by cases done), fun ⟨inside, _⟩ => ?_⟩
    rcases tenant with other | other
    · exact absurd inside.1 other
    · exact absurd inside.2 other
  · next tenant =>
    rw [not_or, not_not, not_not] at tenant
    split
    · next failed =>
      refine ⟨fun done => (by cases done), fun ⟨_, keyword, merged, _⟩ => ?_⟩
      cases merged.symm.trans failed
    · next keyword merged =>
      refine ⟨fun done => ⟨tenant, keyword, merged, Except.ok.inj done⟩, fun ⟨_, keyword', merged', same⟩ => ?_⟩
      cases merged'.symm.trans merged
      rw [same]

theorem mergeAdressen_ruht {logs : List Eintrag} (known : auftrag.logs ++ (mergeAdressen auftrag parsed stand).journal ⊆ logs) :
    (∀ feld, feld ≠ .addressStreet → feld ≠ .addressNo → feld ≠ .addressCity →
      stand.Laesst auftrag.orgId feld (mergeAdressen auftrag parsed stand)) ∧
    AdresseRuht auftrag.nurAlarm logs (mergeAdressen auftrag parsed stand).incident.id .addressStreet parsed.street
      ((mergeAdressen auftrag parsed stand).sicht auftrag.orgId .addressStreet) ∧
    AdresseRuht auftrag.nurAlarm logs (mergeAdressen auftrag parsed stand).incident.id .addressNo parsed.houseNo
      ((mergeAdressen auftrag parsed stand).sicht auftrag.orgId .addressNo) ∧
    AdresseRuht auftrag.nurAlarm logs (mergeAdressen auftrag parsed stand).incident.id .addressCity parsed.city
      ((mergeAdressen auftrag parsed stand).sicht auftrag.orgId .addressCity) := by
  have street := @mergeAdresse_nur auftrag stand .addressStreet parsed.street
  have streetRests := @mergeAdresse_ruht auftrag stand .addressStreet parsed.street (by decide)
  unfold mergeAdressen at known ⊢
  generalize mergeAdresse auftrag stand (.addressStreet, parsed.street) = s₁ at known street streetRests ⊢
  have no := @mergeAdresse_nur auftrag s₁ .addressNo parsed.houseNo
  have noRests := @mergeAdresse_ruht auftrag s₁ .addressNo parsed.houseNo (by decide)
  generalize mergeAdresse auftrag s₁ (.addressNo, parsed.houseNo) = s₂ at known no noRests ⊢
  have city := @mergeAdresse_nur auftrag s₂ .addressCity parsed.city
  have cityRests := @mergeAdresse_ruht auftrag s₂ .addressCity parsed.city (by decide)
  generalize mergeAdresse auftrag s₂ (.addressCity, parsed.city) = s₃ at known city cityRests ⊢
  have place : Stand.Nur auftrag.orgId none s₃ (if s₃.ergebnis.adresseGeaendert then loescheKoordinaten auftrag s₃ else s₃) := by
    split
    · exact loescheKoordinaten_nur
    · exact .refl s₃
  dsimp only at known ⊢
  generalize (if s₃.ergebnis.adresseGeaendert then loescheKoordinaten auftrag s₃ else s₃) = s₄ at known place ⊢
  have more : ∀ {s : Stand}, s.journal ⊆ s₄.journal → auftrag.logs ++ s.journal ⊆ logs := fun journal =>
    append_subset_of journal known
  have after₃ : ∀ feld, s₃.Laesst auftrag.orgId feld s₄ := fun feld => place.laesst (by simp) (.refl _ _ _)
  have after₂ : ∀ feld, feld ≠ .addressCity → s₂.Laesst auftrag.orgId feld s₄ := fun feld notCity =>
    city.laesst (by simpa using notCity) (after₃ feld)
  have after₁ : ∀ feld, feld ≠ .addressNo → feld ≠ .addressCity → s₁.Laesst auftrag.orgId feld s₄ := fun feld notNo notCity =>
    no.laesst (by simpa using notNo) (after₂ feld notCity)
  refine ⟨fun feld notStreet notNo notCity => street.laesst (by simpa using notStreet) (after₁ feld notNo notCity), ?_, ?_, ?_⟩
  · have later := after₁ .addressStreet (by decide) (by decide)
    rw [later.sicht, later.id, street.id]
    exact streetRests.mono (more later.journal)
  · have later := after₂ .addressNo (by decide)
    rw [later.sicht, later.id, no.id]
    exact noRests.mono (more later.journal)
  · have later := after₃ .addressCity
    rw [later.sicht, later.id, city.id]
    exact cityRests.mono (more later.journal)

theorem mergeFolgenachricht_ruht {ingestOrgId : Option Nat} {logs : List Eintrag}
    (done : mergeFolgenachricht umgebung auftrag typen ingestOrgId parsed stand = .ok nach) (known : auftrag.logs ++ nach.journal ⊆ logs) :
    nach.incident.primaryOrgId = some auftrag.orgId ∧ ingestOrgId = some auftrag.orgId ∧
      Ruht umgebung typen auftrag.orgId auftrag.nurAlarm logs parsed nach := by
  obtain ⟨⟨ofOrg, ingestOrg⟩, s₂, merged, rfl⟩ := mergeFolgenachricht_eq_ok.mp done
  obtain ⟨keyword, keywordRests⟩ := mergeStichwort_nur merged
  obtain ⟨reason, reasonRests⟩ := @mergeReason_nur auftrag parsed s₂
  generalize mergeReason auftrag parsed s₂ = s₃ at known reason reasonRests ⊢
  obtain ⟨report, reportRests⟩ := @mergeReport_nur umgebung auftrag parsed s₃
  generalize mergeReport umgebung auftrag parsed s₃ = s₄ at known report reportRests ⊢
  obtain ⟨codes, codesRests⟩ := @mergeCodes_nur umgebung auftrag parsed s₄
  generalize mergeCodes umgebung auftrag parsed s₄ = s₅ at known codes codesRests ⊢
  have after₄ : ∀ feld, feld ≠ .codes → s₄.Laesst auftrag.orgId feld s₅ := fun feld notCodes =>
    codes.laesst (by simpa using notCodes) (.refl _ _ _)
  have after₃ : ∀ feld, feld ≠ .reportText → feld ≠ .codes → s₃.Laesst auftrag.orgId feld s₅ := fun feld notReport notCodes =>
    report.laesst (by simpa using notReport) (after₄ feld notCodes)
  have after₂ : ∀ feld, feld ≠ .reportText → feld ≠ .codes → s₂.Laesst auftrag.orgId feld s₅ := fun feld notReport notCodes =>
    reason.laesst (by simp) (after₃ feld notReport notCodes)
  have after₁ : ∀ feld, feld ≠ .alarmTypeCode → feld ≠ .reportText → feld ≠ .codes →
      (mergeAdressen auftrag parsed stand).Laesst auftrag.orgId feld s₅ := fun feld notCode notReport notCodes =>
    keyword.laesst (by simpa using notCode) (after₂ feld notReport notCodes)
  have later := after₁ .addressStreet (by decide) (by decide) (by decide)
  obtain ⟨before, street, no, city⟩ := mergeAdressen_ruht (append_subset_of later.journal known)
  refine ⟨?_, ingestOrg, ?_, ?_, ?_, ?_, ?_, ?_, ?_⟩
  · rw [later.primaryOrgId, (before .reason (by decide) (by decide) (by decide)).primaryOrgId]
    exact ofOrg
  · rw [later.sicht, later.id]
    exact street
  · rw [(after₁ .addressNo (by decide) (by decide) (by decide)).sicht, later.id]
    exact no
  · rw [(after₁ .addressCity (by decide) (by decide) (by decide)).sicht, later.id]
    exact city
  · have later := after₂ .alarmTypeCode (by decide) (by decide)
    rw [later.sicht, later.id, keyword.id]
    exact keywordRests.mono (append_subset_of later.journal known)
  · have later := after₃ .reason (by decide) (by decide)
    rw [later.sicht, later.id, reason.id]
    exact reasonRests.mono (append_subset_of later.journal known)
  · have later := after₄ .reportText (by decide)
    rw [later.sicht, later.id, report.id]
    exact reportRests.mono (append_subset_of later.journal known)
  · rw [codes.id]
    exact codesRests.mono known

theorem mergeAdressen_wieder (ruht : Ruht umgebung typen auftrag.orgId auftrag.nurAlarm auftrag.logs parsed stand)
    (unchanged : stand.ergebnis.adresseGeaendert = false) : mergeAdressen auftrag parsed stand = stand := by
  unfold mergeAdressen
  rw [mergeAdresse_wieder ruht.strasse, mergeAdresse_wieder ruht.hausnummer, mergeAdresse_wieder ruht.ort]
  dsimp only
  rw [unchanged, if_neg Bool.false_ne_true]

theorem mergeFolgenachricht_wieder {ingestOrgId : Option Nat} (ofOrg : stand.incident.primaryOrgId = some auftrag.orgId)
    (ingestOrg : ingestOrgId = some auftrag.orgId) (unchanged : stand.ergebnis.adresseGeaendert = false)
    (ruht : Ruht umgebung typen auftrag.orgId auftrag.nurAlarm auftrag.logs parsed stand) :
    mergeFolgenachricht umgebung auftrag typen ingestOrgId parsed stand = .ok
      { stand with ergebnis := { stand.ergebnis with neueCodes := neueCodes umgebung parsed (stand.sicht auftrag.orgId .codes) } } := by
  refine mergeFolgenachricht_eq_ok.mpr ⟨⟨ofOrg, ingestOrg⟩, stand, ?_, ?_⟩
  · rw [mergeAdressen_wieder ruht unchanged]
    exact mergeStichwort_wieder ruht.stichwort
  · rw [mergeReason_wieder ruht.reason, mergeReport_wieder ruht.report]
    exact mergeCodes_wieder ruht.codes

end Folgenachricht

/-- A later merge for the same organisation and of the same kind, when the log
holds what the first has written. -/
structure Auftrag.Wieder (auftrag auftrag' : Auftrag) (journal : List Eintrag) : Prop where
  orgId : auftrag'.orgId = auftrag.orgId
  nurAlarm : auftrag'.nurAlarm = auftrag.nurAlarm
  logs : auftrag.logs ++ journal ⊆ auftrag'.logs

/-- The codes that are kept back, and so still new: those of a merge that only
renews what comes from an alarm, when the codes of the incident do not. -/
def zurueckgehalten (umgebung : Alarmumgebung) (nurAlarm : Bool) (parsed : Parsed) (sicht : Sicht) : List String :=
  if nurAlarm ∧ sicht.vomAlarm = false then neueCodes umgebung parsed sicht else []

/-- A message that is merged again changes nothing and writes nothing. -/
theorem merge_idempotent (umgebung : Alarmumgebung) (typen : List AlarmType) (ingestOrgId : Option Nat) (parsed : Parsed)
    (incident : Einsatz) (felder : List IncidentAlarmField) {auftrag auftrag' : Auftrag} {nach : Stand}
    (done : mergeFolgenachricht umgebung auftrag typen ingestOrgId parsed { incident, felder } = .ok nach)
    (wieder : auftrag.Wieder auftrag' nach.journal) :
    mergeFolgenachricht umgebung auftrag' typen ingestOrgId parsed { incident := nach.incident, felder := nach.felder } = .ok
      { incident := nach.incident
        felder := nach.felder
        journal := []
        ergebnis := { neueCodes := zurueckgehalten umgebung auftrag.nurAlarm parsed (nach.sicht auftrag.orgId .codes) } } := by
  obtain ⟨ofOrg, ingestOrg, ruht⟩ := mergeFolgenachricht_ruht done wieder.logs
  rw [← wieder.orgId, ← wieder.nurAlarm] at ruht
  rw [← wieder.orgId] at ofOrg ingestOrg
  have again := @mergeFolgenachricht_wieder umgebung auftrag' typen parsed { incident := nach.incident, felder := nach.felder }
    ingestOrgId ofOrg ingestOrg rfl ⟨ruht.strasse, ruht.hausnummer, ruht.ort, ruht.stichwort, ruht.reason, ruht.report, ruht.codes⟩
  have left : neueCodes umgebung parsed (nach.sicht auftrag'.orgId .codes) =
      zurueckgehalten umgebung auftrag.nurAlarm parsed (nach.sicht auftrag.orgId .codes) := by
    rw [zurueckgehalten, ← wieder.orgId]
    split
    · rfl
    · next notKept =>
      by_contra some_
      obtain ⟨only, locked⟩ := ruht.codes some_
      rw [wieder.nurAlarm] at only
      have alarm : (nach.sicht auftrag'.orgId .codes).vomAlarm = true :=
        Bool.eq_true_of_not_eq_false fun notAlarm => notKept ⟨only, notAlarm⟩
      unfold Gesperrt at locked
      rw [Sicht.manuell_of_vomAlarm alarm, if_neg Bool.false_ne_true, alarm] at locked
      cases locked.2
  rw [again, ← left]
  rfl

def schlicht : Alarmumgebung where
  lower text := text
  sha1 text := text
  publicBaseUrl := ""
  upper text := text
  ziffer c := if c.isDigit then some (c.toNat - 48) else none
  datum _ _ := "01.01.2025 12:00"

def meldung (nurAlarm : Bool) (logs : List Eintrag) : Auftrag where
  now := 0
  ingestId := 2
  version := some 2
  orgId := 1
  nurAlarm := nurAlarm
  logs := logs

/-- A higher keyword, another town than the one a user has entered, and a code. -/
def brandF4 : Parsed where
  alarmTypeCode := some "F4"
  city := some "Au"
  sonderkennzeichen := ["r2"]

def fruehererAlarm : Einsatz where
  id := 1
  primaryOrgId := some 1
  alarmTypeCode := some "F2"
  addressCity := some "Egg"

def nachBrandF4 : Stand :=
  match mergeFolgenachricht schlicht (meldung false []) [] (some 1) brandF4 { incident := fruehererAlarm, felder := [] } with
  | .ok nach => nach
  | .error _ => { incident := fruehererAlarm, felder := [] }

theorem merge_idempotent_brandF4 :
    mergeFolgenachricht schlicht (meldung false []) [] (some 1) brandF4 { incident := fruehererAlarm, felder := [] } = .ok nachBrandF4 ∧
      nachBrandF4.incident.alarmTypeCode = some "F4" ∧ nachBrandF4.journal.length = 3 ∧
      mergeFolgenachricht schlicht (meldung false nachBrandF4.journal) [] (some 1) brandF4
        { incident := nachBrandF4.incident, felder := nachBrandF4.felder } =
          .ok { incident := nachBrandF4.incident, felder := nachBrandF4.felder, journal := []
                ergebnis := { neueCodes := zurueckgehalten schlicht false brandF4 (nachBrandF4.sicht 1 .codes) } } := by
  have done : mergeFolgenachricht schlicht (meldung false []) [] (some 1) brandF4 { incident := fruehererAlarm, felder := [] } =
      .ok nachBrandF4 := rfl
  have wieder : (meldung false []).Wieder (meldung false nachBrandF4.journal) nachBrandF4.journal :=
    ⟨rfl, rfl, List.Subset.refl _⟩
  exact ⟨done, rfl, rfl, merge_idempotent schlicht [] (some 1) brandF4 fruehererAlarm [] done wieder⟩

/-- Codes that are kept back are in the result every time. -/
theorem merge_zurueckgehalten : ¬ ∀ umgebung typen ingestOrgId parsed incident felder auftrag auftrag' nach,
    mergeFolgenachricht umgebung auftrag typen ingestOrgId parsed { incident, felder } = .ok nach →
      auftrag.Wieder auftrag' nach.journal →
      mergeFolgenachricht umgebung auftrag' typen ingestOrgId parsed { incident := nach.incident, felder := nach.felder } =
        .ok { incident := nach.incident, felder := nach.felder, journal := [], ergebnis := {} } := by
  intro always
  have second := always schlicht [] (some 1) brandF4 { fruehererAlarm with alarmTypeCode := some "F4" } [] (meldung true []) (meldung true [])
    _ rfl ⟨rfl, rfl, fun _ member => member⟩
  have codes := congrArg (fun outcome : Except String Stand => outcome.map (·.ergebnis.neueCodes)) second
  revert codes
  decide

end Einsatzcockpit.Apply
