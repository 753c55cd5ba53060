import Einsatzcockpit.Apply.Bewahrt

namespace Einsatzcockpit.Apply

open Alarm Transition

variable {umgebung : Alarmumgebung} {bestand nach : Bestand}

theorem Bestand.mem_of_incident? {id : Nat} {incident : Einsatz} (found : bestand.incident? id = some incident) :
    incident ∈ bestand.incidents :=
  List.mem_of_find?_eq_some found

theorem fuehreZusammen_achtet (gueltig : bestand.Gueltig) {now : Zeit} {ingest : AlarmIngest} {orgId : Nat}
    {nurAlarm : Bool} {parsed : Parsed} {incident : Einsatz} (member : incident ∈ bestand.incidents) {stand : Stand}
    (done : fuehreZusammen umgebung now ingest orgId nurAlarm parsed incident bestand = .ok (stand, nach)) :
    bestand.Achtet umgebung nach := by
  simp only [fuehreZusammen, bind, Except.bind, pure, Except.pure] at done
  split at done
  · cases done
  · next merged =>
    cases done
    obtain ⟨ofOrg, achtet⟩ := mergeFolgenachricht_achtet merged
    have written : bestand.Achtet umgebung { bestand.setIncident stand.incident with felder := stand.felder } := by
      refine .setIncident gueltig member achtet.id (achtet.nur gueltig.nur) (fun feld => ?_) fun id orgId' feld other => ?_
      · refine ⟨achtet.primaryOrgId, fun _ => achtet.hoeher, fun orgId' eintrag ofOrg' marked manual => ?_⟩
        rw [ofOrg] at ofOrg'
        cases ofOrg'
        have notCodes : feld ≠ .codes := by
          have key := List.find?_some marked
          simp only [Bool.and_eq_true, beq_iff_eq] at key
          rw [← key.2]
          exact gueltig.nur eintrag (List.mem_of_find?_eq_some marked) manual
        obtain ⟨marked', same⟩ := achtet.manuell feld eintrag notCodes marked manual
        exact ⟨same, marked'⟩
      · exact achtet.andere id orgId' feld (Or.inl other)
    exact written.then_same rfl rfl

theorem folge_achtet (gueltig : bestand.Gueltig) (now : Zeit) (ingestId incidentId orgId : Nat) (nurAlarm : Bool)
    (parsed : Parsed) :
    bestand.Achtet umgebung (folge umgebung now ingestId incidentId orgId nurAlarm parsed bestand) := by
  unfold folge
  split
  · next incident _ found =>
    split
    · next merged => exact fuehreZusammen_achtet gueltig (Bestand.mem_of_incident? found) merged
    · exact .refl gueltig
  · exact .refl gueltig

variable (umgebung) in
theorem nachalarmiere_same (now : Zeit) (orgId : Nat) (grund : Option String) (incident : Einsatz) (bestand : Bestand)
    (ausloeser : String × List String) :
    (nachalarmiere umgebung now orgId grund incident bestand ausloeser).incidents = bestand.incidents ∧
      (nachalarmiere umgebung now orgId grund incident bestand ausloeser).felder = bestand.felder := by
  unfold nachalarmiere
  dsimp only
  split
  · exact ⟨rfl, rfl⟩
  · split <;> exact ⟨rfl, rfl⟩

theorem nachalarmieren_achtet {vor : Bestand} (achtet : vor.Achtet umgebung bestand) (now : Zeit) (orgId : Nat)
    (grund : Option String) (incident : Einsatz) (gruende : List (String × List String)) :
    vor.Achtet umgebung (gruende.foldl (nachalarmiere umgebung now orgId grund incident) bestand) := by
  induction gruende generalizing bestand with
  | nil => exact achtet
  | cons ausloeser rest ih =>
    obtain ⟨incidents, felder⟩ := nachalarmiere_same umgebung now orgId grund incident bestand ausloeser
    exact ih (achtet.then_same incidents felder)

theorem folgenachricht_achtet (gueltig : bestand.Gueltig) {now : Zeit} {orgId : Nat} {eingang : Eingang}
    {ingest : AlarmIngest} {incident : Einsatz} (member : incident ∈ bestand.incidents)
    (done : folgenachricht umgebung now orgId eingang ingest incident bestand = .ok nach) :
    bestand.Achtet umgebung nach := by
  simp only [folgenachricht, bind, Except.bind, pure, Except.pure] at done
  split at done
  · cases done
  · next merged =>
    have achtet := fuehreZusammen_achtet gueltig member merged
    split at done
    · cases done
      exact achtet
    · split at done
      · cases done
        exact achtet.then_same rfl rfl
      · cases done
        exact nachalarmieren_achtet achtet now orgId eingang.grund _ _

variable (umgebung) in
theorem ordneZu_achtet (gueltig : bestand.Gueltig) {orgId : Nat} {eingang : Eingang} {ingest : AlarmIngest}
    {incident : Einsatz} {action : DedupAction}
    (done : ordneZu orgId eingang ingest bestand = .ok (incident, action, nach)) :
    bestand.Achtet umgebung nach ∧ incident ∈ nach.incidents ∧
      (action = .created → incident.id = bestand.incidents.length + 1) := by
  unfold ordneZu at done
  dsimp only at done
  split at done
  · next found =>
    cases done
    obtain ⟨id, _, row⟩ := Option.bind_eq_some_iff.mp found
    exact ⟨.refl gueltig, Bestand.mem_of_incident? row, fun no => by cases no⟩
  · split at done
    · next found =>
      split at done
      · cases done
      · cases done
        unfold nummerTreffer at found
        split at found
        · cases found
        · exact ⟨.refl gueltig, List.mem_of_find?_eq_some found, fun no => by cases no⟩
    · cases done
      exact ⟨.anlage gueltig rfl, List.mem_append_right _ (List.mem_singleton_self _), fun _ => rfl⟩

variable (umgebung) in
theorem setzeNummer_achtet (gueltig : bestand.Gueltig) (orgId : Nat) (nummer : Option String) {incident : Einsatz}
    (member : incident ∈ bestand.incidents) :
    bestand.Achtet umgebung (setzeNummer orgId nummer incident bestand).2 ∧
      (setzeNummer orgId nummer incident bestand).1 ∈ (setzeNummer orgId nummer incident bestand).2.incidents ∧
      (setzeNummer orgId nummer incident bestand).1.id = incident.id := by
  unfold setzeNummer
  dsimp only
  split
  · refine ⟨?_, ?_, rfl⟩
    · have written : bestand.Achtet umgebung
          { bestand.setIncident { incident with lisOperationNumber := nummer } with felder := bestand.felder } := by
        refine .setIncident gueltig member ?_ gueltig.nur (fun feld => ?_) fun _ _ _ _ => rfl
        · rfl
        refine ⟨rfl, fun _ => .refl _, fun orgId eintrag _ marked _ => ⟨?_, marked⟩⟩
        cases feld <;> rfl
      exact written
    · exact Relational.mem_update.mpr ⟨incident, member, if_pos (beq_self_eq_true _)⟩
  · exact ⟨.refl gueltig, member, rfl⟩

theorem speichereAnlage_andere (now : Zeit) (orgId : Nat) (ingest : AlarmIngest) (parsed : Parsed) (incident : Einsatz)
    {id : Nat} (other : id ≠ incident.id) (orgId' : Nat) (feld : Feld) :
    herkunft (speichereAnlage umgebung now orgId ingest parsed incident bestand).felder id orgId' feld =
      herkunft bestand.felder id orgId' feld := by
  have felder : ∀ (liste : List Feld) (felder : List IncidentAlarmField),
      herkunft (liste.foldl (fun felder feld => speichereFeld felder incident.id orgId feld
        (.text (incident.wert feld)) .alarm (some ingest.id) now) felder) id orgId' feld =
        herkunft felder id orgId' feld := by
    intro liste
    induction liste with
    | nil => exact fun _ => rfl
    | cons head rest ih =>
      intro felder
      rw [List.foldl_cons, ih, herkunft_speichereFeld _ _ _ _ _ _ _ _ _ _ _ (Or.inl other)]
  unfold speichereAnlage
  rw [herkunft_speichereFeld _ _ _ _ _ _ _ _ _ _ _ (Or.inl other)]
  exact felder alarmFelder bestand.felder

theorem speichereAnlage_nur (nur : NurFelder bestand.felder) (now : Zeit) (orgId : Nat) (ingest : AlarmIngest)
    (parsed : Parsed) (incident : Einsatz) :
    NurFelder (speichereAnlage umgebung now orgId ingest parsed incident bestand).felder := by
  have felder : ∀ (liste : List Feld) (felder : List IncidentAlarmField), NurFelder felder →
      NurFelder (liste.foldl (fun felder feld => speichereFeld felder incident.id orgId feld
        (.text (incident.wert feld)) .alarm (some ingest.id) now) felder) := by
    intro liste
    induction liste with
    | nil => exact fun _ nur => nur
    | cons head rest ih => exact fun felder nur => ih _ (nur.speichereFeld fun no => by cases no)
  exact (felder alarmFelder _ nur).speichereFeld fun no => by cases no

section

variable (gueltig : bestand.Gueltig)
include gueltig

theorem wendeAn_achtet {now : Zeit} {orgId : Nat} {eingang : Eingang}
    {ingest ingest' : AlarmIngest} {action : DedupAction}
    (done : wendeAn umgebung now orgId eingang ingest bestand = .ok (ingest', action, nach)) :
    bestand.Achtet umgebung nach := by
  simp only [wendeAn, bind, Except.bind, pure, Except.pure] at done
  split at done
  · cases done
  · next zugeordnet =>
    obtain ⟨achtet, member, created⟩ := ordneZu_achtet umgebung gueltig zugeordnet
    split at done
    · cases done
      exact achtet
    · obtain ⟨nummer, inside, sameId⟩ := setzeNummer_achtet umgebung achtet.gueltig orgId
        eingang.lesung.leitstellennummer member
      have bis := achtet.trans nummer
      split at done
      · next isNew =>
        cases done
        have fresh := created isNew
        refine ⟨⟨bis.gueltig.nummeriert, ?_⟩, fun id feld => ?_⟩
        · exact speichereAnlage_nur bis.gueltig.nur now orgId _ _ _
        · refine (bis.bewahrt id feld).then_felder rfl fun known orgId' => ?_
          obtain ⟨old, found⟩ := Option.isSome_iff_exists.mp known
          have bound := gueltig.nummeriert.le (Bestand.mem_of_incident? found)
          rw [Bestand.incident?_id found] at bound
          refine speichereAnlage_andere now orgId _ _ _ ?_ orgId' feld
          rw [gelesen, sameId, fresh]
          omega
      · split at done
        · split at done
          · cases done
          · next merged =>
            cases done
            exact bis.trans (folgenachricht_achtet bis.gueltig inside merged)
        · cases done
          exact bis

theorem processIngest_achtet (now : Zeit) (ingestId orgId : Nat) (eingang : Eingang) :
    bestand.Achtet umgebung (processIngest umgebung now ingestId orgId eingang bestand) := by
  unfold processIngest
  split
  · exact .refl gueltig
  · split
    · exact .refl gueltig
    · dsimp only
      split
      · exact .of_same gueltig rfl rfl
      · next done => exact (wendeAn_achtet gueltig done).then_same rfl rfl

theorem verarbeiteVerknuepften_achtet (now : Zeit) (orgId : Nat) (user : Benutzer)
    (lesung : Lesung) (ingest : AlarmIngest) {incident : Einsatz} (member : incident ∈ bestand.incidents) :
    bestand.Achtet umgebung (verarbeiteVerknuepften umgebung now orgId user lesung ingest incident bestand) := by
  unfold verarbeiteVerknuepften
  dsimp only
  split
  · exact .of_same gueltig rfl rfl
  · next stand nachher done =>
    have achtet : bestand.Achtet umgebung nachher := by
      split at done
      · cases done
      · exact fuehreZusammen_achtet gueltig member done
    split
    · exact achtet.then_same rfl rfl
    · exact achtet.then_same rfl rfl

theorem verarbeiteNeu_achtet (now : Zeit) (ingestId orgId : Nat) (user : Benutzer)
    (eingang : Eingang) :
    bestand.Achtet umgebung (verarbeiteNeu umgebung now ingestId orgId user eingang bestand) := by
  unfold verarbeiteNeu
  split
  · exact .refl gueltig
  · split
    · exact .refl gueltig
    · split
      · have reset : bestand.Achtet umgebung
            (bestand.setIngest ingestId fun ingest => { ingest with processStatus := .error }) :=
          .of_same gueltig rfl rfl
        have processed := reset.trans (processIngest_achtet reset.gueltig now ingestId orgId eingang)
        dsimp only
        split
        · exact processed
        · exact processed.then_same rfl rfl
      · split
        · exact .refl gueltig
        · next incident found =>
          obtain ⟨row, _⟩ := Option.filter_eq_some_iff.mp found
          exact verarbeiteVerknuepften_achtet gueltig now orgId user eingang.lesung _ (Bestand.mem_of_incident? row)

theorem markiereManuell_felder (now : Zeit) (incidentId orgId : Nat) (feld : Feld) :
    (markiereManuell now incidentId orgId feld bestand).incidents = bestand.incidents ∧
      NurFelder (markiereManuell now incidentId orgId feld bestand).felder ∧
      ∀ id orgId' feld', id ≠ incidentId ∨ feld' ≠ feld →
        herkunft (markiereManuell now incidentId orgId feld bestand).felder id orgId' feld' =
          herkunft bestand.felder id orgId' feld' := by
  unfold markiereManuell
  split
  · exact ⟨rfl, gueltig.nur, fun _ _ _ _ => rfl⟩
  · split
    · exact ⟨rfl, gueltig.nur, fun _ _ _ _ => rfl⟩
    · next known =>
      rw [not_not] at known
      refine ⟨rfl, gueltig.nur.speichereFeld fun _ isCodes => ?_, fun id orgId' feld' other => ?_⟩
      · rw [isCodes] at known
        exact absurd known (by decide)
      · refine herkunft_speichereFeld _ _ _ _ _ _ _ _ _ _ _ ?_
        tauto

theorem setzeFeld_gueltig (incident : Einsatz) (feld : Feld) (wert : Option String) :
    (bestand.setIncident (incident.setze feld wert)).Gueltig :=
  ⟨gueltig.nummeriert.of_map (Relational.map_update_key (fun row : Einsatz => row.id) _ _), gueltig.nur⟩

end

theorem setzeFeld_bewahrt {id incidentId : Nat} {feld feld' : Feld} (other : ¬(incidentId = id ∧ feld' = feld))
    {incident : Einsatz} (found : bestand.incident? incidentId = some incident) (wert : Option String) :
    bestand.Bewahrt umgebung id feld (bestand.setIncident (incident.setze feld' wert)) := by
  intro old known
  have keeps := Einsatz.setze_id incident feld' wert
  have lookup := bestand.incident?_setIncident (incident.setze feld' wert) id
  rw [keeps.1, Bestand.incident?_id found, known] at lookup
  by_cases same : id = incidentId
  · subst same
    rw [found] at known
    cases known
    rw [if_pos rfl] at lookup
    have differs : feld ≠ feld' := fun equal => other ⟨rfl, equal.symm⟩
    refine ⟨_, lookup, keeps.2, fun isCode => ?_, fun orgId eintrag _ marked _ => ⟨?_, marked⟩⟩
    · subst isCode
      have kept := Einsatz.setze_wert incident differs wert
      exact Or.inl kept
    · exact Einsatz.setze_wert incident differs wert
  · rw [if_neg same] at lookup
    exact ⟨old, lookup, rfl, fun _ => .refl _, fun orgId eintrag _ marked _ => ⟨rfl, marked⟩⟩

variable (umgebung) in
theorem bearbeite_bewahrt (gueltig : bestand.Gueltig) (now : Zeit) {id incidentId : Nat} {feld feld' : Feld}
    (wert : Option String) :
    (bearbeite now incidentId feld' wert bestand).Gueltig ∧
      (¬(incidentId = id ∧ feld' = feld) →
        bestand.Bewahrt umgebung id feld (bearbeite now incidentId feld' wert bestand)) := by
  unfold bearbeite
  split
  · exact ⟨gueltig, fun _ => .of_same rfl rfl⟩
  · next incident found =>
    have changed := setzeFeld_gueltig gueltig incident feld' wert
    dsimp only
    split
    · exact ⟨changed, fun other => setzeFeld_bewahrt other found wert⟩
    · next orgId _ =>
      split
      · obtain ⟨incidents, nur, andere⟩ := markiereManuell_felder changed now incidentId orgId feld'
        refine ⟨⟨incidents ▸ changed.nummeriert, nur⟩, fun other => ?_⟩
        refine (setzeFeld_bewahrt other found wert).then_felder incidents fun _ orgId' => andere id orgId' feld ?_
        tauto
      · exact ⟨changed, fun other => setzeFeld_bewahrt other found wert⟩

def Schritt.bearbeitet (id : Nat) (feld : Feld) : Schritt → Bool
  | .bearbeite _ incidentId feld' _ => incidentId == id && feld' == feld
  | _ => false

theorem step_bewahrt (gueltig : bestand.Gueltig) (schritt : Schritt) (id : Nat) (feld : Feld) :
    (step umgebung bestand schritt).Gueltig ∧
      (schritt.bearbeitet id feld = false → bestand.Bewahrt umgebung id feld (step umgebung bestand schritt)) := by
  have of_achtet : ∀ {nach : Bestand}, bestand.Achtet umgebung nach →
      nach.Gueltig ∧ (schritt.bearbeitet id feld = false → bestand.Bewahrt umgebung id feld nach) :=
    fun achtet => ⟨achtet.gueltig, fun _ => achtet.bewahrt id feld⟩
  cases schritt with
  | einsatz incident => exact of_achtet (.anlage gueltig rfl)
  | ingest ingest => exact of_achtet (.of_same gueltig rfl rfl)
  | typ typ => exact of_achtet (.of_same gueltig rfl rfl)
  | bearbeite now incidentId feld' wert =>
    obtain ⟨changed, bewahrt⟩ := bearbeite_bewahrt umgebung gueltig now wert
    refine ⟨changed, fun other => bewahrt fun same => ?_⟩
    simp [Schritt.bearbeitet, same.1, same.2] at other
  | folge now ingestId incidentId orgId nurAlarm parsed =>
    exact of_achtet (folge_achtet gueltig now ingestId incidentId orgId nurAlarm parsed)
  | verarbeite now ingestId orgId eingang => exact of_achtet (processIngest_achtet gueltig now ingestId orgId eingang)
  | verarbeiteNeu now ingestId orgId user eingang =>
    exact of_achtet (verarbeiteNeu_achtet gueltig now ingestId orgId user eingang)

theorem run_gueltig (schritte : List Schritt) : (run (step umgebung) {} schritte).Gueltig :=
  run_invariant Bestand.Gueltig (fun _ schritt gueltig => (step_bewahrt gueltig schritt 0 .codes).1)
    ⟨.nil, fun _ none => by cases none⟩ schritte

variable (umgebung) in
theorem manuell_bewahrt (id : Nat) (feld : Feld) {before after : List Schritt}
    (frei : ∀ schritt ∈ after, schritt.bearbeitet id feld = false) :
    (run (step umgebung) {} before).Bewahrt umgebung id feld (run (step umgebung) {} (before ++ after)) := by
  rw [run_append]
  refine run_relates Bestand.Gueltig (Bestand.Bewahrt umgebung id feld)
    (fun _ schritt gueltig _ => (step_bewahrt gueltig schritt id feld).1) (fun _ => .of_same rfl rfl)
    (fun _ _ _ first second => first.trans second)
    (fun _ schritt gueltig unedited => (step_bewahrt gueltig schritt id feld).2 unedited) (run_gueltig before) ?_
  exact Meets.of_forall (fun schritt member _ => frei schritt member) _

def beispiel : Alarmumgebung :=
  { lower := String.toLower
    sha1 := id
    publicBaseUrl := ""
    upper := String.toUpper
    ziffer := fun c => if c.isDigit then some (c.toNat - '0'.toNat) else none
    datum := fun _ _ => "01.01.2025 12:00" }

def berichtigt : List Schritt :=
  [.einsatz { id := 0, primaryOrgId := some 1, alarmTypeCode := some "F2", addressCity := some "Egg" },
    .ingest { id := 0, orgId := some 1, rawText := "", receivedAt := 0 }, .bearbeite 0 1 .addressCity (some "Au")]

def folgealarm : List Schritt :=
  [.folge 0 1 1 1 false { alarmTypeCode := some "f4", city := some "Egg" },
    .folge 0 1 1 1 false { alarmTypeCode := some "T9" }]

theorem manuell_bewahrt_city :
    (∀ schritt ∈ folgealarm, schritt.bearbeitet 1 .addressCity = false) ∧
      (run (step beispiel) {} berichtigt).Bewahrt beispiel 1 .addressCity
        (run (step beispiel) {} (berichtigt ++ folgealarm)) ∧
      ((run (step beispiel) {} berichtigt).incident? 1).map (·.alarmTypeCode) = some (some "F2") ∧
      (herkunft (run (step beispiel) {} berichtigt).felder 1 1 .addressCity).map (·.source) = some .manual ∧
      ((run (step beispiel) {} (berichtigt ++ folgealarm)).incident? 1).map (·.alarmTypeCode) = some (some "f4") := by
  have frei : ∀ schritt ∈ folgealarm, schritt.bearbeitet 1 .addressCity = false := by decide
  refine ⟨frei, manuell_bewahrt beispiel 1 .addressCity frei, ?_, ?_, ?_⟩ <;> decide +kernel

end Einsatzcockpit.Apply
