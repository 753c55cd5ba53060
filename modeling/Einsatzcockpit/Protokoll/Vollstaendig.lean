import Einsatzcockpit.Protokoll.Dauer
import Einsatzcockpit.Protokoll.Zuordnung

namespace Einsatzcockpit.Protokoll

open Breathing

section Lauf

variable {sprache : Sprache} {namen : Namen} {troop : BreathingTroop} {warnungen : List BreathingWarnung}
  {redeploys : List Nat}
  {zuordnung : List (IncidentChange × Ausgang)} {lauf : Lauf}

theorem stand_start (events : List Ereignis) : Stand sprache namen troop redeploys events [] { events } := by
  refine ⟨⟨List.nodup_nil, fun _ _ member => absurd member List.not_mem_nil, fun _ member => absurd member List.not_mem_nil⟩,
    ?_, fun i => Iff.rfl⟩
  refine List.ext_getElem? fun i => ?_
  rw [List.filterMap_nil, List.append_nil, List.getElem?_mapIdx]
  cases events[i]? <;> rfl

theorem verarbeite_stand
    (stand : Stand sprache namen troop redeploys (strukturiert sprache namen troop warnungen) zuordnung lauf) (row : IncidentChange) :
    ∃ more, more.map (·.1) = [row].filter (relevant troop) ∧
      Stand sprache namen troop redeploys (strukturiert sprache namen troop warnungen) (zuordnung ++ more)
        (verarbeite sprache namen troop warnungen redeploys lauf row) := by
  unfold verarbeite
  simp only
  split
  · next about =>
    refine ⟨[], ?_, by rwa [List.append_nil]⟩
    rw [List.filter_singleton, relevant, about]
    rfl
  · next bezug' about =>
    have isRelevant : [row].filter (relevant troop) = [row] := by
      rw [List.filter_singleton, relevant, about]
      rfl
    rw [isRelevant]
    split
    · next i found => exact ⟨[(row, .treffer i)], rfl, stand.treffer about found⟩
    · split
      · next covered =>
        have kept := @Stand.ohne _ _ _ _ _ _ _ row stand .gedeckt rfl fun _ => abgedeckt_of_gedeckt covered
        have nothing : eigenes? sprache namen troop redeploys (row, .gedeckt) = none := rfl
        rw [nothing, Option.toList_none, List.append_nil] at kept
        exact ⟨[(row, .gedeckt)], rfl, kept⟩
      · have kept := @Stand.ohne _ _ _ _ _ _ _ row stand .eigen rfl fun other => by cases other
        rw [eigenes?, about] at kept
        exact ⟨[(row, .eigen)], rfl, kept⟩

theorem lauf_stand (rows : List IncidentChange)
    (stand : Stand sprache namen troop redeploys (strukturiert sprache namen troop warnungen) zuordnung lauf) :
    ∃ more, more.map (·.1) = rows.filter (relevant troop) ∧
      Stand sprache namen troop redeploys (strukturiert sprache namen troop warnungen) (zuordnung ++ more)
        (rows.foldl (verarbeite sprache namen troop warnungen redeploys) lauf) := by
  induction rows generalizing zuordnung lauf with
  | nil => exact ⟨[], rfl, by rwa [List.append_nil]⟩
  | cons row rest ih =>
    obtain ⟨first, ofRow, stand⟩ := verarbeite_stand stand row
    obtain ⟨more, ofRest, stand⟩ := ih stand
    refine ⟨first ++ more, ?_, by rwa [← List.append_assoc]⟩
    rw [List.map_append, ofRow, ofRest, ← List.filter_append]
    rfl

end Lauf

/-- The events before they are put in order: the structured ones with what the
rows add, and the rows' own. -/
def zusammen (sprache : Sprache) (namen : Namen) (troop : BreathingTroop) (audits : List IncidentChange)
    (warnungen : List BreathingWarnung) (zuordnung : List (IncidentChange × Ausgang)) : List Ereignis :=
  (strukturiert sprache namen troop warnungen).mapIdx (ergaenze sprache namen zuordnung) ++
    zuordnung.filterMap (eigenes? sprache namen troop (redeploys troop audits))

section Ereignisse

variable (sprache : Sprache) (namen : Namen) (troop : BreathingTroop) (audits : List IncidentChange)
  (warnungen : List BreathingWarnung)

theorem exists_zuordnung : ∃ zuordnung : List (IncidentChange × Ausgang),
    (zuordnung.map (·.1)).Perm (audits.filter (relevant troop)) ∧
    Zugeordnet sprache namen troop (redeploys troop audits) (strukturiert sprache namen troop warnungen) zuordnung ∧
    (ereignisse sprache namen troop audits warnungen).Perm (zusammen sprache namen troop audits warnungen zuordnung) := by
  have start := @stand_start sprache namen troop (redeploys troop audits) (strukturiert sprache namen troop warnungen)
  obtain ⟨zuordnung, rows, stand⟩ := lauf_stand (neuesteZuerst audits) start
  rw [List.nil_append] at stand
  refine ⟨zuordnung, ?_, stand.zugeordnet, ?_⟩
  · rw [rows]
    exact (List.perm_insertionSort _ audits).filter (relevant troop)
  · rw [zusammen, ← stand.events]
    exact List.perm_insertionSort _ _

theorem ereignisse_geordnet : (ereignisse sprache namen troop audits warnungen).Pairwise fun a b => a.zeit ≤ b.zeit :=
  List.pairwise_insertionSort _ _

end Ereignisse

section Zyklen

variable {sprache : Sprache} {namen : Namen} {troop : BreathingTroop} {cycles : List Einsatzzyklus} {nr : Nat}
  {e : Ereignis}

theorem getTroopCycles_length (troop : BreathingTroop) : 0 < (getTroopCycles troop).length := by
  unfold getTroopCycles
  split
  · rw [List.length_append]
    exact Nat.add_pos_right _ Nat.one_pos
  · exact Nat.one_pos

theorem mem_zipIdx_le {c : Einsatzzyklus} (member : (c, nr) ∈ cycles.zipIdx 1) : nr ≤ cycles.length := by
  have bounds := List.mem_zipIdx member
  omega

theorem cycleFor_le (cycles : List Einsatzzyklus) (zeit : Zeit) : cycleFor cycles zeit ≤ cycles.length := by
  unfold cycleFor
  split
  · next found =>
    have bounds := List.mem_zipIdx (List.mem_of_find?_eq_some found)
    have shorter := @List.length_dropLast _ cycles
    omega
  · exact le_rfl

theorem mitglied?_le {id : Nat} {m : Breathing.TroopMember} (found : mitglied? cycles id = some (m, nr)) : nr ≤ cycles.length := by
  obtain ⟨⟨c, nr'⟩, place, inside⟩ := List.mem_flatMap.mp (List.mem_reverse.mp (List.mem_of_find?_eq_some found))
  obtain ⟨m', -, same⟩ := List.mem_map.mp inside
  cases same
  exact mem_zipIdx_le place

theorem warnungZyklus_le (cycles : List Einsatzzyklus) (w : BreathingWarnung) : warnungZyklus cycles w ≤ cycles.length := by
  unfold warnungZyklus
  split
  · next found => exact mem_zipIdx_le (List.mem_of_find?_eq_some found)
  · exact cycleFor_le cycles _

theorem zyklus_add {zeit : Option Zeit} {art : EreignisArt} {text : String} {userId entityId : Option Nat} {nachgetragen : Bool}
    {action : Option String} (member : e ∈ add namen zeit art text nr userId nachgetragen action entityId) : e.zyklus = nr := by
  obtain ⟨_, -, rfl⟩ := List.mem_map.mp member
  rfl

theorem zyklus_memberEreignisse {c : Einsatzzyklus} {m : Breathing.TroopMember} (member : e ∈ memberEreignisse sprache namen c nr m) :
    e.zyklus = nr := by
  unfold memberEreignisse at member
  rcases List.mem_append.mp member with first | back
  · rcases List.mem_append.mp first with first | objective
    · rcases List.mem_append.mp first with start | withdraw
      · split at start
        · exact zyklus_add start
        · cases start
      · split at withdraw
        · exact zyklus_add withdraw
        · cases withdraw
    · exact zyklus_add objective
  · split at back
    · exact zyklus_add back
    · cases back

theorem zyklus_logEreignisse {c : Einsatzzyklus} {log : PressureLog} (member : e ∈ logEreignisse sprache namen cycles c nr log) :
    e.zyklus = nr := by
  unfold logEreignisse at member
  split at member
  · split at member
    · exact zyklus_add member
    · cases member
  · cases member

theorem zyklus_kontrolleEreignisse {c : Einsatzzyklus} {k : BreathingKontrolle}
    (member : e ∈ kontrolleEreignisse sprache namen c nr k) : e.zyklus = nr := by
  unfold kontrolleEreignisse at member
  split at member
  · exact zyklus_add member
  · cases member

theorem zyklus_snapshot {c : Einsatzzyklus} {label action : String} {text : Option String}
    (member : e ∈ snapshot namen c nr label action text) : e.zyklus = nr := by
  unfold snapshot at member
  split at member
  · exact zyklus_add member
  · cases member

theorem zyklus_zyklusEreignisse {c : Einsatzzyklus} (member : e ∈ zyklusEreignisse sprache namen troop cycles c nr) : e.zyklus = nr := by
  unfold zyklusEreignisse at member
  simp only [List.mem_append, List.mem_flatMap, or_assoc] at member
  rcases member with entry | withdraw | back | ⟨_, _, crew⟩ | ⟨_, _, log⟩ | ⟨_, _, kontrolle⟩ | funk | notfall | escalated |
    readiness | task | location
  · exact zyklus_add entry
  · exact zyklus_add withdraw
  · exact zyklus_add back
  · exact zyklus_memberEreignisse crew
  · exact zyklus_logEreignisse log
  · exact zyklus_kontrolleEreignisse kontrolle
  · exact zyklus_add funk
  · exact zyklus_add notfall
  · exact zyklus_add escalated
  · exact zyklus_add readiness
  · exact zyklus_snapshot task
  · exact zyklus_snapshot location

theorem zyklus_warnungEreignisse {w : BreathingWarnung} (member : e ∈ warnungEreignisse sprache namen cycles w) :
    e.zyklus = warnungZyklus cycles w := by
  unfold warnungEreignisse at member
  simp only [List.mem_append, or_assoc] at member
  rcases member with triggered | done | escalated | delivered
  · exact zyklus_add triggered
  · exact zyklus_add done
  · exact zyklus_add escalated
  · obtain ⟨z, -, rfl⟩ := List.mem_map.mp delivered
    rfl

theorem strukturiert_zyklus {warnungen : List BreathingWarnung} (member : e ∈ strukturiert sprache namen troop warnungen) :
    e.zyklus ≤ (getTroopCycles troop).length := by
  unfold strukturiert at member
  simp only [List.mem_append, or_assoc] at member
  rcases member with cycle | meldung | warnung
  · obtain ⟨⟨c, nr⟩, place, inside⟩ := List.mem_flatMap.mp cycle
    rw [zyklus_zyklusEreignisse inside]
    exact mem_zipIdx_le place
  · split at meldung
    · exact (zyklus_add meldung).le
    · cases meldung
  · obtain ⟨w, -, inside⟩ := List.mem_flatMap.mp warnung
    rw [zyklus_warnungEreignisse inside]
    exact warnungZyklus_le _ w

theorem rowZyklus_le {redeploys : List Nat} {row : IncidentChange} {bezug' : Bezug} (about : bezug troop cycles row = some bezug')
    (some_ : 0 < cycles.length) (zeit : Zeit) : rowZyklus cycles redeploys row bezug' zeit ≤ cycles.length := by
  unfold rowZyklus
  split
  · unfold bezug at about
    split at about
    · split at about
      · cases about
      · split at about
        · obtain ⟨⟨m, nr⟩, found, same⟩ := Option.map_eq_some_iff.mp about
          cases same
          exact mitglied?_le found
        · cases about
    · cases about
  · split
    · split
      · next id _ complete =>
        have counted := @List.countP_le_length _ (fun boundary => decide (boundary ≤ id)) redeploys
        omega
      · exact cycleFor_le cycles zeit
    · exact cycleFor_le cycles zeit

theorem zusammen_zyklus {audits : List IncidentChange} {warnungen : List BreathingWarnung}
    {zuordnung : List (IncidentChange × Ausgang)} (member : e ∈ zusammen sprache namen troop audits warnungen zuordnung) :
    e.zyklus ≤ (getTroopCycles troop).length := by
  rcases List.mem_append.mp member with structured | own
  · obtain ⟨i, within, rfl⟩ := List.mem_mapIdx.mp structured
    have kept : ∀ e, (ergaenze sprache namen zuordnung i e).zyklus = e.zyklus := by
      intro e
      unfold ergaenze
      split <;> rfl
    rw [kept]
    exact strukturiert_zyklus (List.getElem_mem within)
  · obtain ⟨p, -, found⟩ := List.mem_filterMap.mp own
    unfold eigenes? at found
    split at found
    · next about =>
      cases found
      exact rowZyklus_le about (getTroopCycles_length troop) _
    · cases found

end Zyklen

/-- What the protocol of a troop holds. Every row that counts is matched to one
structured event, reports a delivery that is one, or is an event itself; no event
is matched twice, none is missing and none is there twice. -/
structure Vollstaendig (sprache : Sprache) (namen : Namen) (troop : BreathingTroop) (audits : List IncidentChange)
    (warnungen : List BreathingWarnung) (protokoll : List Eintrag) (zuordnung : List (IncidentChange × Ausgang)) : Prop where
  rows : (zuordnung.map (·.1)).Perm (audits.filter (relevant troop))
  zugeordnet : Zugeordnet sprache namen troop (redeploys troop audits) (strukturiert sprache namen troop warnungen) zuordnung
  eintraege : ∃ geordnet : List Ereignis, geordnet.Perm (zusammen sprache namen troop audits warnungen zuordnung) ∧
    List.Forall₂ Beschriftet (geordnet.map Ereignis.eintrag) protokoll
  sortiert : protokoll.Pairwise fun a b => a.zeit ≤ b.zeit

/-- Every protocol is complete. -/
theorem protokoll_vollstaendig (sprache : Sprache) (namen : Namen) (now : Zeit) (troop : BreathingTroop) (audits : List IncidentChange)
    (warnungen : List BreathingWarnung) :
    ∃ protokoll zuordnung, troopProtokollEreignisse sprache namen now troop audits warnungen = some protokoll ∧
      Vollstaendig sprache namen troop audits warnungen protokoll zuordnung := by
  obtain ⟨zuordnung, rows, zugeordnet, all⟩ := exists_zuordnung sprache namen troop audits warnungen
  have cycles : ∀ e ∈ (ereignisse sprache namen troop audits warnungen).map Ereignis.eintrag,
      e.zyklus - 1 < (getTroopCycles troop).length := by
    intro e member
    obtain ⟨e', inside, rfl⟩ := List.mem_map.mp member
    have within := zusammen_zyklus (all.mem_iff.mp inside)
    have some_ := getTroopCycles_length troop
    change e'.zyklus - 1 < _
    omega
  have nothing : Offen (getTroopCycles troop).length [] [] := ⟨fun _ member => absurd member List.not_mem_nil, List.nodup_nil⟩
  obtain ⟨ended, offen⟩ := beendete_spec _ nothing cycles
  obtain ⟨protokoll, returned, running⟩ := foldlM_laufende now _ offen
  have labelled := Relational.forall₂_trans (R := Beschriftet) Beschriftet.trans ended running
  refine ⟨protokoll, zuordnung, returned, rows, zugeordnet, ⟨_, all, labelled⟩, ?_⟩
  have times : ((ereignisse sprache namen troop audits warnungen).map Ereignis.eintrag).map (·.zeit) = protokoll.map (·.zeit) := by
    rw [← List.forall₂_eq_eq_eq, List.forall₂_map_left_iff, List.forall₂_map_right_iff]
    exact labelled.imp fun _ _ same => same.zeit.symm
  have sorted := ereignisse_geordnet sprache namen troop audits warnungen
  rw [← List.pairwise_map (f := fun e : Eintrag => e.zeit) (R := (· ≤ ·)), ← times, List.map_map, List.pairwise_map]
  exact sorted

def zustellung : BreathingWarnung where
  troopId := 1
  zyklusStart := none
  kind := "notfall"
  ausgeloestAt := 0
  erledigtAt := none
  eskalationStufe := 0
  eskaliertAt := none
  zustellungen := [{
    stufe := 0, kanal := "push", userId := some 7, empfaengerLabel := none, status := "sent", fehler := none
    gesendetAt := some (sekunden 60), createdAt := 0 }]

def zustellungAudit (id : Nat) : IncidentChange where
  id := some id
  ts := sekunden 60
  action := "troop.warnung_zugestellt"
  entityType := "breathing_troop"
  entityId := 1

def schlicht : Sprache where
  g _ := ""
  str _ := ""
  upper text := text
  loads _ := some (some [])
  fromisoformat _ := none

def zustellungTrupp : BreathingTroop where
  id := 1
  incidentId := 1
  name := "Trupp"

def niemand : Namen := ⟨fun _ => none, fun _ => none⟩

/-- They are no entries and there is no event they could be matched to. -/
theorem protokoll_gedeckt : ¬ ∀ sprache namen now troop audits warnungen, ∃ protokoll zuordnung,
    troopProtokollEreignisse sprache namen now troop audits warnungen = some protokoll ∧
      Vollstaendig sprache namen troop audits warnungen protokoll zuordnung ∧ ∀ p ∈ zuordnung, p.2 ≠ .gedeckt := by
  intro always
  obtain ⟨protokoll, zuordnung, returned, vollstaendig, notCovered⟩ :=
    always schlicht niemand 0 zustellungTrupp [zustellungAudit 1, zustellungAudit 2] [zustellung]
  have short : (troopProtokollEreignisse schlicht niemand 0 zustellungTrupp [zustellungAudit 1, zustellungAudit 2]
      [zustellung]).map List.length = some 2 := by decide +kernel
  have relevantRows : ([zustellungAudit 1, zustellungAudit 2].filter (relevant zustellungTrupp)).length = 2 := by decide +kernel
  have structured : (strukturiert schlicht niemand zustellungTrupp [zustellung]).length = 2 := by decide +kernel
  have actions : ∀ e ∈ strukturiert schlicht niemand zustellungTrupp [zustellung], e.action = none := by decide +kernel
  -- so each row has to be an entry of its own
  have own : ∀ p ∈ zuordnung, (eigenes? schlicht niemand zustellungTrupp
      (redeploys zustellungTrupp [zustellungAudit 1, zustellungAudit 2]) p).isSome = true := by
    rintro ⟨row, ausgang⟩ member
    have inside := vollstaendig.rows.mem_iff.mp (List.mem_map_of_mem (f := (·.1)) member)
    cases ausgang with
    | treffer i =>
      obtain ⟨e, place, bezug', -, keys, -⟩ := vollstaendig.zugeordnet.treffer row i member
      rw [kandidat, actions e (List.mem_of_getElem? place)] at keys
      cases keys
    | gedeckt => exact absurd rfl (notCovered _ member)
    | eigen =>
      obtain ⟨bezug', about⟩ := Option.isSome_iff_exists.mp (List.mem_filter.mp inside).2
      rw [eigenes?, about]
      rfl
  have two := vollstaendig.rows.length_eq
  rw [List.length_map, relevantRows] at two
  obtain ⟨geordnet, all, labelled⟩ := vollstaendig.eintraege
  have long := labelled.length_eq.symm.trans ((List.length_map ..).trans all.length_eq)
  rw [zusammen, List.length_append, List.length_mapIdx, structured, List.length_filterMap_eq_countP,
    List.countP_eq_length.mpr own, two] at long
  rw [returned, Option.map_some, long] at short
  cases short

end Einsatzcockpit.Protokoll
