import Einsatzcockpit.Protokoll.Abgleich

namespace Einsatzcockpit.Protokoll

open Breathing

/-- What became of a row: it was matched to the structured event at a place, it is
about a delivery that is an event, or it is an event itself. -/
inductive Ausgang where
  | treffer (i : Nat)
  | gedeckt
  | eigen
  deriving DecidableEq

def Ausgang.platz? : Ausgang → Option Nat
  | treffer i => some i
  | _ => none

section Zuordnung

variable (sprache : Sprache) (namen : Namen) (troop : BreathingTroop) (redeploys : List Nat)

def relevant (row : IncidentChange) : Bool := (bezug troop (getTroopCycles troop) row).isSome

def ergaenze (zuordnung : List (IncidentChange × Ausgang)) (i : Nat) (e : Ereignis) : Ereignis :=
  match zuordnung.find? fun p => p.2 == .treffer i with
  | some (row, _) => ergaenzt namen row (lies sprache row).1 (lies sprache row).2 e
  | none => e

def eigenes? (p : IncidentChange × Ausgang) : Option Ereignis :=
  match p.2, bezug troop (getTroopCycles troop) p.1 with
  | .eigen, some bezug =>
    let (after, zeit) := lies sprache p.1
    some (eigener sprache namen p.1 bezug after zeit (rowZyklus (getTroopCycles troop) redeploys p.1 bezug zeit))
  | _, _ => none

/-- A row and the event it is matched to agree in action, cycle and member, and
in their times; an end pressure is in the text of its event. -/
def Passt (row : IncidentChange) (e : Ereignis) : Prop :=
  ∃ bezug', bezug troop (getTroopCycles troop) row = some bezug' ∧
    kandidat row (rowZyklus (getTroopCycles troop) redeploys row bezug' (lies sprache row).2) e = true ∧
    if row.action = "troop.back_pressure_reported" then
      ∃ bar, ((lies sprache row).1.lookup "pressure_bar").bind Wert.zahl? = some bar ∧ s!"{sprache.g bar} bar".toList <:+: e.text.toList
    else abstand (lies sprache row).2 e < sekunden 2

def Abgedeckt (events : List Ereignis) (row : IncidentChange) : Prop :=
  row.action = "troop.warnung_zugestellt" ∧ ∃ w z, w.troopId = troop.id ∧ z ∈ w.zustellungen ∧
    zugestellt (lies sprache row).1 (lies sprache row).2 z = true ∧
    zustellungEreignis sprache namen w (warnungZyklus (getTroopCycles troop) w) z ∈ events

/-- No event is matched twice, and every row has a reason for what became of it. -/
structure Zugeordnet (events : List Ereignis) (zuordnung : List (IncidentChange × Ausgang)) : Prop where
  einmal : (zuordnung.filterMap (·.2.platz?)).Nodup
  treffer : ∀ row i, (row, .treffer i) ∈ zuordnung → ∃ e, events[i]? = some e ∧ Passt sprache troop redeploys row e
  gedeckt : ∀ row, (row, .gedeckt) ∈ zuordnung → Abgedeckt sprache namen troop events row

structure Stand (events : List Ereignis) (zuordnung : List (IncidentChange × Ausgang)) (lauf : Lauf) : Prop where
  zugeordnet : Zugeordnet sprache namen troop redeploys events zuordnung
  events : lauf.events = events.mapIdx (ergaenze sprache namen zuordnung) ++
    zuordnung.filterMap (eigenes? sprache namen troop redeploys)
  matched : ∀ i, i ∈ lauf.matched ↔ i ∈ zuordnung.filterMap (·.2.platz?)

end Zuordnung

variable {sprache : Sprache} {namen : Namen} {troop : BreathingTroop} {redeploys : List Nat}

theorem eigenes?_action {p : IncidentChange × Ausgang} {e : Ereignis} (own : eigenes? sprache namen troop redeploys p = some e) :
    e.action = none := by
  unfold eigenes? at own
  split at own
  · cases own
    rfl
  · cases own

theorem treffer_spec {events : List Ereignis} {matched : List Nat} {row : IncidentChange} {after : Objekt} {zeit : Zeit} {nr i : Nat}
    (found : treffer sprache events matched row after zeit nr = some i) :
    ∃ e, events[i]? = some e ∧ i ∉ matched ∧ kandidat row nr e = true ∧
      if row.action = "troop.back_pressure_reported" then
        ∃ bar, (after.lookup "pressure_bar").bind Wert.zahl? = some bar ∧ s!"{sprache.g bar} bar".toList <:+: e.text.toList
      else abstand zeit e < sekunden 2 := by
  unfold treffer at found
  obtain ⟨⟨e, j⟩, chosen, rfl⟩ := Option.map_eq_some_iff.mp found
  suffices (e, j) ∈ events.zipIdx.filter (fun at_ => at_.2 ∉ matched && kandidat row nr at_.1) ∧
      if row.action = "troop.back_pressure_reported" then
        ∃ bar, (after.lookup "pressure_bar").bind Wert.zahl? = some bar ∧ s!"{sprache.g bar} bar".toList <:+: e.text.toList
      else abstand zeit e < sekunden 2 by
    obtain ⟨inside, near⟩ := this
    obtain ⟨place, keys⟩ := List.mem_filter.mp inside
    rw [Bool.and_eq_true, decide_eq_true_iff] at keys
    exact ⟨e, List.mem_zipIdx_iff_getElem?.mp place, keys.1, keys.2, near⟩
  split at chosen
  · next back =>
    obtain ⟨bar, isNumber, chosen⟩ := Option.bind_eq_some_iff.mp chosen
    have named := List.find?_some chosen
    rw [if_pos back]
    exact ⟨(List.mem_insertionSort _).mp (List.mem_of_find?_eq_some chosen), bar, isNumber, decide_eq_true_iff.mp named⟩
  · next other =>
    have near := List.find?_some chosen
    rw [if_neg other]
    exact ⟨(List.mem_insertionSort _).mp (List.mem_of_find?_eq_some chosen), decide_eq_true_iff.mp near⟩

theorem abgedeckt_of_gedeckt {warnungen : List BreathingWarnung} {row : IncidentChange}
    (covered : gedeckt troop warnungen row (lies sprache row).1 (lies sprache row).2 = true) :
    Abgedeckt sprache namen troop (strukturiert sprache namen troop warnungen) row := by
  unfold gedeckt at covered
  obtain ⟨isDelivery, reported⟩ := Bool.and_eq_true_iff.mp covered
  obtain ⟨w, known, kind⟩ := List.any_eq_true.mp reported
  obtain ⟨ofTroop, sent⟩ := Bool.and_eq_true_iff.mp kind
  obtain ⟨z, inside, matches_⟩ := List.any_eq_true.mp sent
  have ofTroop := (Bool.and_eq_true_iff.mp ofTroop).1
  refine ⟨beq_iff_eq.mp isDelivery, w, z, beq_iff_eq.mp ofTroop, inside, matches_, ?_⟩
  refine List.mem_append_right _ (List.mem_flatMap.mpr ⟨w, List.mem_filter.mpr ⟨known, ofTroop⟩, ?_⟩)
  exact List.mem_append_right _ (List.mem_map_of_mem inside)

theorem modify_mapIdx {α β : Type*} {list : List α} {rest : List β} {f f' : Nat → α → β} {i : Nat} {g : β → β}
    (within : i < list.length) (there : ∀ a, f' i a = g (f i a)) (elsewhere : ∀ j a, j ≠ i → f' j a = f j a) :
    (list.mapIdx f ++ rest).modify i g = list.mapIdx f' ++ rest := by
  refine List.ext_getElem? fun j => ?_
  rw [List.getElem?_modify, List.getElem?_append, List.getElem?_append, List.length_mapIdx, List.length_mapIdx,
    List.getElem?_mapIdx, List.getElem?_mapIdx]
  by_cases same : i = j
  · subst same
    simp [within, there]
  · have unchanged : f' j = f j := funext fun a => elsewhere j a (Ne.symm same)
    simp [same, unchanged]

section Schritt

variable {events : List Ereignis} {zuordnung : List (IncidentChange × Ausgang)} {lauf : Lauf} {row : IncidentChange}

theorem ergaenze_append (p : IncidentChange × Ausgang) (i : Nat) (other : p.2 ≠ .treffer i) (e : Ereignis) :
    ergaenze sprache namen (zuordnung ++ [p]) i e = ergaenze sprache namen zuordnung i e := by
  unfold ergaenze
  rw [List.find?_append, List.find?_singleton, if_neg (by simpa using other), Option.or_none]

theorem ergaenze_frei {i : Nat} (free : i ∉ zuordnung.filterMap (·.2.platz?)) :
    zuordnung.find? (fun p => p.2 == .treffer i) = none := by
  refine List.find?_eq_none.mpr fun p member taken => free ?_
  exact List.mem_filterMap.mpr ⟨p, member, by rw [beq_iff_eq.mp taken]; rfl⟩

section

variable (stand : Stand sprache namen troop redeploys events zuordnung lauf)
include stand

theorem Stand.treffer {bezug' : Bezug} {i : Nat}
    (about : bezug troop (getTroopCycles troop) row = some bezug')
    (found : treffer sprache lauf.events lauf.matched row (lies sprache row).1 (lies sprache row).2
      (rowZyklus (getTroopCycles troop) redeploys row bezug' (lies sprache row).2) = some i) :
    Stand sprache namen troop redeploys events (zuordnung ++ [(row, .treffer i)])
      { events := lauf.events.modify i (ergaenzt namen row (lies sprache row).1 (lies sprache row).2)
        matched := i :: lauf.matched } := by
  obtain ⟨e, place, notTaken, keys, near⟩ := treffer_spec found
  have free : i ∉ zuordnung.filterMap (·.2.platz?) := fun taken => notTaken ((stand.matched i).mpr taken)
  have untouched := ergaenze_frei free
  -- the events that are a row's own have no action
  have structured : events[i]? = some e := by
    rw [stand.events] at place
    rcases Nat.lt_or_ge i (events.mapIdx (ergaenze sprache namen zuordnung)).length with below | above
    · rw [List.getElem?_append_left below, List.getElem?_mapIdx] at place
      obtain ⟨e', there, rfl⟩ := Option.map_eq_some_iff.mp place
      rw [there, ergaenze, untouched]
    · rw [List.getElem?_append_right above] at place
      obtain ⟨p, -, own⟩ := List.mem_filterMap.mp (List.mem_of_getElem? place)
      rw [kandidat, eigenes?_action own] at keys
      cases keys
  have within := (List.getElem?_eq_some_iff.mp structured).1
  refine ⟨⟨?_, fun row' j member => ?_, fun row' member => ?_⟩, ?_, fun j => ?_⟩
  · rw [List.filterMap_append]
    exact List.nodup_append.mpr ⟨stand.zugeordnet.einmal, List.nodup_singleton i, fun a taken b new same =>
      free (List.mem_singleton.mp new ▸ same ▸ taken)⟩
  · rcases List.mem_append.mp member with old | new
    · exact stand.zugeordnet.treffer row' j old
    · cases List.mem_singleton.mp new
      exact ⟨e, structured, bezug', about, keys, near⟩
  · rcases List.mem_append.mp member with old | new
    · exact stand.zugeordnet.gedeckt row' old
    · cases List.mem_singleton.mp new
  · have last : [(row, Ausgang.treffer i)].filterMap (eigenes? sprache namen troop redeploys) = [] := rfl
    rw [stand.events, List.filterMap_append, last, List.append_nil]
    refine modify_mapIdx within (fun a => ?_) fun j a other => ?_
    · unfold ergaenze
      rw [List.find?_append, untouched, Option.none_or, List.find?_singleton, if_pos (beq_self_eq_true _)]
    · exact ergaenze_append _ j (fun same => other (Ausgang.treffer.inj same).symm) a
  · rw [List.filterMap_append, List.mem_append, ← stand.matched j, List.mem_cons]
    exact or_comm.trans (or_congr_right List.mem_singleton.symm)

theorem Stand.ohne {ausgang : Ausgang}
    (unmatched : ausgang.platz? = none) (covered : ausgang = .gedeckt → Abgedeckt sprache namen troop events row) :
    Stand sprache namen troop redeploys events (zuordnung ++ [(row, ausgang)])
      { lauf with events := lauf.events ++ (eigenes? sprache namen troop redeploys (row, ausgang)).toList } := by
  have noPlace : (zuordnung ++ [(row, ausgang)]).filterMap (·.2.platz?) = zuordnung.filterMap (·.2.platz?) := by
    have last : [(row, ausgang)].filterMap (·.2.platz?) = [] := List.filterMap_cons_none unmatched
    rw [List.filterMap_append, last, List.append_nil]
  refine ⟨⟨?_, fun row' j member => ?_, fun row' member => ?_⟩, ?_, fun j => ?_⟩
  · rw [noPlace]
    exact stand.zugeordnet.einmal
  · rcases List.mem_append.mp member with old | new
    · exact stand.zugeordnet.treffer row' j old
    · cases List.mem_singleton.mp new
      cases unmatched
  · rcases List.mem_append.mp member with old | new
    · exact stand.zugeordnet.gedeckt row' old
    · cases List.mem_singleton.mp new
      exact covered rfl
  · have same : events.mapIdx (ergaenze sprache namen (zuordnung ++ [(row, ausgang)])) =
        events.mapIdx (ergaenze sprache namen zuordnung) := by
      congr 1
      funext j e
      refine ergaenze_append _ j (fun taken => ?_) e
      cases taken
      cases unmatched
    have last : [(row, ausgang)].filterMap (eigenes? sprache namen troop redeploys) =
        (eigenes? sprache namen troop redeploys (row, ausgang)).toList := by
      cases own : eigenes? sprache namen troop redeploys (row, ausgang) with
      | none => rw [List.filterMap_cons_none own]; rfl
      | some e => rw [List.filterMap_cons_some own]; rfl
    rw [stand.events, same, List.filterMap_append, last, List.append_assoc]
  · rw [noPlace]
    exact stand.matched j

end

end Schritt

end Einsatzcockpit.Protokoll
