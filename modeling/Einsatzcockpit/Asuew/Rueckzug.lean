import Einsatzcockpit.Lib.Run
import Einsatzcockpit.Asuew.Alarme
import Einsatzcockpit.Asuew.Zustand

namespace Einsatzcockpit.Asuew

open Transition Breathing

/-- The filter of `pruneLocalEvents`: the event is kept. -/
def behalten (state : Zustand) (nowServerMs : Int) (e : Ereignis) : Bool :=
  match state.troops.find? (·.id == e.troopId) with
  | none => false
  | some t =>
    if e.atServerMs ≤ doppelt (nowServerMs - 12 * 60 * 60000) || t.entryAtMs.any (e.atServerMs < ·) then false
    else if e.kind = "kontrolle" then !e.stufe.any t.kontrolliert
    else if e.kind = "druck" then t.lastPressureAtMs.all (· < e.atServerMs)
    else if e.kind = "ack" ∧ e.ackKind = some "max_time" then !t.maxTimeAcked
    else if e.kind = "ack" ∧ e.ackKind = some "withdraw" then t.serverWarnings.contains "withdraw"
    else true

def pruneLocalEvents (state : Zustand) (events : List Ereignis) (nowServerMs : Int) : List Ereignis :=
  events.filter (behalten state nowServerMs)

def Ereignis.quittiertRueckzug (e : Ereignis) : Bool :=
  e.kind == "ack" && e.ackKind == some "withdraw"

/-- The server's last state, when each troop's withdraw warning in it was
raised, and the events that it does not show yet. -/
structure Geraet where
  state : Zustand
  erhoben : Int → Int
  events : List Ereignis

inductive Schritt where
  | ereignis (e : Ereignis)
  | empfangen (state : Zustand) (erhoben : Int → Int) (nowServerMs : Int)

def schritt (g : Geraet) : Schritt → Geraet
  | .ereignis e => { g with events := g.events ++ [e] }
  | .empfangen state erhoben nowServerMs => { state, erhoben, events := pruneLocalEvents state g.events nowServerMs }

/-- The troop with the event's id is in the state, with the deployment the
event is of, the withdraw warning, and less than twelve hours after the event. -/
def Schritt.belaesst (e : Ereignis) : Schritt → Bool
  | .ereignis _ => true
  | .empfangen state _ nowServerMs => behalten state nowServerMs e

/-- The events that have been made, with what has happened since. -/
inductive Gemacht (events : List Ereignis) (schritte : List Schritt) (e : Ereignis) : List Schritt → Prop
  | vorher (member : e ∈ events) : Gemacht events schritte e schritte
  | jetzt (vor nach : List Schritt) (same : schritte = vor ++ .ereignis e :: nach) : Gemacht events schritte e nach

section Lauf

variable {g : Geraet} {e : Ereignis}


theorem mem_run_events {schritte : List Schritt} :
    e ∈ (run schritt g schritte).events ↔ ∃ nach, Gemacht g.events schritte e nach ∧ ∀ s ∈ nach, s.belaesst e = true := by
  induction schritte generalizing g with
  | nil =>
    refine ⟨fun member => ⟨[], .vorher member, by simp⟩, fun ⟨nach, gemacht, _⟩ => ?_⟩
    cases gemacht with
    | vorher member => exact member
    | jetzt vor nach same => simp at same
  | cons s rest ih =>
    rw [run_cons, ih]
    constructor
    · rintro ⟨nach, gemacht, left_⟩
      cases gemacht with
      | jetzt vor nach same => exact ⟨nach, .jetzt (s :: vor) nach (congrArg (s :: ·) same), left_⟩
      | vorher member =>
        cases s with
        | ereignis e' =>
          rcases List.mem_append.mp member with old | new
          · refine ⟨_, .vorher old, fun s inside => ?_⟩
            rcases List.mem_cons.mp inside with rfl | later
            · rfl
            · exact left_ s later
          · rw [List.mem_singleton.mp new]
            rw [List.mem_singleton.mp new] at left_
            exact ⟨rest, .jetzt [] rest rfl, left_⟩
        | empfangen state erhoben nowServerMs =>
          obtain ⟨old, kept⟩ := List.mem_filter.mp member
          refine ⟨_, .vorher old, fun s inside => ?_⟩
          rcases List.mem_cons.mp inside with rfl | later
          · exact kept
          · exact left_ s later
    · rintro ⟨nach, gemacht, left_⟩
      cases gemacht with
      | vorher member =>
        refine ⟨rest, .vorher ?_, fun s' inside => left_ s' (List.mem_cons_of_mem _ inside)⟩
        have first := left_ s (List.mem_cons_self ..)
        cases s with
        | ereignis e' => exact List.mem_append_left _ member
        | empfangen state erhoben nowServerMs => exact List.mem_filter.mpr ⟨member, first⟩
      | jetzt vor nach same =>
        cases vor with
        | nil =>
          cases same
          exact ⟨rest, .vorher (List.mem_append_right _ (List.mem_singleton.mpr rfl)), left_⟩
        | cons first vor =>
          cases same
          exact ⟨nach, .jetzt vor nach rfl, left_⟩

end Lauf

section Ueberlagert

variable {t : Trupp} {state : Zustand} {events : List Ereignis} {now : Int}

theorem wendeAn_rueckzug (t : Trupp) (e : Ereignis) :
    "withdraw" ∈ (wendeAn t e).serverWarnings ↔
      "withdraw" ∈ t.serverWarnings ∧ ¬ (e.quittiertRueckzug = true ∧ e.eigen t = true) := by
  unfold wendeAn Ereignis.quittiertRueckzug
  split
  · next fremd =>
    rw [Bool.not_eq_true'] at fremd
    simp [fremd]
  · next own =>
    rw [Bool.not_eq_true', Bool.not_eq_false] at own
    split
    · next isKind =>
      rw [isKind]
      have keeps (stufe : String) : "withdraw" ∈ (kontrolliere t stufe e.atServerMs).serverWarnings ↔ "withdraw" ∈ t.serverWarnings := by
        have other : (warnungZu stufe != some "withdraw") = true := by
          unfold warnungZu
          split
          · rfl
          · split <;> rfl
        simp [kontrolliere, List.mem_filter, other]
      split
      · split
        · simp [keeps]
        · simp
      · simp
    · next isKind =>
      rw [isKind]
      have stays (last : Int) : bleibt t last "withdraw" = true := by
        unfold bleibt sekundenZu
        cases t.entryAtMs <;> rfl
      simp [meldeDruck, List.mem_filter, stays]
    · next isKind =>
      rw [isKind]
      split
      · next ackKind given =>
        rw [given]
        unfold quittiere
        split
        · next maxTime =>
          subst maxTime
          simp [List.mem_filter]
        · split
          · next withdraw =>
            subst withdraw
            simp [own, List.mem_filter]
          · next other =>
            simp [other]
      · next none =>
        simp [none]
    · next noAck =>
      have other : e.kind ≠ "ack" := noAck
      simp [other]

theorem foldl_rueckzug (t : Trupp) (events : List Ereignis) :
    "withdraw" ∈ (events.foldl wendeAn t).serverWarnings ↔
      "withdraw" ∈ t.serverWarnings ∧ ∀ e ∈ events, e.quittiertRueckzug = true → e.eigen t = false := by
  induction events generalizing t with
  | nil => simp
  | cons e rest ih =>
    rw [List.foldl_cons, ih, wendeAn_rueckzug]
    simp only [eigen_of_fest (wendeAn_fest t e), List.forall_mem_cons, not_and, Bool.not_eq_true, and_assoc]

theorem exists_activeAlarm {key : Int × String × Int} :
    (∃ a ∈ activeAlarms state now, a.key = key) ↔ ∃ t ∈ state.troops, ∃ a ∈ truppAlarme now t, a.key = key := by
  constructor
  · rintro ⟨a, member, same⟩
    obtain ⟨t, inside, raised⟩ := alarm_truppe member
    exact ⟨t, inside, a, raised, same⟩
  · rintro ⟨t, inside, a, raised, rfl⟩
    have found : ((state.troops.flatMap (truppAlarme now)).find? (·.key == a.key)).isSome = true :=
      List.find?_isSome.mpr ⟨a, List.mem_flatMap.mpr ⟨t, inside, raised⟩, beq_self_eq_true _⟩
    obtain ⟨b, first⟩ := Option.isSome_iff_exists.mp found
    have same : b.key = a.key := by simpa using List.find?_some first
    rw [← same] at first
    exact ⟨b, mem_activeAlarms.mpr first, same⟩

theorem rueckzug_alarm (inside : t ∈ state.troops) (active : isActive t = true) (warned : "withdraw" ∈ t.serverWarnings) :
    (∃ a ∈ activeAlarms (applyLocalEvents state events) now, a.key = (t.id, "withdraw", t.entryAtMs.getD 0)) ↔
      ∀ e ∈ events, e.quittiertRueckzug = true → e.eigen t = false := by
  rw [exists_activeAlarm, applyLocalEvents_troops]
  have fest (u : Trupp) : (events.foldl wendeAn u).fest = u.fest := (ueberlagert_gedaempft u events).fest
  have isEntry {u : Trupp} (active : isActive u = true) : u.entryAtMs = some (u.entryAtMs.getD 0) := by
    simp only [isActive, Bool.and_eq_true] at active
    obtain ⟨entry, entered⟩ := Option.isSome_iff_exists.mp active.1
    rw [entered, Option.getD_some]
  constructor
  · rintro ⟨t', overlaid, a, raised, key⟩
    obtain ⟨u, member, rfl⟩ := List.mem_map.mp overlaid
    rw [truppAlarme_of_fest (fest u)] at raised
    obtain ⟨kind, isKind, rfl⟩ := List.mem_map.mp raised
    obtain ⟨sameId, rfl, sameEntry⟩ : u.id = t.id ∧ kind = "withdraw" ∧ u.entryAtMs.getD 0 = t.entryAtMs.getD 0 := by
      simpa using key
    rcases List.mem_append.mp isKind with server | deadline
    · rw [serverKinds_of_fest (fest u)] at server
      obtain ⟨kept, shown⟩ := List.mem_filter.mp server
      have activeU : isActive u = true := by simpa [severity] using shown
      have eigen (e : Ereignis) : e.eigen t = e.eigen u := by
        rw [Ereignis.eigen, Ereignis.eigen, sameId, isEntry active, isEntry activeU, sameEntry]
      intro e pending acks
      rw [eigen]
      exact ((foldl_rueckzug u events).mp kept).2 e pending acks
    · have known := timeWarnings_kind deadline
      simp at known
  · intro free
    have kept := (foldl_rueckzug t events).mpr ⟨warned, free⟩
    refine ⟨_, List.mem_map_of_mem inside, ⟨t.id, t.name, "withdraw", (t.id, "withdraw", t.entryAtMs.getD 0)⟩, ?_, rfl⟩
    rw [truppAlarme_of_fest (fest t)]
    refine List.mem_map.mpr ⟨"withdraw", List.mem_append_left _ ?_, rfl⟩
    rw [serverKinds_of_fest (fest t)]
    refine List.mem_filter.mpr ⟨kept, ?_⟩
    rw [active]
    rfl

end Ueberlagert

/-- The device receives a state that no longer shows the troop of the event or
its withdraw warning, or shows a later deployment, or comes twelve hours after
the event. -/
def Schritt.Ueberholt (e : Ereignis) : Schritt → Prop
  | .ereignis _ => False
  | .empfangen state _ nowServerMs =>
    ∀ t, state.troops.find? (·.id == e.troopId) = some t → "withdraw" ∈ t.serverWarnings →
      e.atServerMs ≤ doppelt (nowServerMs - 12 * 60 * 60000) ∨ t.entryAtMs.any (e.atServerMs < ·) = true

theorem belaesst_rueckzug {e : Ereignis} (acks : e.quittiertRueckzug = true) (s : Schritt) :
    s.belaesst e = false ↔ s.Ueberholt e := by
  simp only [Ereignis.quittiertRueckzug, Bool.and_eq_true, beq_iff_eq] at acks
  cases s with
  | ereignis e' => simp [Schritt.belaesst, Schritt.Ueberholt]
  | empfangen state erhoben nowServerMs =>
    simp only [Schritt.belaesst, Schritt.Ueberholt, behalten, acks.1, acks.2]
    generalize doppelt (nowServerMs - 12 * 60 * 60000) = grenze
    cases state.troops.find? (·.id == e.troopId) with
    | none => simp
    | some t =>
      by_cases old : e.atServerMs ≤ grenze
      · simp [old]
      · cases later : t.entryAtMs.any (e.atServerMs < ·) <;> simp [old, later]

/-- Every withdraw warning that was raised after the acknowledgements of its
troop's deployment is among the active alarms. -/
def Gezeigt (gemacht : Ereignis → Prop) (g : Geraet) : Prop :=
  ∀ t ∈ g.state.troops, isActive t = true → "withdraw" ∈ t.serverWarnings →
    (∀ e, gemacht e → e.quittiertRueckzug = true → e.eigen t = true → e.atServerMs < g.erhoben t.id) →
    ∀ now, ∃ a ∈ activeAlarms (applyLocalEvents g.state g.events) now, a.key = (t.id, "withdraw", t.entryAtMs.getD 0)

/-- An acknowledgement hides no withdraw warning that was raised after it,
exactly where a state without the warning has been received in between. -/
theorem rueckzug_gezeigt (g : Geraet) (schritte : List Schritt) :
    let ende := run schritt g schritte
    Gezeigt (fun e => ∃ nach, Gemacht g.events schritte e nach) ende ↔
      ∀ t ∈ ende.state.troops, isActive t = true → "withdraw" ∈ t.serverWarnings →
        (∀ e nach, Gemacht g.events schritte e nach → e.quittiertRueckzug = true → e.eigen t = true →
          e.atServerMs < ende.erhoben t.id) →
        ∀ e nach, Gemacht g.events schritte e nach → e.quittiertRueckzug = true → e.eigen t = true →
          ∃ s ∈ nach, s.Ueberholt e := by
  intro ende
  have pending : ∀ e, e ∈ ende.events ↔ ∃ nach, Gemacht g.events schritte e nach ∧ ∀ s ∈ nach, s.belaesst e = true :=
    fun _ => mem_run_events
  constructor
  · intro shown t inside active warned newer e nach gemacht acks own
    obtain alarm := shown t inside active warned (fun e ⟨nach, gemacht⟩ => newer e nach gemacht) 0
    by_contra never
    have waits : e ∈ ende.events := by
      refine (pending e).mpr ⟨nach, gemacht, fun s member => ?_⟩
      by_contra left_
      exact never ⟨s, member, (belaesst_rueckzug acks s).mp (Bool.eq_false_of_not_eq_true left_)⟩
    have fremd := (rueckzug_alarm inside active warned).mp alarm e waits acks
    rw [own] at fremd
    cases fremd
  · intro law t inside active warned newer now
    refine (rueckzug_alarm inside active warned).mpr fun e waits acks => ?_
    by_contra own
    obtain ⟨nach, gemacht, left_⟩ := (pending e).mp waits
    have isOwn : e.eigen t = true := Bool.eq_true_of_not_eq_false own
    obtain ⟨s, member, ueberholt⟩ := law t inside active warned
      (fun e nach gemacht => newer e ⟨nach, gemacht⟩) e nach gemacht acks isOwn
    have dropped := (belaesst_rueckzug acks s).mpr ueberholt
    rw [left_ s member] at dropped
    cases dropped

def rueckzugstrupp (currentPress : ℚ) (ackedAt : Option Zeit) (ackedPress : Option ℚ) : BreathingTroop :=
  { angriffstrupp with
    members := [{ id := 1, startPress := some 300, withdrawPress := some 60, currentPress := some currentPress }]
    warnWithdrawAckedAt := ackedAt
    warnWithdrawAckedPress := ackedPress }

def antwort (troop : BreathingTroop) : Zustand := { troops := [parseTroop (zustand exakt 0 troop)] }

/-- The device acknowledges the warning of 55 bar, the server takes it over, the
pressure falls to 40 bar, and the next state that the device receives has the
warning again: it stays hidden. -/
theorem rueckzug_verdeckt :
    ¬ ∀ (g : Geraet) (schritte : List Schritt),
      Gezeigt (fun e => ∃ nach, Gemacht g.events schritte e nach) (run schritt g schritte) := by
  intro law
  let ack : Ereignis := { troopId := 1, kind := "ack", ackKind := some "withdraw", atServerMs := 700000 }
  let wieder := antwort (rueckzugstrupp 40 (some 700000000) (some 55))
  let schritte : List Schritt := [.ereignis ack, .empfangen wieder (fun _ => 720000) 725000]
  let g : Geraet := { state := antwort (rueckzugstrupp 55 none none), erhoben := fun _ => 690000, events := [] }
  have warned : (∀ t ∈ wieder.troops, isActive t = true ∧ "withdraw" ∈ t.serverWarnings ∧ ack.eigen t = true) ∧
      wieder.troops ≠ [] ∧ ack.quittiertRueckzug = true ∧ (run schritt g schritte).events = [ack] := by
    decide +kernel
  obtain ⟨facts, nonempty, acks, waiting⟩ := warned
  obtain ⟨t, inside⟩ := List.exists_mem_of_ne_nil _ nonempty
  obtain ⟨active, shown, own⟩ := facts t inside
  have only : ∀ e nach, Gemacht g.events schritte e nach → e = ack := by
    intro e nach gemacht
    cases gemacht with
    | vorher member => cases member
    | jetzt vor nach same =>
      have member : Schritt.ereignis e ∈ schritte := by
        rw [same]
        exact List.mem_append_right _ (List.mem_cons_self ..)
      simp only [schritte, List.mem_cons, List.not_mem_nil, or_false, Schritt.ereignis.injEq, reduceCtorEq] at member
      exact member
  have alarm := law g schritte t inside active shown
    (fun e ⟨nach, gemacht⟩ _ _ => by rw [only e nach gemacht]; exact (by decide : (700000 : Int) < 720000)) 0
  have free := (rueckzug_alarm inside active shown).mp alarm ack (by rw [waiting]; exact List.mem_singleton.mpr rfl) acks
  rw [own] at free
  cases free

end Einsatzcockpit.Asuew
