import Einsatzcockpit.Lib.Table
import Einsatzcockpit.Asuew.Rueckzug

namespace Einsatzcockpit.Asuew

/-- The server's warnings of a troop are none that its own checks, pressure
time and acknowledgement have settled. -/
structure Stimmig (t : Trupp) : Prop where
  kontrolliert : ∀ stufe w, warnungZu stufe = some w → t.kontrolliert stufe = true → w ∉ t.serverWarnings
  gemeldet : ∀ last, t.lastPressureAtMs = some last → ∀ w ∈ t.serverWarnings,
    w = "one_third_due" ∨ w = "two_third_due" → bleibt t last w = true
  quittiert : t.maxTimeAcked = true → "max_exceeded" ∉ t.serverWarnings

def Ereignis.jung (e : Ereignis) (nowServerMs : Int) : Prop :=
  doppelt (nowServerMs - 12 * 60 * 60000) < e.atServerMs

def Trupp.sichtbar (t : Trupp) : Trupp := { t with serverWarnings := t.serverWarnings.filter severity.contains }

theorem Stimmig.sichtbar {t : Trupp} (stimmig : Stimmig t) : Stimmig t.sichtbar where
  kontrolliert := fun stufe w due made member =>
    stimmig.kontrolliert stufe w due made (List.mem_filter.mp member).1
  gemeldet := fun last reported w member => stimmig.gemeldet last reported w (List.mem_filter.mp member).1
  quittiert := fun acked member => stimmig.quittiert acked (List.mem_filter.mp member).1

theorem truppAlarme_sichtbar (t : Trupp) (now : Int) : truppAlarme now t.sichtbar = truppAlarme now t := by
  have fest : t.sichtbar.fest = t.fest := rfl
  have kinds : serverKinds t.sichtbar = serverKinds t := by
    rw [serverKinds_of_fest fest, serverKinds]
    refine List.filter_filter.trans (List.filter_congr fun kind _ => ?_)
    rw [Bool.and_comm, ← Bool.and_assoc, Bool.and_self]
  rw [truppAlarme_of_fest fest, kinds]
  rfl

theorem Wirkung.sichtbar {f : Trupp → Trupp} (wirkung : Wirkung f) (t : Trupp) : f t.sichtbar = (f t).sichtbar := by
  cases wirkung with
  | nichts => rfl
  | kontrolle stufe atServerMs =>
    have warnings : (kontrolliere t.sichtbar stufe atServerMs).serverWarnings =
        (kontrolliere t stufe atServerMs).sichtbar.serverWarnings := List.filter_comm ..
    exact congrArg (fun w => { kontrolliere t stufe atServerMs with serverWarnings := w }) warnings
  | druck atServerMs =>
    have warnings : (meldeDruck t.sichtbar atServerMs).serverWarnings =
        (meldeDruck t atServerMs).sichtbar.serverWarnings := List.filter_comm ..
    exact congrArg (fun w => { meldeDruck t atServerMs with serverWarnings := w }) warnings
  | maxTime =>
    exact congrArg (fun w => { t with maxTimeAcked := true, serverWarnings := w }) (List.filter_comm ..)
  | withdraw => exact congrArg (fun w => { t with serverWarnings := w }) (List.filter_comm ..)

theorem wendeAn_sichtbar (t : Trupp) (e : Ereignis) : wendeAn t.sichtbar e = (wendeAn t e).sichtbar := by
  obtain ⟨f, wirkung, spec⟩ := wendeAn_wirkung e
  have own : e.eigen t.sichtbar = e.eigen t := rfl
  rw [spec, spec, own]
  split
  · exact wirkung.sichtbar t
  · rfl

theorem foldl_sichtbar (t : Trupp) (events : List Ereignis) :
    events.foldl wendeAn t.sichtbar = (events.foldl wendeAn t).sichtbar := by
  induction events generalizing t with
  | nil => rfl
  | cons e rest ih => rw [List.foldl_cons, List.foldl_cons, wendeAn_sichtbar, ih]

theorem foldl_still {t : Trupp} {events : List Ereignis} (still : ∀ e ∈ events, wendeAn t e = t) :
    events.foldl wendeAn t = t := by
  induction events with
  | nil => rfl
  | cons e rest ih =>
    rw [List.foldl_cons, still e (List.mem_cons_self ..)]
    exact ih fun e' later => still e' (List.mem_cons_of_mem _ later)

section Verworfen

variable {t : Trupp} (stimmig : Stimmig t)
include stimmig

theorem Stimmig.kontrolliere {stufe : String} (made : t.kontrolliert stufe = true) (atServerMs : Int) :
    Asuew.kontrolliere t stufe atServerMs = t := by
  have none : t.serverWarnings.filter (fun w => warnungZu stufe != some w) = t.serverWarnings := by
    refine List.filter_eq_self.mpr fun w member => ?_
    rw [bne_iff_ne]
    exact fun due => stimmig.kontrolliert stufe w due made member
  rw [Asuew.kontrolliere, if_pos made, none]

theorem Stimmig.meldeDruck (visible : ∀ w ∈ t.serverWarnings, w ∈ severity) {last atServerMs : Int}
    (reported : t.lastPressureAtMs = some last) (older : atServerMs ≤ last) : Asuew.meldeDruck t atServerMs = t := by
  have stay : ∀ w ∈ t.serverWarnings, bleibt t last w = true := by
    intro w member
    have known := visible w member
    simp only [severity, List.mem_cons, List.not_mem_nil, or_false] at known
    rcases known with rfl | rfl | rfl | rfl | stage
    · exact bleibt_gemeldet t last (by decide)
    · have fehlt : sekundenZu t "withdraw" = .fehlt := rfl
      unfold bleibt
      rw [fehlt]
      cases t.entryAtMs <;> rfl
    · exact bleibt_gemeldet t last (by decide)
    · have fehlt : sekundenZu t "max_exceeded" = .fehlt := rfl
      unfold bleibt
      rw [fehlt]
      cases t.entryAtMs <;> rfl
    · exact stimmig.gemeldet last reported w member stage.symm
  unfold Asuew.meldeDruck
  rw [reported, Option.getD_some, max_eq_left older]
  dsimp only
  rw [List.filter_eq_self.mpr stay, ← reported]

theorem Stimmig.quittiere (acked : t.maxTimeAcked = true) : Asuew.quittiere t "max_time" = t := by
  have none : t.serverWarnings.filter (· != "max_exceeded") = t.serverWarnings := by
    refine List.filter_eq_self.mpr fun w member => ?_
    rw [bne_iff_ne]
    rintro rfl
    exact stimmig.quittiert acked member
  unfold Asuew.quittiere
  rw [if_pos rfl, none, ← acked]

theorem Stimmig.verworfen {state : Zustand} {nowServerMs : Int} {e : Ereignis} (jung : e.jung nowServerMs)
    (found : state.troops.find? (·.id == e.troopId) = some t) (dropped : behalten state nowServerMs e = false) :
    wendeAn t.sichtbar e = t.sichtbar := by
  have sichtbar := stimmig.sichtbar
  unfold wendeAn
  cases own : e.eigen t.sichtbar with
  | false => rfl
  | true =>
    have late : ¬ (e.atServerMs ≤ doppelt (nowServerMs - 12 * 60 * 60000) ∨ t.entryAtMs.any (e.atServerMs < ·) = true) := by
      rintro (old | before)
      · exact absurd jung (not_lt.mpr old)
      · have after : t.entryAtMs.all (· ≤ e.atServerMs) = true := (Bool.and_eq_true _ _ ▸ own).2
        cases entered : t.entryAtMs with
        | none =>
          rw [entered] at before
          cases before
        | some entry =>
          rw [entered, Option.any_some, decide_eq_true_eq] at before
          rw [entered, Option.all_some, decide_eq_true_eq] at after
          omega
    rw [Bool.not_true, if_neg Bool.false_ne_true]
    simp only [behalten, found, Bool.or_eq_true, decide_eq_true_eq, if_neg late] at dropped
    split
    · next kind =>
      rw [if_pos kind, Bool.not_eq_false'] at dropped
      cases isStufe : e.stufe with
      | none => rfl
      | some stufe =>
        rw [isStufe, Option.any_some] at dropped
        dsimp only
        split
        · exact sichtbar.kontrolliere dropped _
        · rfl
    · next kind =>
      rw [if_neg (by rw [kind]; decide), if_pos kind] at dropped
      cases reported : t.lastPressureAtMs with
      | none =>
        rw [reported] at dropped
        cases dropped
      | some last =>
        rw [reported, Option.all_some, decide_eq_false_iff_not, not_lt] at dropped
        have visible : ∀ w ∈ t.sichtbar.serverWarnings, w ∈ severity := fun w member =>
          List.contains_iff_mem.mp (List.mem_filter.mp member).2
        exact sichtbar.meldeDruck visible reported dropped
    · next kind =>
      rw [if_neg (by rw [kind]; decide), if_neg (by rw [kind]; decide)] at dropped
      cases acks : e.ackKind with
      | none => rfl
      | some ackKind =>
        dsimp only
        by_cases maxTime : ackKind = "max_time"
        · subst maxTime
          rw [if_pos ⟨kind, acks⟩, Bool.not_eq_false'] at dropped
          exact sichtbar.quittiere dropped
        · rw [if_neg fun both => maxTime (Option.some.inj (acks.symm.trans both.2))] at dropped
          by_cases withdraw : ackKind = "withdraw"
          · subst withdraw
            rw [if_pos ⟨kind, acks⟩, List.contains_eq_mem, decide_eq_false_iff_not] at dropped
            have none : t.sichtbar.serverWarnings.filter (· != "withdraw") = t.sichtbar.serverWarnings := by
              refine List.filter_eq_self.mpr fun w member => ?_
              rw [bne_iff_ne]
              rintro rfl
              exact dropped (List.mem_filter.mp member).1
            rw [Asuew.quittiere, if_neg maxTime, if_pos rfl, none]
          · rw [if_neg fun both => withdraw (Option.some.inj (acks.symm.trans both.2))] at dropped
            cases dropped
    · rfl

end Verworfen

/-- For a state whose troops have ids of their own. -/
theorem beschneidung_unsichtbar {state : Zustand} (nodup : (state.troops.map (·.id)).Nodup)
    (stimmig : ∀ t ∈ state.troops, Stimmig t) {events : List Ereignis} {nowServerMs : Int}
    (jung : ∀ e ∈ events, e.jung nowServerMs) (now : Int) :
    activeAlarms (applyLocalEvents state (pruneLocalEvents state events nowServerMs)) now =
      activeAlarms (applyLocalEvents state events) now := by
  have same : ∀ t ∈ state.troops, truppAlarme now ((pruneLocalEvents state events nowServerMs).foldl wendeAn t) =
      truppAlarme now (events.foldl wendeAn t) := by
    intro t inside
    let kept := events.filter (behalten state nowServerMs)
    let dropped := events.filter fun e => !behalten state nowServerMs e
    have silent : ∀ e ∈ dropped, wendeAn t.sichtbar e = t.sichtbar := by
      intro e member
      obtain ⟨isEvent, isDropped⟩ := List.mem_filter.mp member
      rw [Bool.not_eq_true'] at isDropped
      by_cases own : e.troopId = t.id
      · refine (stimmig t inside).verworfen (jung e isEvent) ?_ isDropped
        rw [own]
        exact Relational.find?_key (·.id) nodup inside
      · rw [wendeAn, Ereignis.eigen, beq_eq_false_iff_ne.mpr (by exact own)]
        rfl
    have nothing : dropped.foldl wendeAn t.sichtbar = t.sichtbar := foldl_still silent
    have perm : (dropped ++ kept).Perm events :=
      List.perm_append_comm.trans (List.filter_append_perm ..)
    have gleich := orderFree.foldl_perm perm t.sichtbar
    rw [List.foldl_append, nothing, foldl_sichtbar, foldl_sichtbar] at gleich
    have alarms := gleich.truppAlarme now
    rw [truppAlarme_sichtbar, truppAlarme_sichtbar] at alarms
    exact alarms.symm
  have lists : (applyLocalEvents state (pruneLocalEvents state events nowServerMs)).troops.flatMap (truppAlarme now) =
      (applyLocalEvents state events).troops.flatMap (truppAlarme now) := by
    rw [alarme_ueberlagert, alarme_ueberlagert]
    exact List.flatMap_congr same
  rw [activeAlarms, activeAlarms, lists]

/-- A radio check that the troop has, and an acknowledgement that it has not. -/
def angriff : Zustand :=
  { troops := [{ id := 1, name := "Angriff", status := "im_einsatz", entryAtMs := some 1000, oneThirdSeconds := some 600
                 maxSeconds := some 1800, serverWarnings := ["max_exceeded"]
                 kontrollen := [⟨"one_third", "funk", 601500, none⟩] }] }

def kontrolleUndQuittung : List Ereignis :=
  [{ troopId := 1, kind := "kontrolle", stufe := some "one_third", atServerMs := 601500 },
    { troopId := 1, kind := "ack", ackKind := some "max_time", atServerMs := 1801500 }]

theorem beschneidung_unsichtbar_kontrolle :
    (pruneLocalEvents angriff kontrolleUndQuittung 1802000).length = 1 ∧
      activeAlarms (applyLocalEvents angriff (pruneLocalEvents angriff kontrolleUndQuittung 1802000)) 1802000 =
        activeAlarms (applyLocalEvents angriff kontrolleUndQuittung) 1802000 := by
  have stimmig : ∀ t ∈ angriff.troops, Stimmig t := by
    intro t member
    obtain rfl := List.mem_singleton.mp member
    refine ⟨fun stufe w due _ member => ?_, nofun, nofun⟩
    obtain rfl := List.mem_singleton.mp member
    unfold warnungZu at due
    split at due
    · exact absurd due (by decide)
    · split at due
      · exact absurd due (by decide)
      · cases due
  have jung : ∀ e ∈ kontrolleUndQuittung, e.jung 1802000 := by
    intro e member
    simp only [kontrolleUndQuittung, List.mem_cons, List.not_mem_nil, or_false] at member
    rcases member with rfl | rfl <;> exact show doppelt _ < _ by decide
  exact ⟨by decide +kernel, beschneidung_unsichtbar (by decide) stimmig jung 1802000⟩

/-- Two troops of one id: the check that the first of them has is dropped for
the second too. -/
def gleicheId : Zustand :=
  { troops := [
      { id := 1, name := "Angriff", status := "im_einsatz", entryAtMs := some 1000, oneThirdSeconds := some 600
        kontrollen := [⟨"one_third", "funk", 601500, none⟩] },
      { id := 1, name := "Angriff", status := "im_einsatz", entryAtMs := some 1000, oneThirdSeconds := some 600 }] }

theorem beschneidung_gleicheId :
    ¬ ∀ (state : Zustand) (events : List Ereignis) (nowServerMs now : Int), (∀ t ∈ state.troops, Stimmig t) →
      (∀ e ∈ events, isValidLocalEvent e = true) → (∀ e ∈ events, e.jung nowServerMs) →
      activeAlarms (applyLocalEvents state (pruneLocalEvents state events nowServerMs)) now =
        activeAlarms (applyLocalEvents state events) now := by
  intro law
  have stimmig : ∀ t ∈ gleicheId.troops, Stimmig t := by
    intro t member
    simp only [gleicheId, List.mem_cons, List.not_mem_nil, or_false] at member
    rcases member with rfl | rfl <;> exact ⟨fun _ _ _ _ => List.not_mem_nil, nofun, fun _ => List.not_mem_nil⟩
  have jung : ∀ e ∈ [({ troopId := 1, kind := "kontrolle", stufe := some "one_third", atServerMs := 601500 } : Ereignis)],
      e.jung 602000 := by
    intro e member
    obtain rfl := List.mem_singleton.mp member
    exact show doppelt _ < _ by decide
  have same := law gleicheId _ 602000 602000 stimmig (by decide) jung
  exact absurd same (by decide +kernel)

end Einsatzcockpit.Asuew
