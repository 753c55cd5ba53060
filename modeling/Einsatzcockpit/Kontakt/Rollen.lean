import Einsatzcockpit.Lib.Repoint
import Einsatzcockpit.Kontakt.Zusammenfuehren

namespace Einsatzcockpit.Kontakt

open Relational Raising

def verschmolzen (gleich zuordnung : Rolle) : Rolle :=
  let neu := (zuordnung.freigaben.foldl freigabeUmhaengen (gleich, [])).1
  { neu with
    benachrichtigungen := neu.benachrichtigungen ++ zuordnung.benachrichtigungen.filter (·.orgId = zuordnung.orgId) }

def Rolle.kennt (rolle : Rolle) : List (String × String) := rolle.freigaben.map Freigabe.schluessel

/-- The approvals of `zuordnung` that `gleich` lacks. -/
def fehlende (gleich zuordnung : Rolle) : List Freigabe := zuordnung.freigaben.filter (!gleich.kennt.contains ·.schluessel)

section Freigaben

variable {gleich zuordnung : Rolle} {freigaben : List Freigabe} {konflikte : List String}

/-- What an approval of the source makes of the role: all but its approvals stays. -/
structure Uebernommen (vorher nachher : Rolle) (freigaben : List Freigabe) : Prop where
  rest : nachher.id = vorher.id ∧ nachher.schluessel = vorher.schluessel ∧ nachher.kontaktId = vorher.kontaktId ∧
    nachher.benachrichtigungen = vorher.benachrichtigungen
  kennt : nachher.kennt = vorher.kennt
  zugezogen : nachher.zugezogen = vorher.zugezogen ++ freigaben.filter (·.schluessel ∉ vorher.kennt)
  aktiv : vorher.kennt.Nodup → ∀ v ∈ nachher.freigaben, v.aktiv = true →
    (∃ alt ∈ vorher.freigaben, alt.schluessel = v.schluessel ∧ alt.aktiv = true) ∧
    ∀ f ∈ freigaben, f.schluessel = v.schluessel → f.aktiv = true

theorem freigabeUmhaengen_uebernommen (f : Freigabe) :
    Uebernommen gleich (freigabeUmhaengen (gleich, konflikte) f).1 [f] := by
  unfold freigabeUmhaengen
  cases found : gleich.freigaben.find? fun v => v.schluessel = f.schluessel with
  | none =>
    have unknown : ∀ v ∈ gleich.freigaben, v.schluessel ≠ f.schluessel := by simpa using found
    have missing : f.schluessel ∉ gleich.kennt := by
      intro inside
      obtain ⟨v, member, same⟩ := List.mem_map.mp inside
      exact unknown v member same
    refine ⟨⟨rfl, rfl, rfl, rfl⟩, rfl, by simp [missing], fun _ v member active => ⟨⟨v, member, rfl, active⟩, fun g isF same => ?_⟩⟩
    rw [List.mem_singleton.mp isF] at same
    exact absurd same.symm (unknown v member)
  | some vorhanden =>
    have isKey : vorhanden.schluessel = f.schluessel := by simpa using List.find?_some found
    have member := List.mem_of_find?_eq_some found
    have known : f.schluessel ∈ gleich.kennt := isKey ▸ List.mem_map_of_mem member
    dsimp only
    split
    · next agree =>
      refine ⟨⟨rfl, rfl, rfl, rfl⟩, rfl, by simp [known],
        fun nodup v inside active => ⟨⟨v, inside, rfl, active⟩, fun g isF same => ?_⟩⟩
      rw [List.mem_singleton.mp isF] at same ⊢
      have only : v = vorhanden := List.inj_on_of_nodup_map nodup inside member (same.symm.trans isKey.symm)
      rw [← agree, ← only]
      exact active
    · refine ⟨⟨rfl, rfl, rfl, rfl⟩, ?_, by simp [known], fun _ v inside active => ?_⟩
      · simp only [Rolle.kennt, List.map_map]
        refine List.map_congr_left fun v _ => ?_
        simp only [Function.comp_apply]
        split <;> rfl
      · obtain ⟨alt, isAlt, rfl⟩ := List.mem_map.mp inside
        by_cases hit : alt.schluessel = f.schluessel
        · rw [if_pos hit] at active
          cases active
        · rw [if_neg hit] at active ⊢
          exact ⟨⟨alt, isAlt, rfl, active⟩, fun g isF same => absurd (List.mem_singleton.mp isF ▸ same).symm hit⟩

theorem Uebernommen.trans {vorher mitte nachher : Rolle} {erste zweite : List Freigabe}
    (first : Uebernommen vorher mitte erste) (second : Uebernommen mitte nachher zweite) :
    Uebernommen vorher nachher (erste ++ zweite) := by
  obtain ⟨⟨id₁, key₁, owner₁, rest₁⟩, kennt₁, zugezogen₁, aktiv₁⟩ := first
  obtain ⟨⟨id₂, key₂, owner₂, rest₂⟩, kennt₂, zugezogen₂, aktiv₂⟩ := second
  refine ⟨⟨id₂.trans id₁, key₂.trans key₁, owner₂.trans owner₁, rest₂.trans rest₁⟩, kennt₂.trans kennt₁, ?_,
    fun nodup v member active => ?_⟩
  · rw [zugezogen₂, zugezogen₁, kennt₁, List.filter_append, List.append_assoc]
  · obtain ⟨⟨mid, isMid, midKey, midActive⟩, laterActive⟩ := aktiv₂ (kennt₁ ▸ nodup) v member active
    obtain ⟨⟨alt, isAlt, altKey, altActive⟩, earlyActive⟩ := aktiv₁ nodup mid isMid midActive
    refine ⟨⟨alt, isAlt, altKey.trans midKey, altActive⟩, fun f inside same => ?_⟩
    rcases List.mem_append.mp inside with early | late
    · exact earlyActive f early (same.trans midKey.symm)
    · exact laterActive f late same

theorem foldl_uebernommen (gleich : Rolle) (freigaben : List Freigabe) (konflikte : List String) :
    Uebernommen gleich (freigaben.foldl freigabeUmhaengen (gleich, konflikte)).1 freigaben := by
  induction freigaben generalizing gleich konflikte with
  | nil => exact ⟨⟨rfl, rfl, rfl, rfl⟩, rfl, by simp, fun _ v member active => ⟨⟨v, member, rfl, active⟩, nofun⟩⟩
  | cons f freigaben ih =>
    rw [List.foldl_cons]
    exact (freigabeUmhaengen_uebernommen f).trans (ih _ (freigabeUmhaengen (gleich, konflikte) f).2)

end Freigaben

def folgende (zuordnung : Rolle) : List Benachrichtigung := zuordnung.benachrichtigungen.filter (·.orgId = zuordnung.orgId)

structure Vereinigt (vorher : Rolle) (rollen : List Rolle) (nachher : Rolle) : Prop where
  kennt : nachher.kennt = vorher.kennt
  zugezogen : nachher.zugezogen = vorher.zugezogen ++ rollen.flatMap (fehlende vorher)
  benachrichtigungen : nachher.benachrichtigungen = vorher.benachrichtigungen ++ rollen.flatMap folgende
  aktiv : vorher.kennt.Nodup → ∀ v ∈ nachher.freigaben, v.aktiv = true →
    (∃ alt ∈ vorher.freigaben, alt.schluessel = v.schluessel ∧ alt.aktiv = true) ∧
    ∀ r ∈ rollen, ∀ f ∈ r.freigaben, f.schluessel = v.schluessel → f.aktiv = true

section Verschmolzen

variable {gleich zuordnung : Rolle} {rollen : List Rolle}

theorem foldl_umhaengen_eq (freigaben : List Freigabe) (state : Rolle × List String) :
    (freigaben.foldl freigabeUmhaengen state).1.id = state.1.id ∧
    (freigaben.foldl freigabeUmhaengen state).1.schluessel = state.1.schluessel ∧
    (freigaben.foldl freigabeUmhaengen state).1.kontaktId = state.1.kontaktId := by
  induction freigaben generalizing state with
  | nil => exact ⟨rfl, rfl, rfl⟩
  | cons f freigaben ih =>
    have one : (freigabeUmhaengen state f).1.id = state.1.id ∧
        (freigabeUmhaengen state f).1.schluessel = state.1.schluessel ∧
        (freigabeUmhaengen state f).1.kontaktId = state.1.kontaktId := by
      unfold freigabeUmhaengen
      split
      · exact ⟨rfl, rfl, rfl⟩
      · split <;> exact ⟨rfl, rfl, rfl⟩
    obtain ⟨id, key, owner⟩ := ih (freigabeUmhaengen state f)
    exact ⟨id.trans one.1, key.trans one.2.1, owner.trans one.2.2⟩

theorem verschmolzen_eq : (verschmolzen gleich zuordnung).id = gleich.id ∧
    (verschmolzen gleich zuordnung).schluessel = gleich.schluessel ∧
    (verschmolzen gleich zuordnung).kontaktId = gleich.kontaktId :=
  foldl_umhaengen_eq zuordnung.freigaben (gleich, [])

theorem verschmolzen_vereinigt : Vereinigt gleich [zuordnung] (verschmolzen gleich zuordnung) := by
  have took := foldl_uebernommen gleich zuordnung.freigaben []
  refine ⟨took.kennt, ?_, ?_, fun nodup v member active => ?_⟩
  · rw [List.flatMap_singleton]
    exact took.zugezogen.trans (by simp [fehlende])
  · rw [List.flatMap_singleton]
    exact congrArg (· ++ folgende zuordnung) took.rest.2.2.2
  · obtain ⟨alt, all⟩ := took.aktiv nodup v member active
    exact ⟨alt, fun r isR => List.mem_singleton.mp isR ▸ all⟩

theorem Vereinigt.trans {vorher mitte nachher : Rolle} {erste zweite : List Rolle} (first : Vereinigt vorher erste mitte)
    (second : Vereinigt mitte zweite nachher) : Vereinigt vorher (erste ++ zweite) nachher := by
  have sameMissing : fehlende mitte = fehlende vorher := by
    funext r
    rw [fehlende, fehlende, first.kennt]
  refine ⟨second.kennt.trans first.kennt, ?_, ?_, fun nodup v member active => ?_⟩
  · rw [second.zugezogen, first.zugezogen, sameMissing, List.flatMap_append, List.append_assoc]
  · rw [second.benachrichtigungen, first.benachrichtigungen, List.flatMap_append, List.append_assoc]
  · obtain ⟨⟨mid, isMid, midKey, midActive⟩, laterActive⟩ := second.aktiv (first.kennt ▸ nodup) v member active
    obtain ⟨⟨alt, isAlt, altKey, altActive⟩, earlyActive⟩ := first.aktiv nodup mid isMid midActive
    refine ⟨⟨alt, isAlt, altKey.trans midKey, altActive⟩, fun r inside f isF same => ?_⟩
    rcases List.mem_append.mp inside with early | late
    · exact earlyActive r early f isF (same.trans midKey.symm)
    · exact laterActive r late f isF same

theorem foldl_vereinigt : Vereinigt gleich rollen (rollen.foldl verschmolzen gleich) := by
  induction rollen generalizing gleich with
  | nil => exact ⟨rfl, by simp, by simp, fun _ v member active => ⟨⟨v, member, rfl, active⟩, nofun⟩⟩
  | cons r rollen ih =>
    rw [List.foldl_cons]
    exact verschmolzen_vereinigt.trans ih

end Verschmolzen

def rollenRows (ziel : Nat) : Repoint.Rows Rolle (Nat × String) where
  id := Rolle.id
  key := Rolle.schluessel
  held r := decide (r.kontaktId = ziel)
  take r := { r with kontaktId := ziel }
  join := verschmolzen
  id_take _ := rfl
  key_take _ := rfl
  held_take _ := decide_eq_true rfl
  id_join _ _ := verschmolzen_eq.1
  key_join _ _ := verschmolzen_eq.2.1
  held_join _ _ := by rw [verschmolzen_eq.2.2]

def Rollenlauf.state (lauf : Rollenlauf) : Repoint.State Rolle where
  rows := lauf.rollen
  visible := lauf.beimZiel

section Lauf

variable {ziel : Nat} {lauf lauf' : Rollenlauf} {zuordnung : Rolle}

def Offen (ziel : Nat) (lauf : Rollenlauf) (zuordnung : Rolle) : Prop :=
  ∀ r ∈ lauf.rollen, r.id = zuordnung.id → r.kontaktId ≠ ziel

/-- The role a flush writes for `r`. -/
def halb (gleich zuordnung r : Rolle) : Rolle :=
  if r.id = gleich.id then (zuordnung.freigaben.foldl freigabeUmhaengen (r, [])).1
  else if r.id = zuordnung.id then { r with freigaben := [] }
  else r

theorem halb_eq {gleich r : Rolle} : (halb gleich zuordnung r).id = r.id ∧ (halb gleich zuordnung r).kontaktId = r.kontaktId := by
  unfold halb
  split_ifs
  · exact ⟨(foldl_umhaengen_eq _ _).1, (foldl_umhaengen_eq _ _).2.2⟩
  · exact ⟨rfl, rfl⟩
  · exact ⟨rfl, rfl⟩

theorem ids_map {f : Rolle → Rolle} (keeps : ∀ r, (f r).id = r.id ∧ (f r).kontaktId = r.kontaktId) (rollen : List Rolle) :
    ((rollen.map f).filter (·.kontaktId = ziel)).map (·.id) = (rollen.filter (·.kontaktId = ziel)).map (·.id) := by
  rw [List.filter_map, List.map_map]
  have sameFilter : ((fun r : Rolle => decide (r.kontaktId = ziel)) ∘ f) = fun r => decide (r.kontaktId = ziel) := by
    funext r
    simp only [Function.comp_apply, (keeps r).2]
  rw [sameFilter]
  exact List.map_congr_left fun r _ => (keeps r).1

theorem rolleUmhaengen_step (offen : Offen ziel lauf zuordnung) (ok : rolleUmhaengen ziel lauf zuordnung = .ok lauf') :
    lauf'.state = lauf.state.step (rollenRows ziel) zuordnung := by
  unfold rolleUmhaengen at ok
  have query : lauf.state.survivor? (rollenRows ziel) zuordnung = lauf.gleich? zuordnung := rfl
  unfold Repoint.State.step
  rw [query]
  cases found : lauf.gleich? zuordnung with
  | none =>
    rw [found] at ok
    cases ok
    rfl
  | some gleich =>
    rw [found] at ok
    simp only [bind_eq_ok, pure_eq_ok, require_eq_ok] at ok
    obtain ⟨-, -, rfl⟩ := ok
    have keepsJoin : ∀ r, (if r.id = gleich.id then verschmolzen r zuordnung else r).id = r.id ∧
        (if r.id = gleich.id then verschmolzen r zuordnung else r).kontaktId = r.kontaktId := by
      intro r
      split
      · exact ⟨verschmolzen_eq.1, verschmolzen_eq.2.2⟩
      · exact ⟨rfl, rfl⟩
    have rows : (protokollUmhaengen (freigabenUmhaengen ziel lauf gleich zuordnung) gleich zuordnung).rollen =
        (lauf.rollen.filter (·.id ≠ zuordnung.id)).map fun r =>
          if r.id = gleich.id then verschmolzen r zuordnung else r := by
      show ((lauf.rollen.map (halb gleich zuordnung)).filter _).map _ = _
      have sameFilter : ((fun r : Rolle => decide (r.id ≠ zuordnung.id)) ∘ halb gleich zuordnung) =
          fun r => decide (r.id ≠ zuordnung.id) := by
        funext r
        simp only [Function.comp_apply, halb_eq.1]
      rw [List.filter_map, sameFilter, List.map_map]
      refine List.map_congr_left fun r member => ?_
      have notGone : r.id ≠ zuordnung.id := of_decide_eq_true (List.mem_filter.mp member).2
      rw [Function.comp_apply]
      by_cases atGleich : r.id = gleich.id
      · rw [if_pos (halb_eq.1.trans atGleich), if_pos atGleich, halb, if_pos atGleich]
        rfl
      · rw [if_neg fun same => atGleich (halb_eq.1.symm.trans same), if_neg atGleich, halb, if_neg atGleich, if_neg notGone]
    refine congrArg₂ Repoint.State.mk rows ?_
    show ((lauf.rollen.map (halb gleich zuordnung)).filter _).map _ = _
    rw [ids_map fun r => halb_eq]
    refine Eq.trans ?_ (ids_map keepsJoin _).symm
    rw [List.filter_filter]
    congr 1
    refine List.filter_congr fun r member => ?_
    by_cases atZiel : r.kontaktId = ziel
    · have notGone : ¬ (rollenRows ziel).id r = (rollenRows ziel).id zuordnung := fun same => offen r member same atZiel
      simp [atZiel, notGone]
    · simp [atZiel]

/-- The roles still to come are as the database has them, and no query finds them. -/
structure Bereit (ziel : Nat) (state : Repoint.State Rolle) (todo : List Rolle) : Prop where
  ids : (todo.map (·.id)).Nodup
  echt : ∀ z ∈ todo, ∀ r ∈ state.rows, r.id = z.id → r = z
  unsichtbar : ∀ z ∈ todo, z.id ∉ state.visible
  fremd : ∀ z ∈ todo, z.kontaktId ≠ ziel
  eindeutig : ∀ z ∈ todo, z.Eindeutig

variable {state : Repoint.State Rolle} {todo : List Rolle}

theorem Bereit.offen (bereit : Bereit ziel lauf.state (zuordnung :: todo)) : Offen ziel lauf zuordnung := fun r member same => by
  rw [bereit.echt zuordnung (List.mem_cons_self ..) r member same]
  exact bereit.fremd zuordnung (List.mem_cons_self ..)

theorem Bereit.step (bereit : Bereit ziel state (zuordnung :: todo)) :
    Bereit ziel (state.step (rollenRows ziel) zuordnung) todo := by
  have ids := bereit.ids
  rw [List.map_cons, List.nodup_cons] at ids
  have later : ∀ z ∈ todo, z ∈ zuordnung :: todo := fun z => List.mem_cons_of_mem _
  have apart : ∀ z ∈ todo, z.id ≠ zuordnung.id := fun z member same => ids.1 (same ▸ List.mem_map_of_mem member)
  have rows : ∀ z ∈ todo, ∀ r ∈ (state.step (rollenRows ziel) zuordnung).rows, r.id = z.id → r = z := by
    intro z member r inside same
    unfold Repoint.State.step at inside
    split at inside
    · obtain ⟨old, isOld, rfl⟩ := List.mem_map.mp inside
      have oldId : old.id = z.id := by
        split at same
        · exact same
        · exact same
      have notNext : ¬ (rollenRows ziel).id old = (rollenRows ziel).id zuordnung :=
        fun atNext => apart z member (oldId.symm.trans atNext)
      rw [if_neg notNext]
      exact bereit.echt z (later z member) old isOld oldId
    · next survivor found =>
      obtain ⟨old, isOld, rfl⟩ := List.mem_map.mp inside
      have oldId : old.id = z.id := by
        split at same
        · exact ((rollenRows ziel).id_join old zuordnung).symm.trans same
        · exact same
      have visible : survivor.id ∈ state.visible := by
        have holds := List.find?_some found
        exact of_decide_eq_true (Bool.and_eq_true .. ▸ holds).1
      have notSurvivor : ¬ (rollenRows ziel).id old = (rollenRows ziel).id survivor := by
        intro atSurvivor
        have same' : z.id = survivor.id := oldId.symm.trans atSurvivor
        exact bereit.unsichtbar z (later z member) (same' ▸ visible)
      rw [if_neg notSurvivor]
      exact bereit.echt z (later z member) old (List.mem_of_mem_filter isOld) oldId
  refine ⟨ids.2, rows, fun z member inside => ?_, fun z member => bereit.fremd z (later z member),
    fun z member => bereit.eindeutig z (later z member)⟩
  have sees : (state.step (rollenRows ziel) zuordnung).visible = state.visible ∨
      (state.step (rollenRows ziel) zuordnung).visible =
        ((state.step (rollenRows ziel) zuordnung).rows.filter (·.kontaktId = ziel)).map (·.id) := by
    unfold Repoint.State.step
    split
    · exact Or.inl rfl
    · exact Or.inr rfl
  rcases sees with same | flushed
  · exact bereit.unsichtbar z (later z member) (same ▸ inside)
  · rw [flushed] at inside
    obtain ⟨r, isHeld, id⟩ := List.mem_map.mp inside
    obtain ⟨isRow, atZiel⟩ := List.mem_filter.mp isHeld
    rw [rows z member r isRow id] at atZiel
    exact bereit.fremd z (later z member) (of_decide_eq_true atZiel)

theorem foldlM_state (bereit : Bereit ziel lauf.state todo) (ok : todo.foldlM (rolleUmhaengen ziel) lauf = .ok lauf') :
    lauf'.state = todo.foldl (Repoint.State.step (rollenRows ziel)) lauf.state := by
  induction todo generalizing lauf with
  | nil =>
    cases pure_eq_ok.mp ok
    rfl
  | cons zuordnung todo ih =>
    obtain ⟨next, first, rest⟩ := foldlM_cons_eq_ok.mp ok
    have same := rolleUmhaengen_step bereit.offen first
    rw [List.foldl_cons, ← same]
    exact ih (same ▸ bereit.step) rest

def Waechst (frueher spaeter : Rolle) : Prop :=
  (frueher.alleFreigaben.map Freigabe.schluessel).Sublist (spaeter.alleFreigaben.map Freigabe.schluessel) ∧
    (frueher.benachrichtigungen.map Benachrichtigung.schluessel).Sublist
      (spaeter.benachrichtigungen.map Benachrichtigung.schluessel)

theorem Waechst.eindeutig {frueher spaeter : Rolle} (waechst : Waechst frueher spaeter) (eindeutig : spaeter.Eindeutig) :
    frueher.Eindeutig :=
  ⟨waechst.1.nodup eindeutig.1, waechst.2.nodup eindeutig.2⟩

theorem Vereinigt.keys {vorher nachher : Rolle} {rollen : List Rolle} (vereinigt : Vereinigt vorher rollen nachher) :
    nachher.alleFreigaben.map Freigabe.schluessel = vorher.alleFreigaben.map Freigabe.schluessel ++
      (rollen.flatMap (fehlende vorher)).map Freigabe.schluessel := by
  have kennt : nachher.freigaben.map Freigabe.schluessel = vorher.freigaben.map Freigabe.schluessel := vereinigt.kennt
  simp only [Rolle.alleFreigaben, List.map_append, kennt, vereinigt.zugezogen, List.append_assoc]

theorem Vereinigt.waechst {vorher nachher : Rolle} {rollen : List Rolle} (vereinigt : Vereinigt vorher rollen nachher) :
    Waechst vorher nachher := by
  refine ⟨?_, ?_⟩
  · rw [vereinigt.keys]
    exact List.sublist_append_left _ _
  · rw [vereinigt.benachrichtigungen, List.map_append]
    exact List.sublist_append_left _ _

theorem Waechst.trans {a b c : Rolle} (first : Waechst a b) (second : Waechst b c) : Waechst a c :=
  ⟨first.1.trans second.1, first.2.trans second.2⟩

theorem run_waechst (ziel : Nat) {r : Rolle} (member : r ∈ state.rows) (apart : r.id ∉ todo.map (·.id)) :
    ∃ later ∈ (todo.foldl (Repoint.State.step (rollenRows ziel)) state).rows, Waechst r later := by
  induction todo generalizing state r with
  | nil => exact ⟨r, member, List.Sublist.refl _, List.Sublist.refl _⟩
  | cons zuordnung todo ih =>
    rw [List.map_cons, List.mem_cons, not_or] at apart
    have one : ∃ next ∈ (state.step (rollenRows ziel) zuordnung).rows, next.id = r.id ∧ Waechst r next := by
      unfold Repoint.State.step
      split
      · exact ⟨r, List.mem_map.mpr ⟨r, member, if_neg apart.1⟩, rfl, List.Sublist.refl _, List.Sublist.refl _⟩
      · next survivor found =>
        have kept : r ∈ state.rows.filter ((rollenRows ziel).id · ≠ (rollenRows ziel).id zuordnung) :=
          List.mem_filter.mpr ⟨member, decide_eq_true apart.1⟩
        by_cases isSurvivor : r.id = survivor.id
        · exact ⟨verschmolzen r zuordnung, List.mem_map.mpr ⟨r, kept, if_pos isSurvivor⟩, verschmolzen_eq.1,
            verschmolzen_vereinigt.waechst⟩
        · exact ⟨r, List.mem_map.mpr ⟨r, kept, if_neg isSurvivor⟩, rfl, List.Sublist.refl _, List.Sublist.refl _⟩
    obtain ⟨next, isNext, id, grows⟩ := one
    obtain ⟨later, isLater, growsOn⟩ := ih isNext (by rw [id]; exact apart.2)
    exact ⟨later, isLater, grows.trans growsOn⟩

theorem geflusht_eindeutig {gleich : Rolle} (bereit : Bereit ziel lauf.state (zuordnung :: todo))
    (found : lauf.gleich? zuordnung = some gleich)
    (final : ∀ r ∈ ((zuordnung :: todo).foldl (Repoint.State.step (rollenRows ziel)) lauf.state).rows, r.Eindeutig) :
    (freigabenUmhaengen ziel lauf gleich zuordnung).Eindeutig := by
  have query : lauf.state.survivor? (rollenRows ziel) zuordnung = some gleich := found
  have visible : gleich.id ∈ lauf.beimZiel := by
    have holds := List.find?_some found
    exact of_decide_eq_true (Bool.and_eq_true .. ▸ holds).1
  have notNext : gleich.id ≠ zuordnung.id := fun same =>
    bereit.unsichtbar zuordnung (List.mem_cons_self ..) (same ▸ visible)
  have stepped : ∀ r ∈ lauf.rollen, r.id ≠ zuordnung.id →
      (if r.id = gleich.id then verschmolzen r zuordnung else r) ∈ (lauf.state.step (rollenRows ziel) zuordnung).rows := by
    intro r member apart
    rw [Repoint.State.step, query]
    exact List.mem_map.mpr ⟨r, List.mem_filter.mpr ⟨member, decide_eq_true apart⟩, rfl⟩
  intro half isHalf
  obtain ⟨r, member, rfl⟩ := List.mem_map.mp isHalf
  by_cases atGleich : r.id = gleich.id
  · have inside := stepped r member (by rw [atGleich]; exact notNext)
    rw [if_pos atGleich] at inside
    have notLater : (verschmolzen r zuordnung).id ∉ todo.map (·.id) := by
      rw [verschmolzen_eq.1, atGleich]
      intro isLater
      obtain ⟨z, isZ, same⟩ := List.mem_map.mp isLater
      exact bereit.unsichtbar z (List.mem_cons_of_mem _ isZ) (same ▸ visible)
    obtain ⟨later, isFinal, grows⟩ := run_waechst ziel inside notLater
    have unique := grows.eindeutig (final later isFinal)
    rw [if_pos atGleich]
    have took := foldl_uebernommen r zuordnung.freigaben []
    refine ⟨unique.1, ?_⟩
    rw [took.rest.2.2.2]
    have grown : Waechst r (verschmolzen r zuordnung) := verschmolzen_vereinigt.waechst
    exact grown.2.nodup unique.2
  rw [if_neg atGleich]
  by_cases atNext : r.id = zuordnung.id
  · rw [if_pos atNext, bereit.echt zuordnung (List.mem_cons_self ..) r member atNext]
    obtain ⟨approvals, notices⟩ := bereit.eindeutig zuordnung (List.mem_cons_self ..)
    refine ⟨?_, notices⟩
    exact ((List.sublist_append_right _ _).map _).nodup approvals
  · rw [if_neg atNext]
    by_cases isLater : r.id ∈ todo.map (·.id)
    · obtain ⟨z, isZ, same⟩ := List.mem_map.mp isLater
      rw [bereit.echt z (List.mem_cons_of_mem _ isZ) r member same.symm]
      exact bereit.eindeutig z (List.mem_cons_of_mem _ isZ)
    · have inside := stepped r member atNext
      rw [if_neg atGleich] at inside
      obtain ⟨later, isFinal, grows⟩ := run_waechst ziel inside isLater
      exact grows.eindeutig (final later isFinal)

theorem foldlM_ok (bereit : Bereit ziel lauf.state todo)
    (final : ∀ r ∈ (todo.foldl (Repoint.State.step (rollenRows ziel)) lauf.state).rows, r.Eindeutig) :
    ∃ lauf', todo.foldlM (rolleUmhaengen ziel) lauf = .ok lauf' := by
  induction todo generalizing lauf with
  | nil => exact ⟨lauf, rfl⟩
  | cons zuordnung todo ih =>
    have one : ∃ next, rolleUmhaengen ziel lauf zuordnung = .ok next := by
      unfold rolleUmhaengen
      cases found : lauf.gleich? zuordnung with
      | none => exact ⟨_, rfl⟩
      | some gleich =>
        refine ⟨protokollUmhaengen (freigabenUmhaengen ziel lauf gleich zuordnung) gleich zuordnung, ?_⟩
        exact bind_eq_ok.mpr ⟨(), require_eq_ok.mpr (geflusht_eindeutig bereit found final), rfl⟩
    obtain ⟨next, first⟩ := one
    have same := rolleUmhaengen_step bereit.offen first
    rw [List.foldl_cons, ← same] at final
    obtain ⟨last, rest⟩ := ih (same ▸ bereit.step) final
    exact ⟨last, foldlM_cons_eq_ok.mpr ⟨next, first, rest⟩⟩

end Lauf

structure RollenStimmen (db : Db) : Prop where
  ids : (db.rollen.map (·.id)).Nodup
  eindeutig : ∀ r ∈ db.rollen, r.Eindeutig

section Umhaengen

variable {db : Db} {quelle ziel : Nat}

def quelleRollen (db : Db) (quelle : Nat) : List Rolle := db.rollen.filter (·.kontaktId = quelle)

def rollenNachher (db : Db) (quelle ziel : Nat) : List Rolle :=
  ((quelleRollen db quelle).foldl (Repoint.State.step (rollenRows ziel)) (Repoint.start (rollenRows ziel) db.rollen)).rows

section

variable (stimmen : RollenStimmen db) (apart : quelle ≠ ziel)
include stimmen apart

theorem rollen_sound :
    Repoint.Sound (rollenRows ziel) db.rollen (quelleRollen db quelle) := by
  refine ⟨stimmen.ids, (List.filter_sublist.map _).nodup stimmen.ids, fun r member => ?_⟩
  obtain ⟨isRow, own⟩ := List.mem_filter.mp member
  refine ⟨isRow, decide_eq_false ?_⟩
  rw [of_decide_eq_true own]
  exact apart

theorem rollen_bereit :
    Bereit ziel (rollenBeginn db ziel).state (quelleRollen db quelle) := by
  have own : ∀ z ∈ quelleRollen db quelle, z ∈ db.rollen ∧ z.kontaktId ≠ ziel := by
    intro z member
    obtain ⟨isRow, isOwn⟩ := List.mem_filter.mp member
    exact ⟨isRow, by rw [of_decide_eq_true isOwn]; exact apart⟩
  refine ⟨(rollen_sound stimmen apart).todoIds, fun z member r isRow same => ?_, fun z member inside => ?_,
    fun z member => (own z member).2, fun z member => stimmen.eindeutig z (own z member).1⟩
  · exact List.inj_on_of_nodup_map stimmen.ids isRow (own z member).1 same
  · obtain ⟨r, isHeld, same⟩ := List.mem_map.mp inside
    obtain ⟨isRow, held⟩ := List.mem_filter.mp isHeld
    rw [List.inj_on_of_nodup_map stimmen.ids isRow (own z member).1 same] at held
    exact (own z member).2 (of_decide_eq_true held)

theorem rollenUmhaengen_ok {rollen : List Rolle} :
    (∃ lauf, rollenUmhaengen db quelle ziel = .ok lauf ∧ lauf.rollen = rollen) ↔
      rollen = rollenNachher db quelle ziel ∧ ∀ r ∈ rollen, r.Eindeutig := by
  have bereit := rollen_bereit stimmen apart
  constructor
  · rintro ⟨lauf, ran, rfl⟩
    simp only [rollenUmhaengen, bind_eq_ok, pure_eq_ok, require_eq_ok] at ran
    obtain ⟨last, folded, -, unique, rfl⟩ := ran
    exact ⟨congrArg Repoint.State.rows (foldlM_state bereit folded), unique⟩
  · rintro ⟨rfl, unique⟩
    obtain ⟨lauf, folded⟩ := foldlM_ok bereit unique
    have rows : lauf.rollen = rollenNachher db quelle ziel := congrArg Repoint.State.rows (foldlM_state bereit folded)
    refine ⟨lauf, ?_, rows⟩
    simp only [rollenUmhaengen, bind_eq_ok, pure_eq_ok, require_eq_ok]
    exact ⟨lauf, folded, (), by rw [Rollenlauf.Eindeutig, rows]; exact unique, rfl⟩

end

end Umhaengen

end Einsatzcockpit.Kontakt
