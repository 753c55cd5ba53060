import Einsatzcockpit.Fahrtenbuch.Records

namespace Einsatzcockpit.Fahrtenbuch

open Raising Relational Transition

/-- A counter is the largest of the values, or where it started when there are
none. -/
def Stand (werte : List ℚ) (start stand : ℚ) : Prop :=
  (stand ∈ werte ∧ ∀ w ∈ werte, w ≤ stand) ∨ (werte = [] ∧ stand = start)

theorem Stand.congr {werte werte' : List ℚ} {start stand : ℚ} (held : Stand werte start stand)
    (same : ∀ w, w ∈ werte' ↔ w ∈ werte) : Stand werte' start stand := by
  rcases held with ⟨inside, largest⟩ | ⟨none, atStart⟩
  · exact Or.inl ⟨(same stand).mpr inside, fun w member => largest w ((same w).mp member)⟩
  · refine Or.inr ⟨List.eq_nil_iff_forall_not_mem.mpr fun w member => ?_, atStart⟩
    rw [same, none] at member
    cases member

/-- The counter after a recomputation over the values `gelesen`. -/
theorem Stand.gelesen {alt gelesen neu : List ℚ} {start stand : ℚ} (held : Stand alt start stand)
    (sub : ∀ w ∈ neu, w ∈ gelesen) (ueberboten : ∀ w ∈ gelesen, ∃ w' ∈ neu, w ≤ w') (leer : gelesen = [] → alt = []) :
    Stand neu start (gelesen.max?.getD stand) := by
  cases largest : gelesen.max? with
  | none =>
    have none := List.max?_eq_none_iff.mp largest
    rcases held with ⟨inside, -⟩ | ⟨-, atStart⟩
    · rw [leer none] at inside
      cases inside
    · refine Or.inr ⟨List.eq_nil_iff_forall_not_mem.mpr fun w member => ?_, atStart⟩
      have read := sub w member
      rw [none] at read
      cases read
  | some m =>
    obtain ⟨inside, bound⟩ := List.max?_eq_some_iff.mp largest
    obtain ⟨w, isNew, above⟩ := ueberboten m inside
    have same : w = m := le_antisymm (bound w (sub w isNew)) above
    exact Or.inl ⟨same ▸ isNew, fun w' member => bound w' (sub w' member)⟩

theorem mem_werte {db : Db} {fahrzeugId : Nat} {art : Art} {w : ℚ} : w ∈ db.werte fahrzeugId art ↔
    ∃ f ∈ db.fahrten, f.fahrzeugId = fahrzeugId ∧ f.status = .aktiv ∧ f.neu.wert art = some w := by
  simp only [Db.werte, List.mem_filterMap, List.mem_filter, Bool.and_eq_true, beq_iff_eq, and_assoc]

section Recompute

variable (gelesen : Db)

@[simp] theorem recompute_id (art : Art) (v : VehicleMaster) : (recomputeZaehlerstand gelesen art v).id = v.id := by
  unfold recomputeZaehlerstand
  split <;> rfl

theorem recompute_wert (art art' : Art) (v : VehicleMaster) :
    (recomputeZaehlerstand gelesen art v).aktuell.wert art' =
      if art' = art then (gelesen.werte v.id art).max?.getD (v.aktuell.wert art') else v.aktuell.wert art' := by
  unfold recomputeZaehlerstand
  split
  · next wert found => rw [found, Zaehler.wert_setze, Option.getD_some]
  · next none => rw [none, Option.getD_none, ite_self]

theorem recompute_foldl (l : List Art) (v : VehicleMaster) :
    let v' := l.foldl (fun v art => recomputeZaehlerstand gelesen art v) v
    v'.id = v.id ∧ v'.erfasst = v.erfasst ∧ ∀ art, v'.aktuell.wert art =
      if art ∈ l then (gelesen.werte v.id art).max?.getD (v.aktuell.wert art) else v.aktuell.wert art := by
  induction l generalizing v with
  | nil => exact ⟨rfl, rfl, fun art => by simp⟩
  | cons first rest ih =>
    obtain ⟨id, erfasst, wert⟩ := ih (recomputeZaehlerstand gelesen first v)
    have flags : (recomputeZaehlerstand gelesen first v).erfasst = v.erfasst := by
      unfold recomputeZaehlerstand
      split <;> rfl
    refine ⟨id.trans (recompute_id gelesen first v), erfasst.trans flags, fun art => ?_⟩
    rw [List.foldl_cons, wert, recompute_id, recompute_wert]
    by_cases later : art ∈ rest
    · rw [if_pos later, if_pos (List.mem_cons_of_mem _ later)]
      split
      · next same =>
        subst same
        cases (gelesen.werte v.id art).max? <;> rfl
      · rfl
    · rw [if_neg later]
      by_cases same : art = first
      · rw [if_pos same, if_pos (same ▸ List.mem_cons_self ..), same]
      · rw [if_neg same, if_neg (List.not_mem_cons_of_ne_of_not_mem same later)]

end Recompute

structure Db.Geformt (db : Db) : Prop where
  fahrzeuge : (db.fahrzeuge.map (·.id)).Nodup
  fahrten : (db.fahrten.map (·.id)).Nodup
  vergeben : ∀ f ∈ db.fahrten, f.id ≤ db.vergeben
  erfasst : ∀ f ∈ db.fahrten, ∀ v ∈ db.fahrzeuge, v.id = f.fahrzeugId → ∀ art w, f.neu.wert art = some w →
    v.erfasst.wert art = true

def Db.Stimmt (start : Nat → Art → ℚ) (db : Db) : Prop :=
  ∀ v ∈ db.fahrzeuge, ∀ art, Stand (db.werte v.id art) (start v.id art) (v.aktuell.wert art)

section RecomputeAlle

variable {db gelesen : Db} {ids : List Nat} {welche : VehicleMaster → Art → Bool}

theorem mem_recomputeAlle {v' : VehicleMaster} (member : v' ∈ (recomputeAlle gelesen ids welche db).fahrzeuge) :
    ∃ v ∈ db.fahrzeuge, v'.id = v.id ∧ v'.erfasst = v.erfasst ∧ ∀ art, v'.aktuell.wert art =
      if v.id ∈ ids ∧ welche v art = true then (gelesen.werte v.id art).max?.getD (v.aktuell.wert art)
      else v.aktuell.wert art := by
  obtain ⟨v, old, rfl⟩ := mem_update.mp member
  refine ⟨v, old, ?_⟩
  split
  · next hit =>
    obtain ⟨id, erfasst, wert⟩ := recompute_foldl gelesen (arten.filter (welche v)) v
    refine ⟨id, erfasst, fun art => ?_⟩
    have inside : v.id ∈ ids := List.contains_iff_mem.mp hit
    have every : art ∈ arten := by cases art <;> decide
    rw [wert]
    simp only [List.mem_filter, every, true_and, inside]
  · next missed =>
    refine ⟨rfl, rfl, fun art => ?_⟩
    have outside : v.id ∉ ids := fun inside => missed (List.contains_iff_mem.mpr inside)
    rw [if_neg fun both => outside both.1]

theorem recomputeAlle_ids : (recomputeAlle gelesen ids welche db).fahrzeuge.map (·.id) = db.fahrzeuge.map (·.id) :=
  map_update (fun v => (recompute_foldl gelesen (arten.filter (welche v)) v).1) _

theorem Db.Geformt.recomputeAlle (geformt : db.Geformt) : (recomputeAlle gelesen ids welche db).Geformt := by
  refine ⟨?_, geformt.fahrten, geformt.vergeben, fun f isTrip v' member same art w given_ => ?_⟩
  · rw [recomputeAlle_ids]
    exact geformt.fahrzeuge
  · obtain ⟨v, old, id, erfasst, -⟩ := mem_recomputeAlle member
    rw [erfasst]
    exact geformt.erfasst f isTrip v old (id.symm.trans same) art w given_

/-- The law after some counters have been recomputed and the trips `fahrten`
are what is left in the end. -/
theorem Db.Stimmt.recomputeAlle {start : Nat → Art → ℚ} {db' : Db} (stimmt : db.Stimmt start)
    (fahrzeuge : db'.fahrzeuge = (Fahrtenbuch.recomputeAlle gelesen ids welche db).fahrzeuge)
    (neu : ∀ v ∈ db.fahrzeuge, ∀ art, v.id ∈ ids → welche v art = true →
      (∀ w ∈ db'.werte v.id art, w ∈ gelesen.werte v.id art) ∧
      (∀ w ∈ gelesen.werte v.id art, ∃ w' ∈ db'.werte v.id art, w ≤ w') ∧
      (gelesen.werte v.id art = [] → db.werte v.id art = []))
    (alt : ∀ v ∈ db.fahrzeuge, ∀ art, ¬ (v.id ∈ ids ∧ welche v art = true) →
      ∀ w, w ∈ db'.werte v.id art ↔ w ∈ db.werte v.id art) : db'.Stimmt start := by
  intro v' member art
  rw [fahrzeuge] at member
  obtain ⟨v, old, id, -, wert⟩ := mem_recomputeAlle member
  rw [id, wert]
  split
  · next hit =>
    obtain ⟨sub, ueberboten, leer⟩ := neu v old art hit.1 hit.2
    exact (stimmt v old art).gelesen sub ueberboten leer
  · next missed => exact (stimmt v old art).congr (alt v old art missed)

end RecomputeAlle

theorem Db.Geformt.setFahrt {db : Db} (geformt : db.Geformt) (id : Nat) {f : Fahrt → Fahrt}
    (keeps : ∀ row, (f row).id = row.id ∧ (f row).fahrzeugId = row.fahrzeugId ∧ (f row).neu = row.neu) :
    (db.setFahrt id f).Geformt := by
  have rows : ∀ f' ∈ (db.setFahrt id f).fahrten, ∃ g ∈ db.fahrten, f'.id = g.id ∧ f'.fahrzeugId = g.fahrzeugId ∧
      f'.neu = g.neu := by
    intro f' member
    obtain ⟨g, old, rfl⟩ := mem_update.mp member
    refine ⟨g, old, ?_⟩
    split
    · exact keeps g
    · exact ⟨rfl, rfl, rfl⟩
  refine ⟨geformt.fahrzeuge, ?_, fun f' member => ?_, fun f' member v isVehicle same art w given_ => ?_⟩
  · rw [Db.setFahrt, map_update fun row => (keeps row).1]
    exact geformt.fahrten
  · obtain ⟨g, old, id, -⟩ := rows f' member
    rw [id]
    exact geformt.vergeben g old
  · obtain ⟨g, old, -, vehicle, neu⟩ := rows f' member
    exact geformt.erfasst g old v isVehicle (same.trans vehicle) art w (neu ▸ given_)

theorem mem_arten (art : Art) : art ∈ arten := by cases art <;> decide

section Aktionen

variable {start : Nat → Art → ℚ} {db db' : Db} {jetzt : Zeit} {daten : Daten} {fahrt : Fahrt}

/-- What `erstelle_fahrt` checks and writes. -/
theorem erstelleFahrt_ok (ok : erstelleFahrt jetzt db daten = .ok (fahrt, db')) :
    ∃ v, db.fahrzeug? daten.fahrzeugId = some v ∧ (∀ art, ∃ delta, zaehlerDelta v daten art = .ok delta) ∧
      fahrt.id = db.vergeben + 1 ∧ fahrt.fahrzeugId = daten.fahrzeugId ∧ fahrt.neu = daten.neu ∧ fahrt.status = .aktiv ∧
      ∃ aktuell : Zaehler ℚ, (∀ art, aktuell.wert art = zaehlerNach v daten art) ∧ db' = { db with
        fahrten := db.fahrten ++ [fahrt]
        vergeben := db.vergeben + 1
        fahrzeuge := update (fun f => f.id == v.id) (fun f => { f with aktuell }) db.fahrzeuge } := by
  simp only [erstelleFahrt, bind_eq_ok, pure_eq_ok, demand_eq_ok, require_eq_ok, Prod.mk.injEq] at ok
  obtain ⟨v, found, zweck, -, -, -, -, -, km, isKm, bh, isBh, seilwinde, isSeilwinde, rfl, rfl⟩ := ok
  refine ⟨v, found, fun art => ?_, rfl, rfl, rfl, rfl, _, fun art => ?_, rfl⟩
  · cases art with
    | km => exact ⟨km, isKm⟩
    | bh => exact ⟨bh, isBh⟩
    | seilwindeBh => exact ⟨seilwinde, isSeilwinde⟩
  · cases art <;> rfl

theorem zaehlerDelta_ok {v : VehicleMaster} {art : Art} {delta : Option ℚ} (ok : zaehlerDelta v daten art = .ok delta)
    (erfasst : v.erfasst.wert art = true) {w : ℚ} (given_ : daten.neu.wert art = some w) :
    (daten.referenz.wert art).getD (v.aktuell.wert art) ≤ w := by
  simp only [zaehlerDelta, erfasst, given_, pruefeZaehler, bind_eq_ok, require_eq_ok] at ok
  obtain ⟨-, ⟨-, above, -⟩, -⟩ := ok
  exact above

theorem fahrzeug?_mem {id : Nat} {v : VehicleMaster} (found : db.fahrzeug? id = some v) : v ∈ db.fahrzeuge ∧ v.id = id :=
  ⟨List.mem_of_find?_eq_some found, by simpa using List.find?_some found⟩

def Gefuehrt (db : Db) (daten : Daten) : Prop :=
  ∀ v ∈ db.fahrzeug? daten.fahrzeugId, ∀ art ∈ arten, ∀ w ∈ daten.neu.wert art, v.erfasst.wert art = true

theorem Db.Geformt.erstelle (geformt : db.Geformt) (gefuehrt : Gefuehrt db daten)
    (ok : erstelleFahrt jetzt db daten = .ok (fahrt, db')) : db'.Geformt := by
  obtain ⟨v, found, -, id, vehicle, neu, -, aktuell, -, rfl⟩ := erstelleFahrt_ok ok
  obtain ⟨isVehicle, isId⟩ := fahrzeug?_mem found
  refine ⟨?_, ?_, fun f member => ?_, fun f member v' member' same art w given_ => ?_⟩
  · have ids : (update (fun f => f.id == v.id) (fun f => { f with aktuell }) db.fahrzeuge).map (·.id) =
        db.fahrzeuge.map (·.id) := by
      apply map_update
      intro
      rfl
    exact ids ▸ geformt.fahrzeuge
  · rw [List.map_append, List.map_singleton]
    refine List.nodup_append'.mpr ⟨geformt.fahrten, List.nodup_singleton _, ?_⟩
    rw [List.disjoint_singleton]
    intro inside
    obtain ⟨f, member, same⟩ := List.mem_map.mp inside
    have below := geformt.vergeben f member
    omega
  · rcases List.mem_append.mp member with old | new
    · exact Nat.le_succ_of_le (geformt.vergeben f old)
    · rw [List.mem_singleton.mp new, id]
  · obtain ⟨v'', old', rfl⟩ := mem_update.mp member'
    have flags : (if v''.id == v.id then { v'' with aktuell } else v'').erfasst = v''.erfasst := by split <;> rfl
    have ids : (if v''.id == v.id then { v'' with aktuell } else v'').id = v''.id := by split <;> rfl
    rw [flags]
    rw [ids] at same
    rcases List.mem_append.mp member with old | new
    · exact geformt.erfasst f old v'' old' same art w given_
    · obtain rfl := List.mem_singleton.mp new
      have atVehicle : v''.id = v.id := by rw [same, vehicle, isId]
      obtain rfl := List.inj_on_of_nodup_map geformt.fahrzeuge old' isVehicle atVehicle
      exact gefuehrt v'' found art (mem_arten art) w (neu ▸ given_)

theorem mem_werte_append {fahrzeugId : Nat} {art : Art} {w : ℚ} (status : fahrt.status = .aktiv)
    (fahrten : db'.fahrten = db.fahrten ++ [fahrt]) :
    w ∈ db'.werte fahrzeugId art ↔
      w ∈ db.werte fahrzeugId art ∨ fahrt.fahrzeugId = fahrzeugId ∧ fahrt.neu.wert art = some w := by
  rw [mem_werte, mem_werte, fahrten]
  constructor
  · rintro ⟨f, member, vehicle, aktiv, given_⟩
    rcases List.mem_append.mp member with old | new
    · exact Or.inl ⟨f, old, vehicle, aktiv, given_⟩
    · obtain rfl := List.mem_singleton.mp new
      exact Or.inr ⟨vehicle, given_⟩
  · rintro (⟨f, old, found⟩ | ⟨vehicle, given_⟩)
    · exact ⟨f, List.mem_append_left _ old, found⟩
    · exact ⟨fahrt, List.mem_append_right _ (List.mem_singleton_self _), vehicle, status, given_⟩

theorem Stand.angehaengt {alt neu : List ℚ} {anfang stand w : ℚ} (held : Stand alt anfang stand) (above : stand ≤ w)
    (same : ∀ w', w' ∈ neu ↔ w' ∈ alt ∨ w' = w) : Stand neu anfang w := by
  refine Or.inl ⟨(same w).mpr (Or.inr rfl), fun w' member => ?_⟩
  rcases (same w').mp member with old | rfl
  · rcases held with ⟨-, largest⟩ | ⟨none, -⟩
    · exact (largest w' old).trans above
    · rw [none] at old
      cases old
  · exact le_refl _

theorem erstelle_stimmt (geformt : db.Geformt) (stimmt : db.Stimmt start) (gefuehrt : Gefuehrt db daten)
    (neuFahrt : daten.istKorrektur = false) (referenz : ∀ art ∈ arten, daten.referenz.wert art = none)
    (ok : erstelleFahrt jetzt db daten = .ok (fahrt, db')) : db'.Stimmt start := by
  obtain ⟨v, found, deltas, -, vehicle, neu, status, aktuell, nach, rfl⟩ := erstelleFahrt_ok ok
  obtain ⟨isVehicle, isId⟩ := fahrzeug?_mem found
  intro v' member art
  obtain ⟨v'', old, rfl⟩ := mem_update.mp member
  split
  · next hit =>
    obtain rfl := List.inj_on_of_nodup_map geformt.fahrzeuge old isVehicle (beq_iff_eq.mp hit)
    have before := stimmt v'' old art
    have values : ∀ w, w ∈ Db.werte { db with fahrten := db.fahrten ++ [fahrt] } v''.id art ↔
        w ∈ db.werte v''.id art ∨ fahrt.fahrzeugId = v''.id ∧ fahrt.neu.wert art = some w :=
      fun w => mem_werte_append status rfl
    show Stand (Db.werte { db with fahrten := db.fahrten ++ [fahrt] } v''.id art) _ (aktuell.wert art)
    rw [nach, zaehlerNach]
    cases given_ : daten.neu.wert art with
    | none =>
      refine Stand.congr (by split <;> simp_all) fun w => (values w).trans (or_iff_left fun new => ?_)
      rw [neu, given_] at new
      cases new.2
    | some w =>
      have tracked := gefuehrt v'' found art (mem_arten art) w given_
      obtain ⟨delta, checked⟩ := deltas art
      have above := zaehlerDelta_ok checked tracked given_
      rw [referenz art (mem_arten art), Option.getD_none] at above
      simp only [tracked, neuFahrt, Bool.false_eq_true, if_false]
      refine before.angehaengt above fun w' => (values w').trans (or_congr_right ?_)
      rw [vehicle, isId, neu, given_, Option.some.injEq]
      exact ⟨fun new => new.2.symm, fun same => ⟨rfl, same.symm⟩⟩
  · next missed =>
    refine (stimmt v'' old art).congr fun w => ?_
    refine (mem_werte_append status rfl).trans (or_iff_left fun new => missed ?_)
    rw [beq_iff_eq, ← new.1, vehicle, isId]

theorem erstelle_korrektur (geformt : db.Geformt) (korrektur : daten.istKorrektur = true)
    (ok : erstelleFahrt jetzt db daten = .ok (fahrt, db')) : db'.fahrzeuge = db.fahrzeuge := by
  obtain ⟨v, found, -, -, -, -, -, aktuell, nach, rfl⟩ := erstelleFahrt_ok ok
  have kept : ∀ art, aktuell.wert art = v.aktuell.wert art := by
    intro art
    rw [nach, zaehlerNach]
    split
    · exact if_pos korrektur
    · rfl
  have same : aktuell = v.aktuell := by
    obtain ⟨km, bh, seilwinde⟩ := aktuell
    obtain ⟨id, dept, erfasst, ⟨km', bh', seilwinde'⟩, warnKm, warnBh⟩ := v
    have atKm := kept .km
    have atBh := kept .bh
    have atSeilwinde := kept .seilwindeBh
    simp only [Zaehler.wert] at atKm atBh atSeilwinde
    rw [atKm, atBh, atSeilwinde]
  refine (List.map_congr_left fun v' member => ?_).trans (List.map_id _)
  split
  · next hit =>
    obtain rfl := List.inj_on_of_nodup_map geformt.fahrzeuge member (fahrzeug?_mem found).1 (beq_iff_eq.mp hit)
    rw [same]
    rfl
  · rfl

end Aktionen

/-- A value of an active trip other than `ohne`. -/
def Db.Uebrig (db : Db) (ohne fahrzeugId : Nat) (art : Art) (w : ℚ) : Prop :=
  ∃ f ∈ db.fahrten, f.id ≠ ohne ∧ f.fahrzeugId = fahrzeugId ∧ f.status = .aktiv ∧ f.neu.wert art = some w

section Uebrig

variable {db : Db} {id ohne fahrzeugId : Nat} {art : Art} {w : ℚ} {f : Fahrt → Fahrt}

theorem mem_werte_beendet (ended : ∀ row, (f row).status ≠ .aktiv) :
    w ∈ (db.setFahrt id f).werte fahrzeugId art ↔ db.Uebrig id fahrzeugId art w := by
  rw [mem_werte]
  constructor
  · rintro ⟨f', member, found⟩
    obtain ⟨row, old, rfl⟩ := mem_update.mp member
    split at found
    · exact absurd found.2.1 (ended row)
    · next missed => exact ⟨row, old, fun same => missed (beq_iff_eq.mpr same), found⟩
  · rintro ⟨row, old, other, found⟩
    exact ⟨row, mem_update_of_false old (beq_eq_false_iff_ne.mpr other), found⟩

theorem uebrig_setFahrt (keeps : ∀ row, (f row).id = row.id ∧ (f row).fahrzeugId = row.fahrzeugId ∧
    (f row).status = row.status ∧ (f row).neu = row.neu) :
    (db.setFahrt id f).Uebrig ohne fahrzeugId art w ↔ db.Uebrig ohne fahrzeugId art w := by
  have kept : ∀ row, let row' := if row.id == id then f row else row
      row'.id = row.id ∧ row'.fahrzeugId = row.fahrzeugId ∧ row'.status = row.status ∧ row'.neu = row.neu := by
    intro row
    dsimp only
    split
    · exact keeps row
    · exact ⟨rfl, rfl, rfl, rfl⟩
  constructor
  · rintro ⟨f', member, found⟩
    obtain ⟨row, old, rfl⟩ := mem_update.mp member
    obtain ⟨ids, vehicle, status, neu⟩ := kept row
    rw [ids, vehicle, status, neu] at found
    exact ⟨row, old, found⟩
  · rintro ⟨row, old, found⟩
    obtain ⟨ids, vehicle, status, neu⟩ := kept row
    refine ⟨_, mem_update.mpr ⟨row, old, rfl⟩, ?_⟩
    rw [ids, vehicle, status, neu]
    exact found

theorem werte_geteilt {trip : Fahrt} (geformt : db.Geformt) (isTrip : trip ∈ db.fahrten)
    (member : w ∈ db.werte fahrzeugId art) :
    db.Uebrig trip.id fahrzeugId art w ∨ trip.fahrzeugId = fahrzeugId ∧ trip.status = .aktiv ∧ trip.neu.wert art = some w := by
  obtain ⟨f, inside, found⟩ := mem_werte.mp member
  by_cases same : f.id = trip.id
  · rw [List.inj_on_of_nodup_map geformt.fahrten inside isTrip same] at found
    exact Or.inr found
  · exact Or.inl ⟨f, inside, same, found⟩

theorem Db.Uebrig.mem (uebrig : db.Uebrig ohne fahrzeugId art w) : w ∈ db.werte fahrzeugId art := by
  obtain ⟨f, member, -, found⟩ := uebrig
  exact mem_werte.mpr ⟨f, member, found⟩

end Uebrig

def Gedeckt (db : Db) (fahrt : Fahrt) (art : Art) (w : ℚ) : Prop :=
  ∃ f ∈ db.fahrten, f.id ≠ fahrt.id ∧ f.fahrzeugId = fahrt.fahrzeugId ∧ f.status = .aktiv ∧
    ∃ w' ∈ f.neu.wert art, w ≤ w'

/-- The requests after which the counters are right: a trip is entered with
counters the vehicle tracks; one that is cancelled or replaced does not hold
the highest counter; one that is deleted is not the last that gives it. -/
def Zulaessig (db : Db) : Zeit × Aktion → Prop
  | (_, .erstelle daten) =>
    Gefuehrt db daten ∧ daten.istKorrektur = false ∧ ∀ art ∈ arten, daten.referenz.wert art = none
  | (_, .storniere fahrtId _ _) =>
    ∀ fahrt ∈ db.fahrten.find? (fun f => f.id == fahrtId), fahrt.status = .aktiv →
      ∀ art ∈ arten, ∀ w ∈ fahrt.neu.wert art, Gedeckt db fahrt art w
  | (_, .korrigiere fahrtId daten _) =>
    Gefuehrt db daten ∧ ∀ fahrt ∈ db.fahrten.find? (fun f => f.id == fahrtId), fahrt.status = .aktiv →
      ∀ art ∈ arten, ∀ w ∈ fahrt.neu.wert art,
        Gedeckt db fahrt art w ∨ daten.fahrzeugId = fahrt.fahrzeugId ∧ ∃ w' ∈ daten.neu.wert art, w ≤ w'
  | (_, .loesche ids orgId) =>
    ∀ f ∈ db.fahrten, (ids.contains f.id && f.orgId == orgId) = true → f.status = .aktiv →
      ∀ art ∈ arten, (f.neu.wert art).isSome →
        ∃ g ∈ db.fahrten, (ids.contains g.id && g.orgId == orgId) = false ∧ g.fahrzeugId = f.fahrzeugId ∧
          g.status = .aktiv ∧ (g.neu.wert art).isSome

instance (db : Db) (anfrage : Zeit × Aktion) : Decidable (Zulaessig db anfrage) := by
  unfold Zulaessig Gefuehrt Gedeckt
  split <;> infer_instance

section Schritte

variable {start : Nat → Art → ℚ} {db db' : Db} {jetzt : Zeit}

section

variable (geformt : db.Geformt) (stimmt : db.Stimmt start)
include geformt stimmt

theorem storniere_stimmt {fahrtId userId : Nat} {grund : String}
    (zulaessig : Zulaessig db (jetzt, .storniere fahrtId grund userId))
    (ok : storniereFahrt db fahrtId grund userId = .ok db') : db'.Geformt ∧ db'.Stimmt start := by
  simp only [storniereFahrt, bind_eq_ok, pure_eq_ok, demand_eq_ok] at ok
  obtain ⟨fahrt, found, same⟩ := ok
  have isTrip := List.mem_of_find?_eq_some found
  have beendet : ∀ fahrzeugId art w, w ∈ db'.werte fahrzeugId art ↔ db.Uebrig fahrt.id fahrzeugId art w := by
    intro fahrzeugId art w
    rw [← same]
    exact mem_werte_beendet fun _ => by simp
  refine ⟨same ▸ geformt.recomputeAlle.setFahrt _ fun _ => ⟨rfl, rfl, rfl⟩,
    stimmt.recomputeAlle (congrArg (·.fahrzeuge) same.symm) ?_ ?_⟩
  · intro v isVehicle art hit _
    refine ⟨fun w member => ((beendet _ _ _).mp member).mem, fun w member => ?_, fun none => none⟩
    rcases werte_geteilt geformt isTrip member with other | ⟨vehicle, aktiv, given_⟩
    · exact ⟨w, (beendet _ _ _).mpr other, le_refl w⟩
    · obtain ⟨f, inside, other, atVehicle, isActive, w', given', above⟩ :=
        zulaessig fahrt found aktiv art (mem_arten art) w given_
      exact ⟨w', (beendet _ _ _).mpr ⟨f, inside, other, atVehicle.trans vehicle, isActive, given'⟩, above⟩
  · intro v isVehicle art missed w
    rw [beendet]
    refine ⟨Db.Uebrig.mem, fun member => ?_⟩
    rcases werte_geteilt geformt isTrip member with other | ⟨vehicle, -⟩
    · exact other
    · exact absurd ⟨vehicle ▸ List.mem_singleton_self _, rfl⟩ missed

theorem korrigiere_stimmt {fahrtId userId : Nat} {daten : Daten}
    (zulaessig : Zulaessig db (jetzt, .korrigiere fahrtId daten userId))
    (ok : korrigiereFahrt jetzt db fahrtId daten userId = .ok db') : db'.Geformt ∧ db'.Stimmt start := by
  simp only [korrigiereFahrt, bind_eq_ok, pure_eq_ok, demand_eq_ok] at ok
  obtain ⟨original, found, ⟨neue, geflusht⟩, erstellt, same⟩ := ok
  have isTrip := List.mem_of_find?_eq_some found
  obtain ⟨gefuehrt, behalten⟩ := zulaessig
  have geformt' : geflusht.Geformt := by
    refine geformt.erstelle ?_ erstellt
    exact gefuehrt
  have fahrzeuge : geflusht.fahrzeuge = db.fahrzeuge := erstelle_korrektur geformt rfl erstellt
  obtain ⟨_, -, -, id, vehicle, neu, status, aktuell, -, isGeflusht⟩ := erstelleFahrt_ok erstellt
  have fahrten : geflusht.fahrten = db.fahrten ++ [neue] := by rw [isGeflusht]
  have werte : ∀ fahrzeugId art w, w ∈ geflusht.werte fahrzeugId art ↔
      w ∈ db.werte fahrzeugId art ∨ neue.fahrzeugId = fahrzeugId ∧ neue.neu.wert art = some w :=
    fun _ _ _ => mem_werte_append status fahrten
  have old : original ∈ geflusht.fahrten := fahrten ▸ List.mem_append_left _ isTrip
  have new : neue ∈ geflusht.fahrten := fahrten ▸ List.mem_append_right _ (List.mem_singleton_self _)
  have differs : neue.id ≠ original.id := by
    have below := geformt.vergeben original isTrip
    omega
  have beendet : ∀ fahrzeugId art w, w ∈ db'.werte fahrzeugId art ↔ geflusht.Uebrig original.id fahrzeugId art w := by
    intro fahrzeugId art w
    rw [← same]
    refine (mem_werte_beendet fun _ => by simp).trans ?_
    exact uebrig_setFahrt fun _ => ⟨rfl, rfl, rfl, rfl⟩
  have recomputed : db'.fahrzeuge =
      (recomputeAlle geflusht [original.fahrzeugId, neue.fahrzeugId] (·.erfasst.wert ·) db).fahrzeuge := by
    rw [← same]
    show update _ _ geflusht.fahrzeuge = update _ _ db.fahrzeuge
    rw [fahrzeuge]
  refine ⟨?_, stimmt.recomputeAlle recomputed ?_ ?_⟩
  · rw [← same]
    refine (geformt'.recomputeAlle.setFahrt _ ?_).setFahrt _ ?_ <;> exact fun _ => ⟨rfl, rfl, rfl⟩
  · intro v isVehicle art _ tracked
    refine ⟨fun w member => ((beendet _ _ _).mp member).mem, fun w member => ?_, fun none => ?_⟩
    · rcases werte_geteilt geformt' old member with other | ⟨atVehicle, aktiv, given_⟩
      · exact ⟨w, (beendet _ _ _).mpr other, le_refl w⟩
      · rcases behalten original found aktiv art (mem_arten art) w given_ with
          ⟨f, inside, other, same', isActive, w', given', above⟩ | ⟨same', w', given', above⟩
        · refine ⟨w', (beendet _ _ _).mpr ⟨f, ?_, other, same'.trans atVehicle, isActive, given'⟩, above⟩
          exact fahrten ▸ List.mem_append_left _ inside
        · refine ⟨w', (beendet _ _ _).mpr ⟨neue, new, differs, ?_, status, ?_⟩, above⟩
          · exact vehicle.trans (same'.trans atVehicle)
          · exact neu ▸ given'
    · refine List.eq_nil_iff_forall_not_mem.mpr fun w member => ?_
      have read := (werte v.id art w).mpr (Or.inl member)
      rw [none] at read
      cases read
  · intro v isVehicle art missed w
    rw [beendet]
    constructor
    · intro uebrig
      rcases (werte v.id art w).mp uebrig.mem with before | ⟨atVehicle, given_⟩
      · exact before
      · refine absurd ⟨?_, ?_⟩ missed
        · simp [atVehicle]
        · exact geformt'.erfasst neue new v (fahrzeuge ▸ isVehicle) atVehicle.symm art w given_
    · intro before
      rcases werte_geteilt geformt' old ((werte v.id art w).mpr (Or.inl before)) with other | ⟨atVehicle, -, given_⟩
      · exact other
      · refine absurd ⟨?_, ?_⟩ missed
        · simp [atVehicle]
        · exact geformt.erfasst original isTrip v isVehicle atVehicle.symm art w given_

theorem loesche_stimmt {ids : List Nat} {orgId : Nat}
    (zulaessig : Zulaessig db (jetzt, .loesche ids orgId)) :
    (loescheFahrten db ids orgId).Geformt ∧ (loescheFahrten db ids orgId).Stimmt start := by
  have left : ∀ fahrzeugId art w, w ∈ (loescheFahrten db ids orgId).werte fahrzeugId art ↔
      ∃ f ∈ db.fahrten, (ids.contains f.id && f.orgId == orgId) = false ∧ f.fahrzeugId = fahrzeugId ∧
        f.status = .aktiv ∧ f.neu.wert art = some w := by
    intro fahrzeugId art w
    rw [mem_werte]
    simp only [loescheFahrten, recomputeAlle, List.mem_filter, Bool.not_eq_true', and_assoc]
  constructor
  · refine Db.Geformt.recomputeAlle ⟨geformt.fahrzeuge, ?_, fun f member => ?_, fun f member => ?_⟩
    · exact (List.filter_sublist.map _).nodup geformt.fahrten
    · exact geformt.vergeben f (List.mem_of_mem_filter member)
    · exact geformt.erfasst f (List.mem_of_mem_filter member)
  · refine stimmt.recomputeAlle rfl ?_ ?_
    · intro v isVehicle art _ _
      refine ⟨fun w member => member, fun w member => ⟨w, member, le_refl w⟩, fun none => ?_⟩
      refine List.eq_nil_iff_forall_not_mem.mpr fun w member => ?_
      obtain ⟨f, isTrip, vehicle, aktiv, given_⟩ := mem_werte.mp member
      have gone : ∀ w', w' ∉ (loescheFahrten db ids orgId).werte v.id art := by
        intro w' still
        have read : w' ∈ ([] : List ℚ) := none ▸ still
        cases read
      cases hit : ids.contains f.id && f.orgId == orgId with
      | false => exact gone w ((left _ _ _).mpr ⟨f, isTrip, hit, vehicle, aktiv, given_⟩)
      | true =>
        obtain ⟨g, isTrip', kept, vehicle', aktiv', some_⟩ :=
          zulaessig f isTrip hit aktiv art (mem_arten art) (by rw [given_]; rfl)
        obtain ⟨w', given'⟩ := Option.isSome_iff_exists.mp some_
        exact gone w' ((left _ _ _).mpr ⟨g, isTrip', kept, vehicle'.trans vehicle, aktiv', given'⟩)
    · intro v isVehicle art missed w
      rw [left, mem_werte]
      constructor
      · rintro ⟨f, isTrip, -, found⟩
        exact ⟨f, isTrip, found⟩
      · rintro ⟨f, isTrip, vehicle, found⟩
        refine ⟨f, isTrip, ?_, vehicle, found⟩
        rw [← Bool.not_eq_true]
        intro hit
        refine missed ⟨?_, rfl⟩
        exact List.mem_map.mpr ⟨f, List.mem_filter.mpr ⟨isTrip, hit⟩, vehicle⟩

end

theorem step_stimmt {anfrage : Zeit × Aktion} (held : db.Geformt ∧ db.Stimmt start) (zulaessig : Zulaessig db anfrage) :
    (step db anfrage).Geformt ∧ (step db anfrage).Stimmt start := by
  obtain ⟨jetzt, aktion⟩ := anfrage
  unfold step
  split
  · next db' ok =>
    cases aktion with
    | erstelle daten =>
      obtain ⟨⟨fahrt, geflusht⟩, erstellt, rfl⟩ := map_eq_ok.mp ok
      obtain ⟨gefuehrt, neu, referenz⟩ := zulaessig
      exact ⟨held.1.erstelle gefuehrt erstellt, erstelle_stimmt held.1 held.2 gefuehrt neu referenz erstellt⟩
    | storniere fahrtId grund userId => exact storniere_stimmt held.1 held.2 zulaessig ok
    | korrigiere fahrtId daten userId => exact korrigiere_stimmt held.1 held.2 zulaessig ok
    | loesche ids orgId =>
      cases ok
      exact loesche_stimmt held.1 held.2 zulaessig
  · exact held

end Schritte

def Db.anzeige (db : Db) (fahrzeugId : Nat) (art : Art) : ℚ :=
  ((db.fahrzeug? fahrzeugId).map (·.aktuell.wert art)).getD 0

/-- Over every run of admissible requests each counter of each vehicle is the
largest of its active trips, or where it started while there are none. -/
theorem zaehlerstand_stimmt (db : Db) (eindeutig : (db.fahrzeuge.map (·.id)).Nodup) (leer : db.fahrten = [])
    (anfragen : List (Zeit × Aktion)) (zulaessig : Meets step Zulaessig db anfragen) :
    let db' := run step db anfragen
    ∀ v ∈ db'.fahrzeuge, ∀ art, Stand (db'.werte v.id art) (db.anzeige v.id art) (v.aktuell.wert art) := by
  intro db'
  have geformt : db.Geformt := by
    refine ⟨eindeutig, ?_, ?_, ?_⟩ <;> rw [leer]
    · exact List.nodup_nil
    · exact List.forall_mem_nil _
    · exact List.forall_mem_nil _
  have stimmt : db.Stimmt db.anzeige := by
    intro v member art
    refine Or.inr ⟨by rw [Db.werte, leer]; rfl, ?_⟩
    have found : db.fahrzeug? v.id = some v := find?_key VehicleMaster.id eindeutig member
    rw [Db.anzeige, found]
    rfl
  exact (run_induction (fun db' => db'.Geformt ∧ db'.Stimmt db.anzeige) (fun _ _ held ok => step_stimmt held ok)
    ⟨geformt, stimmt⟩ zulaessig).2

def tank : VehicleMaster := { id := 1, deptId := 1, erfasst := ⟨true, false, false⟩, aktuell := ⟨1000, 0, 0⟩ }

def fahre (jetzt : Zeit) (km : ℚ) : Zeit × Aktion :=
  (jetzt, .erstelle {
    orgId := 1, fahrzeugId := 1, zweck := some .uebung, neu := ⟨some km, none, none⟩, doppelfahrtBestaetigt := true })

/-- Two trips are entered, the earlier one is cancelled. -/
theorem zaehlerstand_stimmt_tank :
    let db := run step { fahrzeuge := [tank] } [fahre 0 1010, fahre 1 1020, (2, .storniere 1 "doppelt" 7)]
    db.fahrten.map (·.status) = [.storniert, .aktiv] ∧
      ∀ v ∈ db.fahrzeuge, ∀ art, Stand (db.werte v.id art) (Db.anzeige { fahrzeuge := [tank] } v.id art)
        (v.aktuell.wert art) := by
  refine ⟨by decide +kernel, ?_⟩
  exact zaehlerstand_stimmt { fahrzeuge := [tank] } (List.nodup_singleton _) rfl _ (by decide +kernel)

/-- The later of two trips is cancelled: the counter stays at its value. -/
theorem zaehlerstand_verfehlt :
    let db := run step { fahrzeuge := [tank] } [fahre 0 1010, fahre 1 1020, (2, .storniere 2 "doppelt" 7)]
    db.fahrten.map (fun f => (f.status, f.neu.km)) = [(.aktiv, some 1010), (.storniert, some 1020)] ∧
      db.fahrzeuge.map (·.aktuell.km) = [1020] := by
  decide +kernel

end Einsatzcockpit.Fahrtenbuch
