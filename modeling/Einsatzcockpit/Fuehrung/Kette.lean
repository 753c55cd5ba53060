import Einsatzcockpit.Lib.Run
import Einsatzcockpit.Lib.EventLog
import Einsatzcockpit.Fuehrung.Zuweisung

namespace Einsatzcockpit.Fuehrung

open Raising Relational Transition

def zeilen (db : Bestand) (einheitId : Nat) (rolle : Rolle) : List LageEinheitLeader :=
  db.leaders.filter fun l => l.einheitId == einheitId && l.rolle == rolle

def inhaber (db : Bestand) (einheitId : Nat) (rolle : Rolle) : Option LageEinheitLeader :=
  (zeilen db einheitId rolle).find? (·.endAt.isNone)

/-- A record after the one before: it names the one it has replaced, and none after a removal. -/
structure Folgt (a b : LageEinheitLeader) : Prop where
  ended : a.endAt.isSome = true
  link : (a.endeGrund = some "wechsel" ∧ a.endAt = some b.startAt ∧ b.predecessorId = some a.id) ∨
    (a.endeGrund = some "entfernt" ∧ b.predecessorId = none)

/-- The first record names none, and the last is open unless its holder was removed. -/
abbrev Kette : List LageEinheitLeader → Prop :=
  Succession Folgt (·.predecessorId = none) fun a => a.endAt.isSome = true → a.endeGrund = some "entfernt"

structure Bestand.Gueltig (db : Bestand) : Prop where
  leaders : Numbered (·.id) db.leaders
  einheiten : Numbered (·.id) db.einheiten
  bekannt : ∀ l ∈ db.leaders, l.einheitId ≤ db.einheiten.length
  kette : ∀ einheitId rolle, Kette (zeilen db einheitId rolle)
  zeiger : ∀ e ∈ db.einheiten, e.leaderAssignmentId = (inhaber db e.id .fuehrer).map (·.id)

section Zeilen

variable {db : Bestand} {l : LageEinheitLeader}

variable {einheitId : Nat} {rolle : Rolle} {f : LageEinheitLeader → LageEinheitLeader}

theorem mem_zeilen :
    l ∈ zeilen db einheitId rolle ↔ l ∈ db.leaders ∧ l.einheitId = einheitId ∧ l.rolle = rolle := by
  rw [zeilen, List.mem_filter, Bool.and_eq_true, beq_iff_eq, beq_iff_eq]

theorem inhaber_spec (found : inhaber db einheitId rolle = some l) :
    l ∈ db.leaders ∧ l.einheitId = einheitId ∧ l.rolle = rolle ∧ l.endAt = none := by
  obtain ⟨inside, ofUnit, ofRole⟩ := mem_zeilen.mp (List.mem_of_find?_eq_some found)
  exact ⟨inside, ofUnit, ofRole, by simpa using List.find?_some found⟩

theorem stellvertreter_eq (db : Bestand) (einheitId : Nat) :
    stellvertreter db einheitId = inhaber db einheitId .stellvertreter := by
  unfold stellvertreter inhaber zeilen
  rw [List.find?_filter]
  congr 1
  funext l
  exact Bool.eq_iff_iff.mpr (by simp [and_assoc])

theorem not_folgt (open_ : l.endAt = none) (b : LageEinheitLeader) : ¬ Folgt l b := by
  intro folgt
  have ended := folgt.ended
  rw [open_] at ended
  cases ended

theorem zeilen_inhaber (kette : Kette (zeilen db einheitId rolle))
    (found : inhaber db einheitId rolle = some l) : ∃ front, zeilen db einheitId rolle = front ++ [l] := by
  obtain ⟨inside, ofUnit, ofRole, open_⟩ := inhaber_spec found
  exact kette.eq_append (mem_zeilen.mpr ⟨inside, ofUnit, ofRole⟩) (not_folgt open_)

theorem inhaber_last {front : List LageEinheitLeader}
    (rows : zeilen db einheitId rolle = front ++ [l]) (kette : Succession Folgt (·.predecessorId = none) (fun _ => True) (front ++ [l])) :
    inhaber db einheitId rolle = if l.endAt.isNone then some l else none := by
  have ended : front.find? (·.endAt.isNone) = none := by
    refine List.find?_eq_none.mpr fun x member isOpen => ?_
    obtain ⟨y, folgt⟩ := kette.followed member
    exact not_folgt (Option.isNone_iff_eq_none.mp isOpen) y folgt
  rw [inhaber, rows, List.find?_append, ended, Option.none_or]
  cases isOpen : l.endAt.isNone <;> simp [isOpen]

theorem zeigtAuf_eq (gueltig : db.Gueltig) {e : LageEinheit} (member : e ∈ db.einheiten) :
    zeigtAuf db e = inhaber db e.id .fuehrer := by
  rw [zeigtAuf, gueltig.zeiger e member]
  cases found : inhaber db e.id .fuehrer with
  | none => rfl
  | some l => exact gueltig.leaders.find?_of_mem (inhaber_spec found).1

theorem gruppenkommandant_eq (gueltig : db.Gueltig) {e : LageEinheit} (member : e ∈ db.einheiten) :
    gruppenkommandant db e = inhaber db e.id .fuehrer := by
  rw [gruppenkommandant, zeigtAuf_eq gueltig member]
  cases found : inhaber db e.id .fuehrer with
  | none => rfl
  | some l =>
    obtain ⟨-, -, ofRole, open_⟩ := inhaber_spec found
    simp [ofRole, open_]

theorem zeilen_setLeader (id : Nat)
    (unit : ∀ l, (f l).einheitId = l.einheitId) (role : ∀ l, (f l).rolle = l.rolle) (einheitId : Nat) (rolle : Rolle) :
    zeilen (db.setLeader id f) einheitId rolle = update (fun l => l.id == id) f (zeilen db einheitId rolle) :=
  filter_update _ _ f db.leaders fun l _ => by rw [unit, role]

theorem zeilen_setLast (numbered : Numbered (·.id) db.leaders) {front : List LageEinheitLeader} (unit : ∀ l, (f l).einheitId = l.einheitId) (role : ∀ l, (f l).rolle = l.rolle)
    (rows : zeilen db l.einheitId l.rolle = front ++ [l]) :
    zeilen (db.setLeader l.id f) l.einheitId l.rolle = front ++ [f l] := by
  have nodup : ((zeilen db l.einheitId l.rolle).map (·.id)).Nodup := numbered.nodup.sublist (List.filter_sublist.map _)
  rw [rows, List.map_append, List.map_singleton, List.nodup_append] at nodup
  have others : update (fun x => x.id == l.id) f front = front := by
    refine update_eq_self fun x member => beq_eq_false_iff_ne.mpr fun same => ?_
    exact nodup.2.2 x.id (List.mem_map_of_mem member) l.id (List.mem_singleton_self _) same
  rw [zeilen_setLeader l.id unit role, rows, update, List.map_append, ← update, others, List.map_singleton,
    if_pos (beq_self_eq_true _)]

theorem zeilen_setOther (numbered : Numbered (·.id) db.leaders) (member : l ∈ db.leaders) (unit : ∀ l, (f l).einheitId = l.einheitId) (role : ∀ l, (f l).rolle = l.rolle) (other : einheitId ≠ l.einheitId ∨ rolle ≠ l.rolle) :
    zeilen (db.setLeader l.id f) einheitId rolle = zeilen db einheitId rolle := by
  rw [zeilen_setLeader l.id unit role]
  refine update_eq_self fun x isRow => beq_eq_false_iff_ne.mpr fun same => ?_
  obtain ⟨inside, ofUnit, ofRole⟩ := mem_zeilen.mp isRow
  rw [numbered.inj inside member same] at ofUnit ofRole
  rcases other with otherUnit | otherRole
  · exact otherUnit ofUnit.symm
  · exact otherRole ofRole.symm

theorem zeilen_addLeader (neu : LageEinheitLeader) (einheitId : Nat) (rolle : Rolle) :
    zeilen (db.addLeader neu) einheitId rolle =
      zeilen db einheitId rolle ++ if neu.einheitId = einheitId ∧ neu.rolle = rolle then [neu] else [] := by
  rw [zeilen, Bestand.addLeader, List.filter_append, List.filter_singleton, ← zeilen]
  simp [Bool.and_eq_true]

end Zeilen

structure Ersetzt (db db' : Bestand) (einheitId : Nat) (rolle : Rolle) (rows : List LageEinheitLeader) : Prop where
  einheiten : db'.einheiten = db.einheiten
  leaders : Numbered (·.id) db'.leaders
  rows : zeilen db' einheitId rolle = rows
  andere : ∀ einheitId' rolle', einheitId' ≠ einheitId ∨ rolle' ≠ rolle →
    zeilen db' einheitId' rolle' = zeilen db einheitId' rolle'

namespace Ersetzt

variable {db db' : Bestand} {l neu : LageEinheitLeader} {einheitId : Nat} {rolle : Rolle}
  {rows front : List LageEinheitLeader} {f : LageEinheitLeader → LageEinheitLeader}

theorem refl (numbered : Numbered (·.id) db.leaders) : Ersetzt db db einheitId rolle (zeilen db einheitId rolle) :=
  ⟨rfl, numbered, rfl, fun _ _ _ => rfl⟩

theorem setLast (numbered : Numbered (·.id) db.leaders) (id : ∀ l, (f l).id = l.id) (unit : ∀ l, (f l).einheitId = l.einheitId)
    (role : ∀ l, (f l).rolle = l.rolle) (last : zeilen db l.einheitId l.rolle = front ++ [l]) :
    Ersetzt db (db.setLeader l.id f) l.einheitId l.rolle (front ++ [f l]) := by
  have inside : l ∈ zeilen db l.einheitId l.rolle := last ▸ List.mem_append_right front (List.mem_singleton_self l)
  refine ⟨rfl, numbered.of_map (map_update id db.leaders), zeilen_setLast numbered unit role last, fun _ _ other => ?_⟩
  exact zeilen_setOther numbered (mem_zeilen.mp inside).1 unit role other

theorem addLeader (ersetzt : Ersetzt db db' neu.einheitId neu.rolle rows) (next : neu.id = db'.naechsteId) :
    Ersetzt db (db'.addLeader neu) neu.einheitId neu.rolle (rows ++ [neu]) := by
  refine ⟨ersetzt.einheiten, ersetzt.leaders.append next, ?_, fun einheitId' rolle' other => ?_⟩
  · rw [zeilen_addLeader, ersetzt.rows, if_pos ⟨rfl, rfl⟩]
  · rw [zeilen_addLeader, ersetzt.andere _ _ other, if_neg, List.append_nil]
    rintro ⟨rfl, rfl⟩
    exact other.elim (· rfl) (· rfl)

theorem gueltig (ersetzt : Ersetzt db db' einheitId rolle rows) (gueltig : db.Gueltig) (kette : Kette rows)
    (known : einheitId ≤ db.einheiten.length) {g : LageEinheit → LageEinheit} (id : ∀ e, (g e).id = e.id)
    (zeiger : ∀ e ∈ db.einheiten, e.id = einheitId → (g e).leaderAssignmentId = (inhaber db' einheitId .fuehrer).map (·.id)) :
    (db'.setEinheit einheitId g).Gueltig where
  leaders := ersetzt.leaders
  einheiten := by
    have same := map_update (p := fun e => e.id == einheitId) id db'.einheiten
    rw [ersetzt.einheiten] at same
    rw [Bestand.setEinheit, ersetzt.einheiten]
    exact gueltig.einheiten.of_map same
  bekannt := by
    intro l inside
    rw [Bestand.setEinheit, length_update, ersetzt.einheiten]
    by_cases same : l.einheitId = einheitId ∧ l.rolle = rolle
    · exact same.1 ▸ known
    · have other := ersetzt.andere l.einheitId l.rolle (by tauto)
      have isRow : l ∈ zeilen db' l.einheitId l.rolle := mem_zeilen.mpr ⟨inside, rfl, rfl⟩
      rw [other] at isRow
      exact gueltig.bekannt l (mem_zeilen.mp isRow).1
  kette := by
    intro einheitId' rolle'
    by_cases same : einheitId' = einheitId ∧ rolle' = rolle
    · obtain ⟨rfl, rfl⟩ := same
      exact ersetzt.rows.symm ▸ kette
    · have other := ersetzt.andere einheitId' rolle' (by tauto)
      exact other.symm ▸ gueltig.kette einheitId' rolle'
  zeiger := by
    intro e' member
    rw [Bestand.setEinheit, ersetzt.einheiten] at member
    rcases mem_update.mp member with ⟨e, inside, rfl⟩
    cases sameId : e.id == einheitId with
    | true =>
      have same := beq_iff_eq.mp sameId
      rw [if_pos rfl, id, zeiger e inside same, same]
      rfl
    | false =>
      have other := ersetzt.andere e.id .fuehrer (.inl (beq_eq_false_iff_ne.mp sameId))
      rw [if_neg Bool.false_ne_true, gueltig.zeiger e inside, inhaber, ← other]
      rfl

theorem gueltig_stellvertreter (ersetzt : Ersetzt db db' einheitId .stellvertreter rows) (gueltig : db.Gueltig) (kette : Kette rows)
    (known : einheitId ≤ db.einheiten.length) : db'.Gueltig := by
  have leaders := ersetzt.andere einheitId .fuehrer (.inr (by decide))
  have same := ersetzt.gueltig gueltig kette known (fun _ => rfl) fun e inside sameId => by
    rw [inhaber, leaders, ← inhaber, ← sameId]
    exact gueltig.zeiger e inside
  rwa [Bestand.setEinheit, update_id] at same

end Ersetzt

end Einsatzcockpit.Fuehrung
