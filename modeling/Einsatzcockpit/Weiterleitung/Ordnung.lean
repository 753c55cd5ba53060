import Einsatzcockpit.Lib.Custody
import Einsatzcockpit.Weiterleitung.Ablauf

namespace Einsatzcockpit.Weiterleitung

open Relational Transition Workers

variable (regeln : Nat → Regel) (wartezeit : Int)

def Phase.offen : Phase → List Nat
  | stapel rest | laeuft _ rest | geprueft _ rest | ergebnis _ _ _ rest => rest
  | gelesen id _ rest => id :: rest

theorem Phase.offen_sublist (phase : Phase) : phase.offen.Sublist phase.ids := by
  cases phase with
  | stapel rest | gelesen id versuche rest => exact List.Sublist.refl _
  | laeuft id rest | geprueft id rest | ergebnis id status fehlercode rest => exact List.sublist_cons_self ..

/-- The rule under which a worker may have a message accepted before anyone can
count it. -/
def Phase.unterwegs (zeilen : Keyed MailWeiterleitungLog.id) (phase : Phase) : List Nat :=
  (phase.sendet.bind fun id => (zeilen.get? id).map (·.weiterleitungId)).toList

/-- What the claim's guarantee rests on: a mail is entered once, a claim is
taken over only from a worker that is gone and before its last attempt, and a
message is counted while no other of its rule is on its way. -/
def erlaubt (w : Welt) : Schritt → Bool
  | .fuegeEin eingang _ =>
    match w.eingaenge[eingang]? with
    | some (some schluessel) => w.zeilen.rows.all fun row => row.schluessel != schluessel
    | _ => true
  | .beanspruche arbeiter logId gesperrt =>
    match w.arbeiter[arbeiter]? with
    | some (.stapel []) =>
      (gewaehlt w.uhr wartezeit logId gesperrt w.zeilen.rows).all fun id =>
        (w.zeilen.get? id).all fun row =>
          row.status == .wartend ||
            decide (row.versuche < maxVersuche) && w.arbeiter.all fun phase => !phase.ids.contains id
    | _ => true
  | .zaehle arbeiter =>
    match w.arbeiter[arbeiter]? with
    | some (.laeuft id _) =>
      (w.zeilen.get? id).all fun row => w.arbeiter.all fun phase => !(phase.unterwegs w.zeilen).contains row.weiterleitungId
    | _ => true
  | _ => true

structure Bestand (zeilen : Keyed MailWeiterleitungLog.id) (phase : Phase) : Prop where
  beansprucht : ∀ id ∈ phase.ids, ∃ row, zeilen.get? id = some row ∧ row.status = .inBearbeitung
  offen : ∀ id ∈ phase.offen, ∀ row, zeilen.get? id = some row → row.versuche < maxVersuche
  gelesen : ∀ id versuche rest, phase = .gelesen id versuche rest →
    ∀ row, zeilen.get? id = some row → row.versuche = versuche
  wartend : ∀ id fehlercode rest, phase = .ergebnis id .wartend fehlercode rest →
    ∀ row, zeilen.get? id = some row → row.versuche < maxVersuche

theorem Bestand.congr {zeilen zeilen' : Keyed MailWeiterleitungLog.id} {phase : Phase} (bestand : Bestand zeilen phase)
    (same : ∀ id ∈ phase.ids, zeilen'.get? id = zeilen.get? id) : Bestand zeilen' phase where
  beansprucht := fun id held => same id held ▸ bestand.beansprucht id held
  offen := fun id free => same id (phase.offen_sublist.subset free) ▸ bestand.offen id free
  gelesen := fun id versuche rest is => by
    subst is
    rw [same id (List.mem_cons_self ..)]
    exact bestand.gelesen id versuche rest rfl
  wartend := fun id fehlercode rest is => by
    subst is
    rw [same id (List.mem_cons_self ..)]
    exact bestand.wartend id fehlercode rest rfl

theorem Bestand.stapel {zeilen : Keyed MailWeiterleitungLog.id} {phase : Phase} (bestand : Bestand zeilen phase) {rest : List Nat}
    (less : rest.Sublist phase.offen) : Bestand zeilen (.stapel rest) where
  beansprucht := fun id held => bestand.beansprucht id ((less.trans phase.offen_sublist).subset held)
  offen := fun id free => bestand.offen id (less.subset free)
  gelesen := nofun
  wartend := nofun

/-- A worker goes on without writing: nothing that it had accepted is forgotten
and nothing more is on its way. -/
structure Leise (zeilen : Keyed MailWeiterleitungLog.id) (phase next : Phase) : Prop where
  ids : next.ids.Sublist phase.ids
  sendet : next.sendet = none
  keins : ∀ id fehlercode rest, phase ≠ .ergebnis id .gesendet fehlercode rest
  bestand : Bestand zeilen phase → Bestand zeilen next

inductive Wirkung (w : Welt) (arbeiter : Nat) (phase : Phase) : Schritt → Welt → Prop where
  | nichts {a} : Wirkung w arbeiter phase a w
  | weiter {a next} (leise : Leise w.zeilen phase next) : Wirkung w arbeiter phase a (w.setze arbeiter next)
  | beansprucht {logId gesperrt} (frei : phase = .stapel []) :
    Wirkung w arbeiter phase (.beanspruche arbeiter logId gesperrt)
      ((w.beanspruche (gewaehlt w.uhr wartezeit logId gesperrt w.zeilen.rows)).setze arbeiter
        (.stapel (gewaehlt w.uhr wartezeit logId gesperrt w.zeilen.rows)))
  | begonnen {a id versuche rest} (gelesen : phase = .gelesen id versuche rest) :
    Wirkung w arbeiter phase a ((w.beginne id versuche).setze arbeiter (.laeuft id rest))
  | gezaehlt {id rest row} (laeuft : phase = .laeuft id rest) (found : w.zeilen.get? id = some row)
    (frei : w.gesendet row.weiterleitungId < max 1 (regeln row.weiterleitungId).maxProStunde) :
    Wirkung w arbeiter phase (.zaehle arbeiter) (w.setze arbeiter (.geprueft id rest))
  | gesendet {a id rest row} (geprueft : phase = .geprueft id rest) (found : w.zeilen.get? id = some row) :
    Wirkung w arbeiter phase a ((w.nimmAn row).setze arbeiter (.ergebnis id .gesendet none rest))
  | gemeldet {a id status fehlercode rest} (ergebnis : phase = .ergebnis id status fehlercode rest) :
    Wirkung w arbeiter phase a ((w.ergebnis id status fehlercode).setze arbeiter (.stapel rest))

section Leise

variable {zeilen : Keyed MailWeiterleitungLog.id} {phase : Phase}

theorem Leise.endet {id : Nat} {status : Status} {fehlercode : Option String} {rest : List Nat} (same : phase.ids = id :: rest)
    (less : rest.Sublist phase.offen) (keins : ∀ id fehlercode rest, phase ≠ .ergebnis id .gesendet fehlercode rest)
    (nicht : status ≠ .gesendet) (wartend : status = .wartend → ∀ row, zeilen.get? id = some row → row.versuche < maxVersuche) :
    Leise zeilen phase (.ergebnis id status fehlercode rest) where
  ids := by rw [same]; exact List.Sublist.refl _
  sendet := by cases status <;> first | rfl | exact absurd rfl nicht
  keins := keins
  bestand := fun bestand => {
    beansprucht := fun id' held => bestand.beansprucht id' (same ▸ held)
    offen := fun id' free => bestand.offen id' (less.subset free)
    gelesen := nofun
    wartend := fun _ _ _ is => by
      injection is with sameId sameStatus
      subst sameId
      exact wartend sameStatus }

end Leise

structure Gezaehlt (begonnen : List (Nat × String)) (row : MailWeiterleitungLog) : Prop where
  wartend : row.status = .wartend → row.versuche < maxVersuche
  begonnen : begonnen.count row.schluessel ≤ row.versuche
  hoechstens : row.versuche ≤ maxVersuche

structure Ordnung (w : Welt) : Prop where
  eindeutig : (w.zeilen.rows.map MailWeiterleitungLog.schluessel).Nodup
  getrennt : Separate Phase.ids w.arbeiter
  bestand : ∀ phase ∈ w.arbeiter, Bestand w.zeilen phase
  gezaehlt : ∀ row ∈ w.zeilen.rows, Gezaehlt w.begonnen row
  begonnen : ∀ schluessel ∈ w.begonnen, ∃ row ∈ w.zeilen.rows, row.schluessel = schluessel

section Zeilen

theorem schluessel_beanspruche (w : Welt) (ids : List Nat) :
    (w.beanspruche ids).zeilen.rows.map MailWeiterleitungLog.schluessel =
      w.zeilen.rows.map MailWeiterleitungLog.schluessel := by
  rw [Welt.beanspruche, Keyed.map, List.map_map]
  refine List.map_congr_left fun row _ => ?_
  rw [Function.comp_apply]
  split <;> rfl

theorem schluessel_modify (zeilen : Keyed MailWeiterleitungLog.id) (id : Nat) {f : MailWeiterleitungLog → MailWeiterleitungLog}
    (keeps : ∀ row, (f row).id = row.id) (same : ∀ row, (f row).schluessel = row.schluessel) :
    (zeilen.modify id f keeps).rows.map MailWeiterleitungLog.schluessel = zeilen.rows.map MailWeiterleitungLog.schluessel := by
  rw [Keyed.modify, Keyed.map, List.map_map]
  refine List.map_congr_left fun row _ => ?_
  rw [Function.comp_apply]
  split
  · exact same row
  · rfl

theorem exists_schluessel {zeilen zeilen' : Keyed MailWeiterleitungLog.id} {schluessel : Nat × String}
    (same : zeilen'.rows.map MailWeiterleitungLog.schluessel = zeilen.rows.map MailWeiterleitungLog.schluessel)
    (there : ∃ row ∈ zeilen.rows, row.schluessel = schluessel) : ∃ row ∈ zeilen'.rows, row.schluessel = schluessel :=
  List.mem_map.mp (same ▸ List.mem_map.mpr there)

theorem Ordnung.eq_of_schluessel {w : Welt} (ordnung : Ordnung w) {id id' : Nat} {row row' : MailWeiterleitungLog}
    (found : w.zeilen.get? id = some row) (found' : w.zeilen.get? id' = some row') (same : row.schluessel = row'.schluessel) :
    id = id' ∧ row = row' := by
  have rows := List.inj_on_of_nodup_map ordnung.eindeutig (Keyed.mem_of_get? found) (Keyed.mem_of_get? found') same
  subst rows
  exact ⟨(Keyed.key_of_get? found).symm.trans (Keyed.key_of_get? found'), rfl⟩

theorem gewaehlt_nodup (w : Welt) (logId : Option Nat) (gesperrt : List Nat) :
    (gewaehlt w.uhr wartezeit logId gesperrt w.zeilen.rows).Nodup :=
  (w.zeilen.nodup.sublist (List.Sublist.map _ List.filter_sublist)).sublist (List.take_sublist ..)

theorem gewaehlt_status {w : Welt} {logId : Option Nat} {gesperrt : List Nat} {id : Nat}
    (member : id ∈ gewaehlt w.uhr wartezeit logId gesperrt w.zeilen.rows) :
    ∃ row, w.zeilen.get? id = some row ∧ (row.status = .wartend ∨ row.status = .inBearbeitung) := by
  obtain ⟨row, chosen, rfl⟩ := List.mem_map.mp (List.mem_of_mem_take member)
  obtain ⟨isRow, good⟩ := List.mem_filter.mp chosen
  refine ⟨row, Keyed.get?_of_mem isRow, ?_⟩
  have waehlt := (Bool.and_eq_true_iff.mp good).1
  cases logId with
  | none =>
    simp only [waehlbar, faellig, abgelaufen, Bool.or_eq_true, Bool.and_eq_true, beq_iff_eq] at waehlt
    exact waehlt.imp And.left And.left
  | some id =>
    simp only [waehlbar, abgelaufen, Bool.or_eq_true, Bool.and_eq_true, beq_iff_eq] at waehlt
    exact waehlt.2.imp_right And.left

theorem get?_beanspruche (w : Welt) (ids : List Nat) (id : Nat) :
    (w.beanspruche ids).zeilen.get? id =
      if id ∈ ids then (w.zeilen.get? id).map fun row => { row with status := .inBearbeitung, updatedAt := w.uhr }
      else w.zeilen.get? id := by
  rw [Welt.beanspruche, Keyed.get?_map]
  cases found : w.zeilen.get? id with
  | none => simp
  | some row =>
    have key : row.id = id := Keyed.key_of_get? found
    by_cases taken : id ∈ ids
    · rw [Option.map_some, if_pos (key.symm ▸ taken), if_pos taken]
      rfl
    · rw [Option.map_some, if_neg (key.symm ▸ taken), if_neg taken]

theorem get?_ergebnis (w : Welt) (id : Nat) (status : Status) (fehlercode : Option String) (other : Nat) :
    (w.ergebnis id status fehlercode).zeilen.get? other =
      if other = id then (w.zeilen.get? other).map fun row => { row with status, fehlercode, updatedAt := w.uhr }
      else w.zeilen.get? other := by
  rw [Welt.ergebnis, Keyed.get?_modify]

theorem Ordnung.frei {w : Welt} (ordnung : Ordnung w) {arbeiter : Nat} {logId : Option Nat} {gesperrt : List Nat}
    (found : w.arbeiter[arbeiter]? = some (.stapel []))
    (ok : erlaubt wartezeit w (.beanspruche arbeiter logId gesperrt) = true) {id : Nat}
    (member : id ∈ gewaehlt w.uhr wartezeit logId gesperrt w.zeilen.rows) :
    (∃ row, w.zeilen.get? id = some row ∧ row.status ≠ .gesendet ∧ row.versuche < maxVersuche) ∧
      ∀ phase ∈ w.arbeiter, id ∉ phase.ids := by
  simp only [erlaubt, found, List.all_eq_true] at ok
  have here := ok id member
  obtain ⟨row, atRow, status⟩ := gewaehlt_status wartezeit member
  rw [atRow, Option.all_some, Bool.or_eq_true, beq_iff_eq, Bool.and_eq_true, decide_eq_true_eq, List.all_eq_true] at here
  refine ⟨⟨row, atRow, by rcases status with is | is <;> rw [is] <;> nofun, ?_⟩, fun phase isPhase held => ?_⟩
  · rcases here with is | ⟨more, -⟩
    · exact (ordnung.gezaehlt row (Keyed.mem_of_get? atRow)).wartend is
    · exact more
  · rcases here with is | ⟨-, nobody⟩
    · obtain ⟨other, atOther, taken⟩ := (ordnung.bestand phase isPhase).beansprucht id held
      rw [← Option.some.inj (atRow.symm.trans atOther), is] at taken
      cases taken
    · have no := nobody phase isPhase
      rw [Bool.not_eq_true', List.contains_eq_mem, decide_eq_false_iff_not] at no
      exact no held

end Zeilen

section Schritte

variable {w w' : Welt} {arbeiter : Nat} {phase next : Phase}

section

variable (ordnung : Ordnung w)
include ordnung

theorem Ordnung.rueckt (found : w.arbeiter[arbeiter]? = some phase) (zeilen : w'.zeilen = w.zeilen)
    (begonnen : w'.begonnen = w.begonnen) (set : w'.arbeiter = w.arbeiter.set arbeiter next)
    (less : next.ids.Sublist phase.ids) (bestand : Bestand w.zeilen phase → Bestand w.zeilen next) : Ordnung w' where
  eindeutig := zeilen ▸ ordnung.eindeutig
  getrennt := set ▸ ordnung.getrennt.set_sublist found less
  bestand := fun other member => by
    rw [set] at member
    rw [zeilen]
    rcases ordnung.getrennt.of_mem_set found member with rfl | ⟨isOther, -⟩
    · exact bestand (ordnung.bestand phase (List.mem_of_getElem? found))
    · exact ordnung.bestand other isOther
  gezaehlt := by rw [zeilen, begonnen]; exact ordnung.gezaehlt
  begonnen := by rw [zeilen, begonnen]; exact ordnung.begonnen

theorem Ordnung.beansprucht {logId : Option Nat} {gesperrt : List Nat}
    (found : w.arbeiter[arbeiter]? = some (.stapel []))
    (ok : erlaubt wartezeit w (.beanspruche arbeiter logId gesperrt) = true) :
    Ordnung ((w.beanspruche (gewaehlt w.uhr wartezeit logId gesperrt w.zeilen.rows)).setze arbeiter
      (.stapel (gewaehlt w.uhr wartezeit logId gesperrt w.zeilen.rows))) := by
  have frei := fun id => @Ordnung.frei wartezeit w ordnung arbeiter logId gesperrt found ok id
  have nodup := gewaehlt_nodup wartezeit w logId gesperrt
  generalize gewaehlt w.uhr wartezeit logId gesperrt w.zeilen.rows = ids at frei nodup
  have same : (w.beanspruche ids).zeilen.rows.map MailWeiterleitungLog.schluessel =
      w.zeilen.rows.map MailWeiterleitungLog.schluessel := schluessel_beanspruche w ids
  refine ⟨?_, ?_, fun other member => ?_, fun row member => ?_, fun schluessel begun => ?_⟩
  · exact same ▸ ordnung.eindeutig
  · exact ordnung.getrennt.set_free found nodup fun other isOther id taken => (frei id taken).2 other isOther
  · rcases ordnung.getrennt.of_mem_set found member with rfl | ⟨isOther, -⟩
    · have gelesen : ∀ id ∈ ids, ∃ row, (w.beanspruche ids).zeilen.get? id = some row ∧
          row.status = .inBearbeitung ∧ row.versuche < maxVersuche := fun id taken => by
        obtain ⟨row, atRow, -, more⟩ := (frei id taken).1
        refine ⟨{ row with status := .inBearbeitung, updatedAt := w.uhr }, ?_, rfl, more⟩
        rw [get?_beanspruche, if_pos taken, atRow, Option.map_some]
      refine ⟨fun id taken => ?_, fun id taken row atRow => ?_, nofun, nofun⟩
      · obtain ⟨row, atRow, status, -⟩ := gelesen id taken
        exact ⟨row, atRow, status⟩
      · obtain ⟨row', atRow', -, more⟩ := gelesen id taken
        rw [Option.some.inj (atRow.symm.trans atRow')]
        exact more
    · refine (ordnung.bestand other isOther).congr fun id held => ?_
      have notTaken : id ∉ ids := fun taken => (frei id taken).2 other isOther held
      exact (get?_beanspruche w ids id).trans (if_neg notTaken)
  · obtain ⟨old, isOld, rfl⟩ := List.mem_map.mp member
    have before := ordnung.gezaehlt old isOld
    by_cases taken : old.id ∈ ids
    · rw [if_pos taken]
      exact ⟨nofun, before.begonnen, before.hoechstens⟩
    · rw [if_neg taken]
      exact before
  · exact exists_schluessel same (ordnung.begonnen schluessel begun)

theorem Ordnung.meldet {id : Nat} {status : Status} {fehlercode : Option String} {rest : List Nat}
    (found : w.arbeiter[arbeiter]? = some (.ergebnis id status fehlercode rest)) :
    Ordnung ((w.ergebnis id status fehlercode).setze arbeiter (.stapel rest)) := by
  have isPhase := List.mem_of_getElem? found
  have bestand := ordnung.bestand _ isPhase
  have apart : id ∉ rest := (List.nodup_cons.mp (ordnung.getrennt.nodup isPhase)).1
  have gelesen (id' : Nat) (differs : id' ≠ id) : (w.ergebnis id status fehlercode).zeilen.get? id' = w.zeilen.get? id' :=
    (get?_ergebnis ..).trans (if_neg differs)
  have same : (w.ergebnis id status fehlercode).zeilen.rows.map MailWeiterleitungLog.schluessel =
      w.zeilen.rows.map MailWeiterleitungLog.schluessel := by
    unfold Welt.ergebnis
    refine schluessel_modify w.zeilen id ?_ ?_ <;> exact fun _ => rfl
  refine ⟨?_, ?_, fun other member => ?_, fun other member => ?_, fun schluessel begun => ?_⟩
  · exact same ▸ ordnung.eindeutig
  · exact ordnung.getrennt.set_sublist found (List.sublist_cons_self ..)
  · rcases ordnung.getrennt.of_mem_set found member with rfl | ⟨isOther, free⟩
    · refine (bestand.stapel (List.Sublist.refl _)).congr fun id' behind => gelesen id' fun isId => ?_
      exact apart (isId ▸ behind)
    · refine (ordnung.bestand other isOther).congr fun id' held => gelesen id' fun isId => ?_
      exact free id (List.mem_cons_self ..) (isId ▸ held)
  · have atOther := (get?_ergebnis ..).symm.trans (Keyed.get?_of_mem member)
    split at atOther
    · next isId =>
      obtain ⟨row, atRow, rfl⟩ := Option.map_eq_some_iff.mp atOther
      have before := ordnung.gezaehlt row (Keyed.mem_of_get? atRow)
      refine ⟨fun is => ?_, before.begonnen, before.hoechstens⟩
      cases is
      exact bestand.wartend id fehlercode rest rfl row (isId ▸ atRow)
    · exact ordnung.gezaehlt other (Keyed.mem_of_get? atOther)
  · exact exists_schluessel same (ordnung.begonnen schluessel begun)

theorem Ordnung.eingefuegt {neu : Nat → MailWeiterleitungLog} {keeps : ∀ id, (neu id).id = id}
    (zeilen : w'.zeilen = w.zeilen.insert neu keeps) (same : w'.arbeiter = w.arbeiter) (begonnen : w'.begonnen = w.begonnen)
    (frisch : ∀ id, (neu id).versuche = 0) (keine : ∀ row ∈ w.zeilen.rows, ∀ id, row.schluessel ≠ (neu id).schluessel) :
    Ordnung w' where
  eindeutig := by
    rw [zeilen, Keyed.insert, List.map_append, List.map_singleton, List.nodup_append]
    refine ⟨ordnung.eindeutig, List.nodup_singleton _, fun old isOld new isNew => ?_⟩
    obtain ⟨row, isRow, rfl⟩ := List.mem_map.mp isOld
    rw [List.mem_singleton.mp isNew]
    exact keine row isRow _
  getrennt := same ▸ ordnung.getrennt
  bestand := fun phase member => by
    rw [same] at member
    have bestand := ordnung.bestand phase member
    refine bestand.congr fun id held => ?_
    obtain ⟨row, atRow, -⟩ := bestand.beansprucht id held
    rw [zeilen, Keyed.get?_insert_of_some atRow, atRow]
  gezaehlt := fun row member => by
    rw [zeilen] at member
    rw [begonnen]
    rcases Keyed.mem_insert_cases member with old | rfl
    · exact ordnung.gezaehlt row old
    · refine ⟨fun _ => by rw [frisch]; decide, ?_, by rw [frisch]; decide⟩
      refine (Nat.le_of_eq (List.count_eq_zero.mpr fun begun => ?_)).trans (Nat.zero_le _)
      obtain ⟨other, isOther, sameKey⟩ := ordnung.begonnen _ begun
      exact keine other isOther _ sameKey
  begonnen := fun schluessel begun => by
    rw [begonnen] at begun
    obtain ⟨row, isRow, is⟩ := ordnung.begonnen schluessel begun
    exact ⟨row, zeilen ▸ List.mem_append_left _ isRow, is⟩

end

end Schritte

end Einsatzcockpit.Weiterleitung
