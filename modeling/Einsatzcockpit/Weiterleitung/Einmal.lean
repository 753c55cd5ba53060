import Mathlib.Data.List.Perm.Subperm
import Einsatzcockpit.Weiterleitung.Ordnung

namespace Einsatzcockpit.Weiterleitung

open Relational Transition Workers

variable (regeln : Nat → Regel) (wartezeit : Int)

def Annahme.schluessel (annahme : Annahme) : Nat × String := (annahme.weiterleitungId, annahme.resendEmailId)

def seit (angenommen : List Annahme) (regel : Nat) (ab : Zeit) : Nat :=
  angenommen.countP fun annahme => annahme.weiterleitungId == regel && decide (ab ≤ annahme.zeit)

def inStunde (angenommen : List Annahme) (regel : Nat) (ab : Zeit) : Nat :=
  angenommen.countP fun annahme =>
    annahme.weiterleitungId == regel && (decide (ab ≤ annahme.zeit) && decide (annahme.zeit ≤ ab + stunden 1))

/-- An accepted message has its entry, which shows it as soon as the worker has
recorded its result. -/
def Belegt (w : Welt) (annahme : Annahme) : Prop :=
  ∃ id row, w.zeilen.get? id = some row ∧ row.schluessel = annahme.schluessel ∧
    (row.status = .gesendet ∧ annahme.zeit ≤ row.updatedAt ∨
      ∃ fehlercode rest, .ergebnis id .gesendet fehlercode rest ∈ w.arbeiter)

structure Buchung (w : Welt) : Prop where
  belegt : ∀ annahme ∈ w.angenommen, Belegt w annahme
  einmal : (w.angenommen.map Annahme.schluessel).Nodup
  vergangen : ∀ annahme ∈ w.angenommen, annahme.zeit ≤ w.uhr
  gesondert : Separate (Phase.unterwegs w.zeilen) w.arbeiter
  geprueft : ∀ id rest, .geprueft id rest ∈ w.arbeiter → ∀ row, w.zeilen.get? id = some row →
    ∃ gezaehlt ≤ w.uhr,
      seit w.angenommen row.weiterleitungId (gezaehlt - stunden 1) < (regeln row.weiterleitungId).maxProStunde
  hoechstens : ∀ regel ab, inStunde w.angenommen regel ab ≤ (regeln regel).maxProStunde

def Behaelt (zeilen zeilen' : Keyed MailWeiterleitungLog.id) : Prop :=
  ∀ id row, zeilen.get? id = some row →
    ∃ row', zeilen'.get? id = some row' ∧ row'.schluessel = row.schluessel ∧ (row.status = .gesendet → row' = row)

section Fenster

variable (angenommen : List Annahme) (neu : Annahme) (regel : Nat) (ab : Zeit)

theorem seit_append_of_ne (differs : neu.weiterleitungId ≠ regel) : seit (angenommen ++ [neu]) regel ab = seit angenommen regel ab := by
  have no : (neu.weiterleitungId == regel) = false := beq_eq_false_iff_ne.mpr differs
  rw [seit, seit, List.countP_append, List.countP_singleton, no, Bool.false_and, if_neg Bool.false_ne_true, Nat.add_zero]

theorem inStunde_append {angenommen : List Annahme} {neu : Annahme} {limit : Nat} {gezaehlt : Zeit} (before : inStunde angenommen regel ab ≤ limit)
    (frei : neu.weiterleitungId = regel → seit angenommen regel (gezaehlt - stunden 1) < limit) (later : gezaehlt ≤ neu.zeit) :
    inStunde (angenommen ++ [neu]) regel ab ≤ limit := by
  unfold inStunde at before ⊢
  rw [List.countP_append, List.countP_singleton]
  split
  · next inside =>
    simp only [Bool.and_eq_true, beq_iff_eq, decide_eq_true_eq] at inside
    obtain ⟨same, -, ends⟩ := inside
    have start : gezaehlt - stunden 1 ≤ ab := sub_le_iff_le_add.mpr (later.trans ends)
    refine Nat.succ_le_of_lt (lt_of_le_of_lt (List.countP_mono_left fun annahme _ counted => ?_) (frei same))
    simp only [Bool.and_eq_true, beq_iff_eq, decide_eq_true_eq] at counted ⊢
    exact ⟨counted.1, start.trans counted.2.1⟩
  · rw [Nat.add_zero]
    exact before

theorem seit_le_gesendet {w : Welt} (buchung : Buchung regeln w)
    (nobody : ∀ phase ∈ w.arbeiter, regel ∉ phase.unterwegs w.zeilen) :
    seit w.angenommen regel (w.uhr - stunden 1) ≤ w.gesendet regel := by
  unfold seit Welt.gesendet
  rw [List.countP_eq_length_filter, List.countP_eq_length_filter, ← List.length_map Annahme.schluessel,
    ← List.length_map MailWeiterleitungLog.schluessel]
  refine ((buchung.einmal.sublist (List.filter_sublist.map _)).subperm fun schluessel member => ?_).length_le
  obtain ⟨annahme, counted, rfl⟩ := List.mem_map.mp member
  obtain ⟨isAnnahme, recent⟩ := List.mem_filter.mp counted
  simp only [Bool.and_eq_true, beq_iff_eq, decide_eq_true_eq] at recent
  obtain ⟨id, row, atRow, same, shows⟩ := buchung.belegt annahme isAnnahme
  have rule : row.weiterleitungId = regel := (congrArg Prod.fst same).trans recent.1
  rcases shows with ⟨status, zeit⟩ | ⟨fehlercode, rest, isPhase⟩
  · refine List.mem_map.mpr ⟨row, List.mem_filter.mpr ⟨Keyed.mem_of_get? atRow, ?_⟩, same⟩
    simp only [Bool.and_eq_true, beq_iff_eq, decide_eq_true_eq]
    exact ⟨⟨rule, status⟩, recent.2.trans zeit⟩
  · refine absurd ?_ (nobody _ isPhase)
    simp [Phase.unterwegs, Phase.sendet, atRow, rule]

end Fenster

section Behaelt

variable {w w' : Welt} {zeilen zeilen' : Keyed MailWeiterleitungLog.id} {phase : Phase}

theorem Behaelt.refl (zeilen : Keyed MailWeiterleitungLog.id) : Behaelt zeilen zeilen :=
  fun _ row found => ⟨row, found, rfl, fun _ => rfl⟩

theorem Behaelt.unterwegs (behaelt : Behaelt zeilen zeilen') (bestand : Bestand zeilen phase) :
    phase.unterwegs zeilen' = phase.unterwegs zeilen := by
  unfold Phase.unterwegs
  cases sends : phase.sendet with
  | none => rfl
  | some id =>
    have held : id ∈ phase.ids := by
      revert sends
      cases phase with
      | stapel rest | gelesen id' versuche rest | laeuft id' rest => nofun
      | geprueft id' rest =>
        intro is
        cases is
        exact List.mem_cons_self ..
      | ergebnis id' status fehlercode rest =>
        cases status with
        | gesendet =>
          intro is
          cases is
          exact List.mem_cons_self ..
        | wartend | inBearbeitung | uebersprungen | fehler => nofun
    obtain ⟨row, atRow, -⟩ := bestand.beansprucht id held
    obtain ⟨row', atRow', same, -⟩ := behaelt id row atRow
    rw [Option.bind_some, Option.bind_some, atRow, atRow', Option.map_some, Option.map_some,
      show row'.weiterleitungId = row.weiterleitungId from congrArg Prod.fst same]

theorem Belegt.behaelt {annahme : Annahme} (belegt : Belegt w annahme) (behaelt : Behaelt w.zeilen w'.zeilen)
    (stays : ∀ id fehlercode rest, Phase.ergebnis id .gesendet fehlercode rest ∈ w.arbeiter →
      Phase.ergebnis id .gesendet fehlercode rest ∈ w'.arbeiter) : Belegt w' annahme := by
  obtain ⟨id, row, atRow, same, shows⟩ := belegt
  obtain ⟨row', atRow', kept, unwritten⟩ := behaelt id row atRow
  refine ⟨id, row', atRow', kept.trans same, ?_⟩
  rcases shows with ⟨status, zeit⟩ | ⟨fehlercode, rest, isPhase⟩
  · rw [unwritten status]
    exact Or.inl ⟨status, zeit⟩
  · exact Or.inr ⟨fehlercode, rest, stays id fehlercode rest isPhase⟩

end Behaelt

section Schritte

variable {regeln} {w w' : Welt} {arbeiter : Nat} {phase next : Phase}

theorem Belegt.weiter {annahme : Annahme} (belegt : Belegt w annahme) (behaelt : Behaelt w.zeilen w'.zeilen)
    (found : w.arbeiter[arbeiter]? = some phase) (set : w'.arbeiter = w.arbeiter.set arbeiter next)
    (keins : ∀ id fehlercode rest, phase ≠ .ergebnis id .gesendet fehlercode rest) : Belegt w' annahme :=
  belegt.behaelt behaelt fun id fehlercode rest member =>
    set ▸ mem_set_of_ne found member fun same => keins id fehlercode rest same.symm

theorem Buchung.rueckt (buchung : Buchung regeln w) (ordnung : Ordnung w) (found : w.arbeiter[arbeiter]? = some phase)
    (set : w'.arbeiter = w.arbeiter.set arbeiter next) (angenommen : w'.angenommen = w.angenommen) (uhr : w'.uhr = w.uhr)
    (behaelt : Behaelt w.zeilen w'.zeilen) (sendet : next.sendet = none)
    (belegt : ∀ annahme ∈ w.angenommen, Belegt w' annahme) : Buchung regeln w' where
  belegt := angenommen ▸ belegt
  einmal := angenommen ▸ buchung.einmal
  vergangen := by rw [angenommen, uhr]; exact buchung.vergangen
  gesondert := by
    have leer (zeilen : Keyed MailWeiterleitungLog.id) : next.unterwegs zeilen = [] := by rw [Phase.unterwegs, sendet]; rfl
    rw [set]
    refine (buchung.gesondert.set_sublist found (leer w.zeilen ▸ List.nil_sublist _)).congr fun other member => ?_
    rcases ordnung.getrennt.of_mem_set found member with rfl | ⟨isOther, -⟩
    · rw [leer, leer]
    · exact behaelt.unterwegs (ordnung.bestand other isOther)
  geprueft := fun id rest member row' atRow' => by
    rw [set] at member
    rw [angenommen, uhr]
    rcases ordnung.getrennt.of_mem_set found member with rfl | ⟨isOther, -⟩
    · cases sendet
    · obtain ⟨row, atRow, -⟩ := (ordnung.bestand _ isOther).beansprucht id (List.mem_cons_self ..)
      obtain ⟨row'', atRow'', same, -⟩ := behaelt id row atRow
      obtain rfl := Option.some.inj (atRow'.symm.trans atRow'')
      rw [show row'.weiterleitungId = row.weiterleitungId from congrArg Prod.fst same]
      exact buchung.geprueft id rest isOther row atRow
  hoechstens := angenommen ▸ buchung.hoechstens

theorem Behaelt.beansprucht {zeilen zeilen' : Keyed MailWeiterleitungLog.id} {f : MailWeiterleitungLog → MailWeiterleitungLog}
    {id : Nat} (bestand : Bestand zeilen phase) (held : id ∈ phase.ids)
    (reads : ∀ other, zeilen'.get? other = if other = id then (zeilen.get? other).map f else zeilen.get? other)
    (same : ∀ row, (f row).schluessel = row.schluessel) : Behaelt zeilen zeilen' := by
  intro other row found
  rw [reads]
  split
  · next isId =>
    subst isId
    obtain ⟨row', atRow', status⟩ := bestand.beansprucht other held
    obtain rfl := Option.some.inj (found.symm.trans atRow')
    exact ⟨f row, by rw [found, Option.map_some], same row, fun is => absurd (status.symm.trans is) nofun⟩
  · exact ⟨row, found, rfl, fun _ => rfl⟩

section

variable (buchung : Buchung regeln w) (ordnung : Ordnung w)
include buchung ordnung

theorem Buchung.beansprucht {logId : Option Nat} {gesperrt : List Nat}
    (found : w.arbeiter[arbeiter]? = some (.stapel []))
    (ok : erlaubt wartezeit w (.beanspruche arbeiter logId gesperrt) = true) :
    Buchung regeln ((w.beanspruche (gewaehlt w.uhr wartezeit logId gesperrt w.zeilen.rows)).setze arbeiter
      (.stapel (gewaehlt w.uhr wartezeit logId gesperrt w.zeilen.rows))) := by
  have frei := fun id => @Ordnung.frei wartezeit w ordnung arbeiter logId gesperrt found ok id
  generalize gewaehlt w.uhr wartezeit logId gesperrt w.zeilen.rows = ids at frei
  have behaelt : Behaelt w.zeilen (w.beanspruche ids).zeilen := fun id row atRow => by
    rw [get?_beanspruche]
    split
    · next taken =>
      obtain ⟨row', atRow', nicht, -⟩ := (frei id taken).1
      obtain rfl := Option.some.inj (atRow.symm.trans atRow')
      exact ⟨{ row with status := .inBearbeitung, updatedAt := w.uhr }, by rw [atRow, Option.map_some], rfl,
        fun is => absurd is nicht⟩
    · exact ⟨row, atRow, rfl, fun _ => rfl⟩
  exact buchung.rueckt ordnung found rfl rfl rfl behaelt rfl fun annahme member =>
    (buchung.belegt annahme member).weiter behaelt found rfl nofun

theorem Buchung.gezaehlt {id : Nat} {rest : List Nat}
    {row : MailWeiterleitungLog} (found : w.arbeiter[arbeiter]? = some (.laeuft id rest)) (atRow : w.zeilen.get? id = some row)
    (frei : w.gesendet row.weiterleitungId < max 1 (regeln row.weiterleitungId).maxProStunde)
    (ok : erlaubt wartezeit w (.zaehle arbeiter) = true) : Buchung regeln (w.setze arbeiter (.geprueft id rest)) := by
  have nobody : ∀ phase ∈ w.arbeiter, row.weiterleitungId ∉ phase.unterwegs w.zeilen := fun phase isPhase => by
    simp only [erlaubt, found, atRow, Option.all_some, List.all_eq_true, Bool.not_eq_true', List.contains_eq_mem,
      decide_eq_false_iff_not] at ok
    exact ok phase isPhase
  have unterwegs : (Phase.geprueft id rest).unterwegs w.zeilen = [row.weiterleitungId] := by
    rw [Phase.unterwegs, Phase.sendet, Option.bind_some, atRow]
    rfl
  refine ⟨fun annahme member => ?_, buchung.einmal, buchung.vergangen, ?_, fun id' rest' member row' atRow' => ?_,
    buchung.hoechstens⟩
  · exact (buchung.belegt annahme member).weiter (.refl _) found rfl fun _ _ _ same => by cases same
  · refine buchung.gesondert.set_free found (unterwegs ▸ List.nodup_singleton _) fun other isOther regel mine => ?_
    rw [unterwegs, List.mem_singleton] at mine
    rw [mine]
    exact nobody other isOther
  · rcases ordnung.getrennt.of_mem_set found member with same | ⟨isOther, -⟩
    · cases same
      obtain rfl := Option.some.inj (atRow.symm.trans atRow')
      have limit := seit_le_gesendet regeln row.weiterleitungId buchung nobody
      rw [max_eq_right (regeln row.weiterleitungId).positiv] at frei
      exact ⟨w.uhr, le_refl _, lt_of_le_of_lt limit frei⟩
    · exact buchung.geprueft id' rest' isOther row' atRow'

theorem Buchung.gesendet {id : Nat} {rest : List Nat}
    {row : MailWeiterleitungLog} (found : w.arbeiter[arbeiter]? = some (.geprueft id rest)) (atRow : w.zeilen.get? id = some row) :
    Buchung regeln ((w.nimmAn row).setze arbeiter (.ergebnis id .gesendet none rest)) := by
  have isPhase := List.mem_of_getElem? found
  obtain ⟨gezaehlt, earlier, frei⟩ := buchung.geprueft id rest isPhase row atRow
  obtain ⟨row', atRow', claimed⟩ := (ordnung.bestand _ isPhase).beansprucht id (List.mem_cons_self ..)
  obtain rfl := Option.some.inj (atRow.symm.trans atRow')
  have unterwegs : row.weiterleitungId ∈ (Phase.geprueft id rest).unterwegs w.zeilen := by
    simp [Phase.unterwegs, Phase.sendet, atRow]
  have neu : (row.weiterleitungId, row.resendEmailId) ∉ w.angenommen.map Annahme.schluessel := fun member => by
    obtain ⟨annahme, isAnnahme, same⟩ := List.mem_map.mp member
    obtain ⟨id', other, atOther, key, shows⟩ := buchung.belegt annahme isAnnahme
    obtain ⟨rfl, rfl⟩ := ordnung.eq_of_schluessel atOther atRow (key.trans same)
    rcases shows with ⟨status, -⟩ | ⟨fehlercode, rest', result⟩
    · rw [claimed] at status
      cases status
    · cases ordnung.getrennt.eq_of_mem found result (List.mem_cons_self ..) (List.mem_cons_self ..)
  refine ⟨fun annahme member => ?_, ?_, fun annahme member => ?_, ?_, fun id' rest' member row' atRow'' => ?_, fun regel ab => ?_⟩
  · rcases List.mem_append.mp member with old | new
    · exact (buchung.belegt annahme old).weiter (.refl _) found rfl nofun
    · rw [List.mem_singleton.mp new]
      exact ⟨id, row, atRow, rfl, Or.inr ⟨none, rest, mem_set_self found⟩⟩
  · change ((w.angenommen ++ [_]).map Annahme.schluessel).Nodup
    rw [List.map_append, List.map_singleton, List.nodup_append]
    refine ⟨buchung.einmal, List.nodup_singleton _, fun schluessel old other new same => neu ?_⟩
    rw [List.mem_singleton] at new
    subst new same
    exact old
  · rcases List.mem_append.mp member with old | new
    · exact buchung.vergangen annahme old
    · rw [List.mem_singleton.mp new]
      exact le_refl _
  · exact buchung.gesondert.set_sublist found (List.Sublist.refl _)
  · rcases buchung.gesondert.of_mem_set found member with same | ⟨isOther, apart⟩
    · cases same
    · obtain ⟨gezaehlt', earlier', frei'⟩ := buchung.geprueft id' rest' isOther row' atRow''
      refine ⟨gezaehlt', earlier', ?_⟩
      have differs : row.weiterleitungId ≠ row'.weiterleitungId := fun same => by
        refine apart row.weiterleitungId unterwegs ?_
        rw [same]
        simp only [Phase.unterwegs, Phase.sendet, Option.bind_some, show w.zeilen.get? id' = some row' from atRow'',
          Option.map_some, Option.toList_some, List.mem_singleton]
      exact lt_of_eq_of_lt (seit_append_of_ne w.angenommen _ row'.weiterleitungId _ differs) frei'
  · exact inStunde_append regel ab (buchung.hoechstens regel ab) (fun same => same ▸ frei) earlier

theorem Buchung.meldet {id : Nat} {status : Status}
    {fehlercode : Option String} {rest : List Nat} (found : w.arbeiter[arbeiter]? = some (.ergebnis id status fehlercode rest)) :
    Buchung regeln ((w.ergebnis id status fehlercode).setze arbeiter (.stapel rest)) := by
  have isPhase := List.mem_of_getElem? found
  have behaelt : Behaelt w.zeilen (w.ergebnis id status fehlercode).zeilen :=
    .beansprucht (ordnung.bestand _ isPhase) (List.mem_cons_self ..) (get?_ergebnis w id status fehlercode) fun _ => rfl
  refine buchung.rueckt ordnung found rfl rfl rfl behaelt rfl fun annahme member => ?_
  obtain ⟨id', row, atRow, same, shows⟩ := buchung.belegt annahme member
  by_cases ours : ∃ fehlercode' rest', (Phase.ergebnis id status fehlercode rest) = .ergebnis id' .gesendet fehlercode' rest'
  · -- the worker records the message
    obtain ⟨fehlercode', rest', is⟩ := ours
    cases is
    refine ⟨id, { row with status := .gesendet, fehlercode, updatedAt := w.uhr }, ?_, same, Or.inl ⟨rfl, buchung.vergangen annahme member⟩⟩
    exact (get?_ergebnis ..).trans (by rw [if_pos rfl, atRow, Option.map_some])
  · obtain ⟨row', atRow', kept, unwritten⟩ := behaelt id' row atRow
    refine ⟨id', row', atRow', kept.trans same, ?_⟩
    rcases shows with ⟨sent, zeit⟩ | ⟨fehlercode', rest', result⟩
    · rw [unwritten sent]
      exact Or.inl ⟨sent, zeit⟩
    · exact Or.inr ⟨fehlercode', rest', mem_set_of_ne found result fun is => ours ⟨fehlercode', rest', is.symm⟩⟩

end

end Schritte

section Lauf

theorem Buchung.eingefuegt {regeln : Nat → Regel} {w w' : Welt} (buchung : Buchung regeln w) (ordnung : Ordnung w)
    {neu : Nat → MailWeiterleitungLog} {keeps : ∀ id, (neu id).id = id} (zeilen : w'.zeilen = w.zeilen.insert neu keeps)
    (same : w'.arbeiter = w.arbeiter) (angenommen : w'.angenommen = w.angenommen) (uhr : w'.uhr = w.uhr) : Buchung regeln w' := by
  have behaelt : Behaelt w.zeilen w'.zeilen := fun id row found =>
    ⟨row, by rw [zeilen, Keyed.get?_insert_of_some found], rfl, fun _ => rfl⟩
  refine ⟨fun annahme member => ?_, angenommen ▸ buchung.einmal, by rw [angenommen, uhr]; exact buchung.vergangen, ?_, ?_,
    angenommen ▸ buchung.hoechstens⟩
  · exact (buchung.belegt annahme (angenommen ▸ member)).behaelt behaelt fun _ _ _ isPhase => same ▸ isPhase
  · rw [same]
    exact buchung.gesondert.congr fun phase isPhase => behaelt.unterwegs (ordnung.bestand phase isPhase)
  · intro id rest member row' atRow'
    rw [same] at member
    rw [angenommen, uhr]
    obtain ⟨row, atRow, -⟩ := (ordnung.bestand _ member).beansprucht id (List.mem_cons_self ..)
    obtain ⟨row'', atRow'', -, -⟩ := behaelt id row atRow
    rw [zeilen, Keyed.get?_insert_of_some atRow] at atRow'
    exact Option.some.inj atRow' ▸ buchung.geprueft id rest member row atRow

theorem start_ordnung (arbeiter eingaenge : Nat) : Ordnung (start arbeiter eingaenge) where
  eindeutig := List.nodup_nil
  getrennt := by
    have leer : (List.replicate arbeiter (Phase.stapel [])).flatMap Phase.ids = [] :=
      List.flatMap_eq_nil_iff.mpr fun phase member => by rw [List.eq_of_mem_replicate member]; rfl
    unfold Separate
    rw [start, leer]
    exact List.nodup_nil
  bestand := fun phase member => by
    rw [List.eq_of_mem_replicate member]
    exact ⟨nofun, nofun, nofun, nofun⟩
  gezaehlt := nofun
  begonnen := nofun

end Lauf

/-- Worker `n` forwards the oldest entry, up to the send. -/
def bereit (n : Nat) : List Schritt := [.beanspruche n (some 1) [], .lies n, .beginne n true, .zaehle n]

end Einsatzcockpit.Weiterleitung
