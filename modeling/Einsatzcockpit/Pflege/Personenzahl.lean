import Einsatzcockpit.Pflege.Wirkung
import Einsatzcockpit.Lib.Sum
import Mathlib.Algebra.BigOperators.Ring.Finset

namespace Einsatzcockpit.Pflege

open Raising Relational

def Bestand.kopfzahl (db : Bestand) (e : LageEinheit) : Int :=
  match e.personalModus with
  | .summe => e.zahlen.gesamt
  | .liste => (db.aktive e).length

def Bestand.beitrag (db : Bestand) (lageId : Nat) (e : LageEinheit) : Int :=
  if e.lageId = lageId then db.kopfzahl e else 0

def Bestand.personenzahl (db : Bestand) (lageId : Nat) : Int := (db.einheiten.map (db.beitrag lageId)).sum

theorem personenzahl_setEinheit {db : Bestand} (geformt : Numbered (·.id) db.einheiten) {id : Nat} {e : LageEinheit}
    (found : db.einheit? id = some e) (f : LageEinheit → LageEinheit) (lageId : Nat) :
    (db.setEinheit id f).personenzahl lageId + db.beitrag lageId e = db.personenzahl lageId + db.beitrag lageId (f e) := by
  obtain ⟨member, rfl⟩ := einheit?_spec found
  have moved := sum_map_except (·.id) geformt.nodup member (f := db.beitrag lageId)
    (g := fun other => db.beitrag lageId (if other.id == e.id then f other else other)) fun other _ differs => by
      rw [beq_eq_false_iff_ne.mpr differs, if_neg Bool.false_ne_true]
  rw [beq_self_eq_true, if_pos rfl] at moved
  unfold Bestand.personenzahl
  rw [← moved]
  unfold Bestand.setEinheit
  rw [update, List.map_map]
  rfl

theorem personenzahl_neuBerechnen (s : Sitzung) {db : Bestand} {ids : List Nat}
    (listen : ∀ e ∈ db.einheiten, e.id ∈ ids → e.personalModus = .liste) (lageId : Nat) :
    (ids.foldl (neuBerechnen s) db).personenzahl lageId = db.personenzahl lageId := by
  rw [neuBerechnen_foldl]
  unfold Bestand.personenzahl
  rw [update, List.map_map]
  refine congrArg List.sum (List.map_congr_left fun e member => ?_)
  rw [Function.comp_apply]
  split
  · next hit =>
    have liste := listen e member (List.contains_iff_mem.mp hit)
    simp only [Bestand.beitrag, Bestand.kopfzahl, setze_lageId, setze_personalModus, liste]
    rfl
  · rfl

section Listen

def gehoert (e : LageEinheit) (p : LageEinheitPerson) : Bool :=
  e.personalModus == .liste && (p.lageId == e.lageId && p.einheitId == e.id && p.bisAt.isNone)

def gewicht (einheiten : List LageEinheit) (lageId : Nat) (p : LageEinheitPerson) : Nat :=
  einheiten.countP fun e => e.lageId == lageId && gehoert e p

theorem personenzahl_eq (db : Bestand) (lageId : Nat) :
    db.personenzahl lageId =
      (db.einheiten.map fun e => if e.lageId = lageId ∧ e.personalModus = .summe then e.zahlen.gesamt else 0).sum +
        (db.personen.map (gewicht db.einheiten lageId)).sum := by
  have pairs := sum_countP_comm (fun (e : LageEinheit) p => e.lageId == lageId && gehoert e p) db.einheiten db.personen
  have listed : (db.personen.map (gewicht db.einheiten lageId)).sum =
      (db.einheiten.map fun e => db.personen.countP fun p => e.lageId == lageId && gehoert e p).sum := pairs.symm
  rw [listed, Nat.cast_list_sum, List.map_map, ← List.sum_map_add]
  refine congrArg List.sum (List.map_congr_left fun e _ => ?_)
  simp only [Function.comp_apply, Bestand.beitrag, Bestand.kopfzahl, gehoert, Bestand.aktive,
    ← List.countP_eq_length_filter]
  by_cases ofLage : e.lageId = lageId
  · cases modus : e.personalModus <;> simp [ofLage]
  · simp [ofLage, beq_eq_false_iff_ne.mpr ofLage]

variable {s : Sitzung} {db db' : Bestand} {lage : MajorIncident}

theorem gewicht_eins {einheiten : List LageEinheit} (nodup : (einheiten.map (·.id)).Nodup) {e : LageEinheit}
    (member : e ∈ einheiten) (liste : e.personalModus = .liste) {p : LageEinheitPerson} (lageId : p.lageId = e.lageId)
    (einheitId : p.einheitId = e.id) (aktiv : p.bisAt = none) (id : Nat) :
    gewicht einheiten id p = if e.lageId = id then 1 else 0 := by
  have counted : gewicht einheiten id p = einheiten.countP fun other => other.id == e.id && decide (e.lageId = id) := by
    refine List.countP_congr fun other inside => ?_
    simp only [gehoert, Bool.and_eq_true, beq_iff_eq, decide_eq_true_eq, einheitId, lageId, aktiv, Option.isNone_none,
      and_true]
    constructor
    · rintro ⟨rfl, -, same, own⟩
      exact ⟨own.symm, same⟩
    · rintro ⟨own, rfl⟩
      obtain rfl := List.inj_on_of_nodup_map nodup inside member own
      exact ⟨rfl, liste, rfl, rfl⟩
  rw [counted]
  split
  · next same =>
    simp only [same, decide_true, Bool.and_true]
    exact countP_key (fun other : LageEinheit => other.id) nodup member
  · next other =>
    simp only [other, decide_false, Bool.and_false]
    exact congrFun List.countP_false einheiten

theorem gewicht_beendet (einheiten : List LageEinheit) (id : Nat) (p : LageEinheitPerson) :
    gewicht einheiten id (p.beendet s) = 0 := by
  refine List.countP_eq_zero.mpr fun e _ counted => ?_
  simp [gehoert, LageEinheitPerson.beendet] at counted

theorem verschiebePerson_zahl (geformt : db.Geformt) {von ziel : LageEinheit} (vonIn : von ∈ db.einheiten)
    (zielIn : ziel ∈ db.einheiten) (vonListe : von.personalModus = .liste) (zielListe : ziel.personalModus = .liste)
    (zielLage : ziel.lageId = lage.id) {p : LageEinheitPerson} (member : p ∈ db.personen)
    (vonLage : von.lageId = lage.id) (lageId : p.lageId = von.lageId) (einheitId : p.einheitId = von.id)
    (aktiv : p.bisAt = none) (ok : verschiebePerson s db lage ziel.id p = .ok db') (id : Nat) :
    (db'.personen.map (gewicht db.einheiten id)).sum = (db.personen.map (gewicht db.einheiten id)).sum := by
  obtain ⟨neu, zeile, rfl⟩ := verschiebePerson_bleibt ok
  have nodup := geformt.einheiten.nodup
  have alt := gewicht_eins nodup vonIn vonListe lageId einheitId aktiv id
  have jung := gewicht_eins nodup zielIn zielListe (zeile.lageId.trans zielLage.symm) zeile.einheitId zeile.bisAt id
  have moved := sum_map_except (·.id) geformt.personen.nodup member (f := gewicht db.einheiten id)
    (g := fun q => gewicht db.einheiten id (if q.id == p.id then q.beendet s else q)) fun q _ differs => by
      rw [beq_eq_false_iff_ne.mpr differs, if_neg Bool.false_ne_true]
  rw [beq_self_eq_true, if_pos rfl, gewicht_beendet, alt, vonLage] at moved
  rw [zielLage] at jung
  rw [List.map_append, List.sum_append, List.map_singleton, List.sum_singleton, jung, update, List.map_map]
  exact moved

theorem verschiebeAlle_zahl {wege : List (Nat × LageEinheitPerson)} (geformt : db.Geformt)
    {von : LageEinheit} (vonIn : von ∈ db.einheiten) (vonListe : von.personalModus = .liste)
    (vonLage : von.lageId = lage.id)
    (personen : ∀ weg ∈ wege, weg.2 ∈ db.personen ∧ weg.2.lageId = von.lageId ∧ weg.2.einheitId = von.id ∧
      weg.2.bisAt = none)
    (ziele : ∀ weg ∈ wege, ∃ ziel ∈ db.einheiten, ziel.id = weg.1 ∧ ziel.personalModus = .liste ∧ ziel.lageId = lage.id)
    (verschieden : (wege.map (·.2.id)).Nodup) (ok : verschiebeAlle s lage wege db = .ok db') (id : Nat) :
    (db'.personen.map (gewicht db.einheiten id)).sum = (db.personen.map (gewicht db.einheiten id)).sum := by
  induction wege generalizing db with
  | nil =>
    cases ok
    rfl
  | cons weg rest ih =>
    rw [verschiebeAlle, foldlM_cons_eq_ok] at ok
    obtain ⟨next, moved, later⟩ := ok
    obtain ⟨member, ofLage, ofVon, aktiv⟩ := personen weg (List.mem_cons_self ..)
    obtain ⟨ziel, zielIn, zielId, zielListe, zielLage⟩ := ziele weg (List.mem_cons_self ..)
    rw [List.map_cons, List.nodup_cons] at verschieden
    rw [← zielId] at moved
    have first := verschiebePerson_zahl geformt vonIn zielIn vonListe zielListe zielLage member vonLage ofLage ofVon aktiv
      moved id
    have nur := verschiebePerson_nur geformt member (geformt.einheiten.le zielIn) moved
    rw [← first, ← nur.einheiten]
    refine ih nur.geformt (nur.einheiten ▸ vonIn) (fun w inside => ?_) (nur.einheiten ▸ fun w inside => ?_)
      verschieden.2 later
    · obtain ⟨old, facts⟩ := personen w (List.mem_cons_of_mem _ inside)
      obtain ⟨neu, -, rfl⟩ := verschiebePerson_bleibt moved
      have other : (w.2.id == weg.2.id) = false := by
        rw [beq_eq_false_iff_ne]
        exact fun same => verschieden.1 (List.mem_map.mpr ⟨w, inside, same⟩)
      exact ⟨List.mem_append_left _ (mem_update_of_false old other), facts⟩
    · exact ziele w (List.mem_cons_of_mem _ inside)

end Listen

variable {s : Sitzung} {db db' : Bestand} {lage : MajorIncident}

theorem beitrag_mitGesamt (lageId : Nat) {e : LageEinheit} (summe : e.personalModus = .summe) (gesamt : Int) :
    db.beitrag lageId (e.mitGesamt gesamt) = if e.lageId = lageId then gesamt else 0 := by
  simp only [Bestand.beitrag, Bestand.kopfzahl, LageEinheit.mitGesamt, LageEinheit.zahlen, summe, Option.getD_some]

theorem beitrag_summe (lageId : Nat) {e : LageEinheit} (summe : e.personalModus = .summe) :
    db.beitrag lageId e = if e.lageId = lageId then e.zahlen.gesamt else 0 := by
  simp only [Bestand.beitrag, Bestand.kopfzahl, summe]

theorem personenzahl_of_gewicht (einheiten : db'.einheiten = db.einheiten) (lageId : Nat)
    (same : (db'.personen.map (gewicht db.einheiten lageId)).sum = (db.personen.map (gewicht db.einheiten lageId)).sum) :
    db'.personenzahl lageId = db.personenzahl lageId := by
  rw [personenzahl_eq, personenzahl_eq, einheiten, same]

/-- `umbuchen` keeps the number of persons of every incident. -/
theorem umbuchen_zahl (geformt : db.Geformt) {vonId nachId : Nat} {anzahl : Wert} {personIds : List Nat}
    (ok : umbuchen s db lage vonId nachId anzahl personIds = .ok db') (id : Nat) :
    db'.personenzahl id = db.personenzahl id := by
  obtain ⟨von, nach, ⟨hasVon, vonLage⟩, ⟨hasNach, nachLage⟩, verschieden, modi, wege⟩ := umbuchen_ok ok
  obtain ⟨vonIn, rfl⟩ := einheit?_spec hasVon
  obtain ⟨nachIn, rfl⟩ := einheit?_spec hasNach
  rcases wege with ⟨summe, delta, -, -, -, rfl⟩ | ⟨liste, personen, db₁, -, sub, moved, rfl⟩
  · have first := personenzahl_setEinheit geformt.einheiten hasVon (·.mitGesamt (von.zahlen.gesamt - delta)) id
    have still := einheit?_setEinheit_other (f := (·.mitGesamt (von.zahlen.gesamt - delta))) (fun _ => rfl)
      verschieden.symm hasNach
    have numbered : Numbered (·.id) (db.setEinheit von.id (·.mitGesamt (von.zahlen.gesamt - delta))).einheiten :=
      numbered_setEinheit geformt.einheiten fun _ => rfl
    have second := personenzahl_setEinheit numbered still (·.mitGesamt (nach.zahlen.gesamt + delta)) id
    rw [beitrag_mitGesamt id summe, beitrag_summe id summe] at first
    rw [beitrag_mitGesamt id (modi ▸ summe), beitrag_summe id (modi ▸ summe)] at second
    rw [vonLage] at first
    rw [nachLage] at second
    split at first
    · next same =>
      rw [if_pos same, if_pos same] at second
      omega
    · next other =>
      rw [if_neg other, if_neg other] at second
      omega
  · have ofVon {p : LageEinheitPerson} (listed : p ∈ personen) := mem_aktivePersonen.mp (sub.subset listed)
    have einmal : ((personen.map fun person => (nach.id, person)).map (·.2.id)).Nodup := by
      rw [List.map_map]
      exact geformt.personen.nodup.sublist ((sub.trans (List.filter_sublist.trans List.filter_sublist)).map _)
    have nur : NurPersonen [von.id, nach.id] db db₁ := by
      refine verschiebeAlle_nur geformt (fun weg inside => ?_) (fun weg inside => ?_) einmal moved
      · obtain ⟨p, listed, rfl⟩ := List.mem_map.mp inside
        exact ⟨(ofVon listed).1, (ofVon listed).2.2.1⟩
      · obtain ⟨p, -, rfl⟩ := List.mem_map.mp inside
        exact ⟨List.mem_singleton_self _, geformt.einheiten.le nachIn⟩
    rw [personenzahl_neuBerechnen]
    · refine personenzahl_of_gewicht nur.einheiten id (verschiebeAlle_zahl geformt vonIn liste vonLage (fun weg inside => ?_)
        (fun weg inside => ?_) einmal moved id)
      · obtain ⟨p, listed, rfl⟩ := List.mem_map.mp inside
        obtain ⟨member, ofLage, ofUnit, aktiv, -⟩ := ofVon listed
        exact ⟨member, ofLage, ofUnit, aktiv⟩
      · obtain ⟨p, -, rfl⟩ := List.mem_map.mp inside
        exact ⟨nach, nachIn, rfl, modi ▸ liste, nachLage⟩
    · intro e member inside
      rw [nur.einheiten] at member
      rcases List.mem_cons.mp inside with same | last
      · rw [geformt.einheiten.inj member vonIn same]
        exact liste
      · rw [geformt.einheiten.inj member nachIn (List.mem_singleton.mp last)]
        exact modi ▸ liste

theorem mengenSetzen_zahl {ziele : List (Nat × Int)} (numbered : Numbered (·.id) db.einheiten)
    (verschieden : (ziele.map (·.1)).Nodup)
    (jeder : ∀ ziel ∈ ziele, ∃ e, db.einheit? ziel.1 = some e ∧ e.personalModus = .summe ∧ e.lageId = lage.id ∧
      e.staerkeGesamt = none) (id : Nat) :
    (ziele.foldl (fun db ziel => db.setEinheit ziel.1 (·.mitGesamt ziel.2)) db).personenzahl id =
      db.personenzahl id + if lage.id = id then (ziele.map (·.2)).sum else 0 := by
  induction ziele generalizing db with
  | nil => simp
  | cons ziel rest ih =>
    rw [List.map_cons, List.nodup_cons] at verschieden
    obtain ⟨e, found, summe, ofLage, offen⟩ := jeder ziel (List.mem_cons_self ..)
    have first := personenzahl_setEinheit numbered found (·.mitGesamt ziel.2) id
    rw [beitrag_mitGesamt id summe, beitrag_summe id summe, LageEinheit.zahlen, offen, ofLage] at first
    have others (other : Nat × Int) (inside : other ∈ rest) :
        ∃ e, (db.setEinheit ziel.1 (·.mitGesamt ziel.2)).einheit? other.1 = some e ∧ e.personalModus = .summe ∧
          e.lageId = lage.id ∧ e.staerkeGesamt = none := by
      obtain ⟨e', found', facts⟩ := jeder other (List.mem_cons_of_mem _ inside)
      have differs : other.1 ≠ ziel.1 := fun same => verschieden.1 (same ▸ List.mem_map_of_mem inside)
      have still := einheit?_setEinheit_other (f := (·.mitGesamt ziel.2)) (fun _ => rfl) differs found'
      exact ⟨e', still, facts⟩
    have numbered' : Numbered (·.id) (db.setEinheit ziel.1 (·.mitGesamt ziel.2)).einheiten :=
      numbered_setEinheit numbered fun _ => rfl
    rw [List.foldl_cons, ih numbered' verschieden.2 others, List.map_cons, List.sum_cons]
    split
    · next same =>
      rw [if_pos same, if_pos same] at first
      simp only [Option.getD_none] at first
      omega
    · next other =>
      rw [if_neg other, if_neg other] at first
      omega

section Teile

variable {mutter : LageEinheit} {neu : List LageEinheit} {teile : List Teil} {db₂ : Bestand}

section

variable (geformt : db.Geformt)
include geformt

theorem personenzahl_teile (jeder : ∀ e ∈ neu, NeuerTeil lage mutter e)
    (ids : neu.map (·.id) = List.range' (db.einheiten.length + 1) teile.length) (id : Nat) :
    ({ db with einheiten := db.einheiten ++ neu } : Bestand).personenzahl id = db.personenzahl id := by
  have none : (neu.map (db.beitrag id)).sum = 0 := by
    refine List.sum_eq_zero fun n member => ?_
    obtain ⟨e, inside, rfl⟩ := List.mem_map.mp member
    unfold Bestand.beitrag Bestand.kopfzahl
    split
    · split
      · rw [LageEinheit.zahlen, (jeder e inside).gesamt]
        rfl
      · rw [neue_aktive geformt ids inside]
        rfl
    · rfl
  have sum : ({ db with einheiten := db.einheiten ++ neu } : Bestand).personenzahl id =
      db.personenzahl id + (neu.map (db.beitrag id)).sum := by
    unfold Bestand.personenzahl
    rw [List.map_append, List.sum_append]
    rfl
  rw [sum, none, add_zero]

theorem mengenVerteilen_zahl (found : db.einheit? mutter.id = some mutter)
    (ofLage : mutter.lageId = lage.id) (summe : mutter.personalModus = .summe)
    (jeder : ∀ e ∈ neu, NeuerTeil lage mutter e)
    (ids : neu.map (·.id) = List.range' (db.einheiten.length + 1) teile.length)
    (ok : mengenVerteilen { db with einheiten := db.einheiten ++ neu } mutter (zieleVon db teile) = .ok db₂) (id : Nat) :
    db₂.personenzahl id = db.personenzahl id := by
  obtain ⟨mengen, given, -, rfl⟩ := mengenVerteilen_ok ok
  have geformt' := teile_geformt geformt ids
  have first := personenzahl_setEinheit geformt'.einheiten (einheit?_append found neu)
    (·.mitGesamt (mutter.zahlen.gesamt - mengen.sum)) id
  rw [beitrag_mitGesamt id summe, beitrag_summe id summe, personenzahl_teile geformt jeder ids, ofLage] at first
  have lengths : ((zieleVon db teile).map (·.1)).length = mengen.length := by
    rw [List.length_map, given.length_eq]
  rw [@mengenSetzen_zahl _ lage]
  · rw [List.map_snd_zip lengths.ge]
    split
    · next same =>
      rw [if_pos same, if_pos same] at first
      omega
    · next other =>
      rw [if_neg other, if_neg other] at first
      omega
  · exact numbered_setEinheit geformt'.einheiten fun _ => rfl
  · rw [List.map_fst_zip lengths.le, zieleVon_ids]
    exact List.nodup_range'
  · intro ziel inside
    have listed := (List.of_mem_zip inside).1
    rw [zieleVon_ids, ← ids] at listed
    obtain ⟨e, isNew, same⟩ := List.mem_map.mp listed
    have stays : ziel.1 ≠ mutter.id := by
      have beyond := (neue_id ids isNew).1
      have bound := einheit_bekannt geformt found
      omega
    have there : ({ db with einheiten := db.einheiten ++ neu } : Bestand).einheit? ziel.1 = some e :=
      same ▸ geformt'.einheiten.find?_of_mem (List.mem_append_right _ isNew)
    have still := einheit?_setEinheit_other (f := (·.mitGesamt (mutter.zahlen.gesamt - mengen.sum))) (fun _ => rfl) stays
      there
    exact ⟨e, still, (jeder e isNew).modus.trans summe, (jeder e isNew).lageId, (jeder e isNew).gesamt⟩

theorem personenVerteilen_zahl (found : db.einheit? mutter.id = some mutter)
    (ofLage : mutter.lageId = lage.id) (liste : mutter.personalModus = .liste)
    (jeder : ∀ e ∈ neu, NeuerTeil lage mutter e)
    (ids : neu.map (·.id) = List.range' (db.einheiten.length + 1) teile.length)
    (ok : personenVerteilen s { db with einheiten := db.einheiten ++ neu } lage mutter (zieleVon db teile) = .ok db₂)
    (id : Nat) : db₂.personenzahl id = db.personenzahl id := by
  obtain ⟨wege, db₁, wegVon, einmal, moved, rfl⟩ := personenVerteilen_ok ok
  have geformt' := teile_geformt geformt ids
  have mutterIn := List.mem_append_left neu (einheit?_spec found).1
  have ofMutter {weg : Nat × LageEinheitPerson} (inside : weg ∈ wege) := mem_aktivePersonen.mp (wegVon weg inside).2
  have ziel {weg : Nat × LageEinheitPerson} (inside : weg ∈ wege) : ∃ e ∈ neu, e.id = weg.1 := by
    have listed := (wegVon weg inside).1
    rw [zieleVon_ids, ← ids] at listed
    exact List.mem_map.mp listed
  have nur : NurPersonen (mutter.id :: (zieleVon db teile).map (·.1)) { db with einheiten := db.einheiten ++ neu } db₁ := by
    refine verschiebeAlle_nur geformt' (fun weg inside => ?_) (fun weg inside => ⟨(wegVon weg inside).1, ?_⟩) einmal moved
    · exact ⟨(ofMutter inside).1, (ofMutter inside).2.2.1⟩
    · obtain ⟨e, isNew, same⟩ := ziel inside
      exact same ▸ geformt'.einheiten.le (List.mem_append_right _ isNew)
  rw [personenzahl_neuBerechnen, ← personenzahl_teile geformt jeder ids]
  · refine personenzahl_of_gewicht nur.einheiten id (verschiebeAlle_zahl geformt' mutterIn liste ofLage (fun weg inside => ?_)
      (fun weg inside => ?_) einmal moved id)
    · obtain ⟨member, sameLage, ofUnit, aktiv, -⟩ := ofMutter inside
      exact ⟨member, sameLage, ofUnit, aktiv⟩
    · obtain ⟨e, isNew, same⟩ := ziel inside
      exact ⟨e, List.mem_append_right _ isNew, same, (jeder e isNew).modus.trans liste, (jeder e isNew).lageId⟩
  · intro e member inside
    rw [nur.einheiten] at member
    rcases List.mem_cons.mp inside with same | isNew
    · rw [geformt'.einheiten.inj member mutterIn same]
      exact liste
    · rcases List.mem_append.mp member with old | new
      · have beyond := (zieleVon_neu.mp isNew).1
        have bound := geformt.einheiten.le old
        omega
      · exact (jeder e new).modus.trans liste

/-- `einheit_aufteilen` keeps the number of persons of every incident. -/
theorem einheitAufteilen_zahl {einheitId : Nat}
    (ok : einheitAufteilen s db lage einheitId teile = .ok db') (id : Nat) :
    db'.personenzahl id = db.personenzahl id := by
  obtain ⟨mutter, neu, db₂, u, ⟨found, ofLage⟩, ids, jeder, verteilt, umgelagert, rfl⟩ := einheitAufteilen_ok ok
  rw [← (einheit?_spec found).2] at found
  have same := umlagern_nur umgelagert
  rw [personenzahl_of_gewicht same.einheiten id (by rw [same.personen])]
  unfold personalVerteilen at verteilt
  cases modus : mutter.personalModus with
  | summe =>
    rw [modus] at verteilt
    exact mengenVerteilen_zahl geformt found ofLage modus jeder ids verteilt id
  | liste =>
    rw [modus] at verteilt
    exact personenVerteilen_zahl geformt found ofLage modus jeder ids verteilt id

end

end Teile

end Einsatzcockpit.Pflege
