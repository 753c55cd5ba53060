import Einsatzcockpit.Pflege.Personen
import Einsatzcockpit.Lib.Run

namespace Einsatzcockpit.Pflege

open Raising Relational

theorem anzahlOderNull_ok {wert : Wert} {n : Int} (ok : anzahlOderNull wert = .ok n) (positive : 0 < n) :
    wert = .zahl n := by
  unfold anzahlOderNull at ok
  split at ok
  · cases ok
    exact absurd positive (lt_irrefl 0)
  · exact (zahl_ok ok).1

theorem ausstattungMenge_ok {wert : Wert} {n : Int} (ok : ausstattungMenge wert = .ok n) : wert = .zahl n := by
  simp only [ausstattungMenge, bind_eq_ok, pure_eq_ok] at ok
  obtain ⟨_, whole, _, -, rfl⟩ := ok
  exact (zahl_ok whole).1

variable {s : Sitzung} {db db' : Bestand} {lage : MajorIncident} {vonId : Nat} {mutter : LageEinheit}
  {teile : List Teil} {ziele : List (Nat × Teil)}

theorem mem_aktivePersonen {e : LageEinheit} {p : LageEinheitPerson} :
    p ∈ db.aktivePersonen s e ↔
      p ∈ db.personen ∧ p.lageId = e.lageId ∧ p.einheitId = e.id ∧ p.bisAt = none ∧ s.sieht p.orgId = true := by
  simp only [Bestand.aktivePersonen, Bestand.aktive, List.mem_filter, Bool.and_eq_true, beq_iff_eq,
    Option.isNone_iff_eq_none, and_assoc]

theorem verschiebeAlle_nur {ziele : List Nat}
    {wege : List (Nat × LageEinheitPerson)} (geformt : db.Geformt)
    (personen : ∀ weg ∈ wege, weg.2 ∈ db.personen ∧ weg.2.einheitId = vonId)
    (einheiten : ∀ weg ∈ wege, weg.1 ∈ ziele ∧ weg.1 ≤ db.einheiten.length)
    (verschieden : (wege.map (·.2.id)).Nodup) (ok : verschiebeAlle s lage wege db = .ok db') :
    NurPersonen (vonId :: ziele) db db' := by
  induction wege generalizing db with
  | nil =>
    cases ok
    exact .refl _ geformt
  | cons weg rest ih =>
    rw [verschiebeAlle, foldlM_cons_eq_ok] at ok
    obtain ⟨next, moved, later⟩ := ok
    obtain ⟨member, ofVon⟩ := personen weg (List.mem_cons_self ..)
    obtain ⟨ziel, bekannt⟩ := einheiten weg (List.mem_cons_self ..)
    rw [List.map_cons, List.nodup_cons] at verschieden
    have sub : [weg.2.einheitId, weg.1] ⊆ vonId :: ziele := by
      rw [ofVon]
      exact List.cons_subset_cons _ (List.cons_subset.mpr ⟨ziel, List.nil_subset _⟩)
    have first := (verschiebePerson_nur geformt member bekannt moved).mono sub
    refine first.trans (ih first.geformt (fun w inside => ?_) (fun w inside => ?_) verschieden.2 later)
    · obtain ⟨old, ofUnit⟩ := personen w (List.mem_cons_of_mem _ inside)
      obtain ⟨neu, -, rfl⟩ := verschiebePerson_bleibt moved
      have other : (w.2.id == weg.2.id) = false := by
        rw [beq_eq_false_iff_ne]
        exact fun same => verschieden.1 (List.mem_map.mpr ⟨w, inside, same⟩)
      exact ⟨List.mem_append_left _ (mem_update_of_false old other), ofUnit⟩
    · rw [first.einheiten]
      exact einheiten w (List.mem_cons_of_mem _ inside)

/-- The two ways `umbuchen` takes. -/
theorem umbuchen_ok {nachId : Nat} {anzahl : Wert}
    {personIds : List Nat} (ok : umbuchen s db lage vonId nachId anzahl personIds = .ok db') :
    ∃ von nach, (db.einheit? vonId = some von ∧ von.lageId = lage.id) ∧
      (db.einheit? nachId = some nach ∧ nach.lageId = lage.id) ∧ vonId ≠ nachId ∧
      von.personalModus = nach.personalModus ∧
      ((von.personalModus = .summe ∧ ∃ delta, anzahl = .zahl delta ∧ 0 < delta ∧ delta ≤ von.zahlen.gesamt ∧
          db' = (db.setEinheit vonId (·.mitGesamt (von.zahlen.gesamt - delta))).setEinheit nachId
            (·.mitGesamt (nach.zahlen.gesamt + delta))) ∨
        (von.personalModus = .liste ∧ ∃ (personen : List LageEinheitPerson) (db₁ : Bestand), personen ≠ [] ∧
          personen.Sublist (db.aktivePersonen s von) ∧
          verschiebeAlle s lage (personen.map fun person => (nachId, person)) db = .ok db₁ ∧
          db' = [vonId, nachId].foldl (neuBerechnen s) db₁)) := by
  simp only [umbuchen, bind_eq_ok, require_eq_ok] at ok
  obtain ⟨von, hasVon, nach, hasNach, _, verschieden, _, modi, ok⟩ := ok
  refine ⟨von, nach, holeEinheit_ok hasVon, holeEinheit_ok hasNach, verschieden, modi, ?_⟩
  cases modus : von.personalModus with
  | summe =>
    simp only [modus, bind_eq_ok, require_eq_ok, pure_eq_ok] at ok
    obtain ⟨delta, given, _, positive, _, enough, rfl⟩ := ok
    exact Or.inl ⟨rfl, delta, anzahlOderNull_ok given positive, positive, enough, rfl⟩
  | liste =>
    simp only [modus, bind_eq_ok, require_eq_ok, pure_eq_ok] at ok
    obtain ⟨_, some, _, alle, db₁, moved, rfl⟩ := ok
    refine Or.inr ⟨rfl, _, db₁, fun none => some ?_, List.filter_sublist, moved, rfl⟩
    rw [none, List.length_nil] at alle
    cases personIds with
    | nil => rfl
    | cons id rest =>
      rw [List.eraseDups_cons] at alle
      cases alle

/-- A unit as `einheit_aufteilen` opens it. -/
structure NeuerTeil (lage : MajorIncident) (mutter e : LageEinheit) : Prop where
  lageId : e.lageId = lage.id
  modus : e.personalModus = mutter.personalModus
  gesamt : e.staerkeGesamt = none
  fuehrung : e.staerkeFuehrung = none
  agt : e.staerkeAgt = none
  sanitaeter : e.staerkeSanitaeter = none

theorem teileAnlegen_ok
    (ok : teileAnlegen lage mutter teile db = .ok db') :
    ∃ neu, db' = { db with einheiten := db.einheiten ++ neu } ∧
      neu.map (·.id) = List.range' (db.einheiten.length + 1) teile.length ∧ ∀ e ∈ neu, NeuerTeil lage mutter e := by
  induction teile generalizing db with
  | nil =>
    cases ok
    exact ⟨[], by rw [List.append_nil], rfl, List.forall_mem_nil _⟩
  | cons teil rest ih =>
    simp only [teileAnlegen, bind_eq_ok] at ok
    obtain ⟨_, -, typ, -, ok⟩ := ok
    obtain ⟨neu, rfl, ids, teile⟩ := ih ok
    simp only [Bestand.addEinheit, List.length_append, List.length_singleton] at ids
    refine ⟨teilEinheit lage mutter (db.einheiten.length + 1) (strip (teil.label.getD "")) typ :: neu, ?_, ?_,
      List.forall_mem_cons.mpr ⟨⟨rfl, rfl, rfl, rfl, rfl, rfl⟩, teile⟩⟩
    · simp only [Bestand.addEinheit, List.append_assoc, List.singleton_append]
    · rw [List.map_cons, ids, List.length_cons, List.range'_succ]
      rfl

theorem mengenVerteilen_ok
    (ok : mengenVerteilen db mutter ziele = .ok db') :
    ∃ mengen : List Int, List.Forall₂ (fun ziel n => ziel.2.anzahl = .zahl n ∧ 0 ≤ n) ziele mengen ∧
      mengen.sum ≤ mutter.zahlen.gesamt ∧
      db' = ((ziele.map (·.1)).zip mengen).foldl (fun db ziel => db.setEinheit ziel.1 (·.mitGesamt ziel.2))
        (db.setEinheit mutter.id (·.mitGesamt (mutter.zahlen.gesamt - mengen.sum))) := by
  simp only [mengenVerteilen, bind_eq_ok, require_eq_ok, pure_eq_ok] at ok
  obtain ⟨mengen, given, _, enough, rfl⟩ := ok
  exact ⟨mengen, (forall₂_of_mapM given).imp fun _ _ => zahl_ok, enough, rfl⟩

theorem personenVerteilen_ok (ok : personenVerteilen s db lage mutter ziele = .ok db') :
    ∃ wege db₁, (∀ weg ∈ wege, weg.1 ∈ ziele.map (·.1) ∧ weg.2 ∈ db.aktivePersonen s mutter) ∧
      (wege.map (·.2.id)).Nodup ∧ verschiebeAlle s lage wege db = .ok db₁ ∧
      db' = (mutter.id :: ziele.map (·.1)).foldl (neuBerechnen s) db₁ := by
  simp only [personenVerteilen, bind_eq_ok, require_eq_ok, pure_eq_ok] at ok
  obtain ⟨_, einmal, _, -, wege, gefunden, db₁, moved, rfl⟩ := ok
  have jeder := forall₂_of_mapM gefunden
  simp only [map_eq_ok, demand_eq_ok] at jeder
  refine ⟨wege, db₁, fun weg inside => ?_, ?_, moved, rfl⟩
  · obtain ⟨⟨ziel, id⟩, asked, p, found, rfl⟩ := forall₂_right jeder inside
    obtain ⟨teil, ofTeile, listed⟩ := List.mem_flatMap.mp asked
    obtain ⟨_, -, same⟩ := List.mem_map.mp listed
    obtain ⟨rfl, -⟩ := Prod.mk.inj same
    exact ⟨List.mem_map_of_mem ofTeile, List.mem_of_mem_filter (List.mem_of_find?_eq_some found)⟩
  · have ids : wege.map (·.2.id) = ziele.flatMap fun ziel => ziel.2.personIds := by
      have same : (ziele.flatMap fun ziel => ziel.2.personIds.map fun id => (ziel.1, id)).map (·.2) =
          wege.map (·.2.id) := by
        refine List.forall₂_eq_eq_eq ▸ (List.forall₂_map_left_iff.mpr (List.forall₂_map_right_iff.mpr ?_))
        refine jeder.imp fun weg weg' found => ?_
        obtain ⟨p, hit, rfl⟩ := found
        have same : p.id = weg.2 := by simpa using List.find?_some hit
        exact same.symm
      rw [← same, List.map_flatMap]
      simp only [List.map_map, Function.comp_def, List.map_id']
    rw [ids]
    exact einmal

section Umlagern

variable {s : Sitzung} {lage : MajorIncident} {mutterId zielId : Nat} {u u' : Umlagerung}

/-- A transfer of equipment leaves the units and the persons alone. -/
structure NurAusstattung (db db' : Bestand) : Prop where
  einheiten : db'.einheiten = db.einheiten
  personen : db'.personen = db.personen

theorem NurAusstattung.trans {a b c : Bestand} (first : NurAusstattung a b) (second : NurAusstattung b c) :
    NurAusstattung a c :=
  ⟨second.einheiten.trans first.einheiten, second.personen.trans first.personen⟩

theorem positionUmlagern_ok {position : Position}
    (ok : positionUmlagern s lage mutterId zielId u position = .ok u') :
    ∃ menge quelle, position.menge = .zahl menge ∧ quelle? s u.db lage mutterId position.zeileId = some quelle ∧
      0 < menge ∧ menge ≤ quelle.menge ∧
      u' = if menge = quelle.menge then
          { db := u.db.addZeile (zielZeile u.db lage zielId menge quelle), geloescht := quelle.id :: u.geloescht }
        else
          { u with
            db := (u.db.addZeile (zielZeile u.db lage zielId menge quelle)).setZeile quelle.id fun z =>
              { z with menge := z.menge - menge } } := by
  simp only [positionUmlagern, bind_eq_ok, require_eq_ok, demand_eq_ok, pure_eq_ok] at ok
  obtain ⟨menge, given, quelle, found, _, ⟨positive, enough⟩, rfl⟩ := ok
  exact ⟨menge, quelle, ausstattungMenge_ok given, found, positive, enough, rfl⟩

theorem positionUmlagern_nur {position : Position}
    (ok : positionUmlagern s lage mutterId zielId u position = .ok u') : NurAusstattung u.db u'.db := by
  obtain ⟨_, _, -, -, -, -, rfl⟩ := positionUmlagern_ok ok
  split <;> exact ⟨rfl, rfl⟩

theorem teilUmlagern_nur {ziel : Nat × Teil} (ok : teilUmlagern s lage mutterId u ziel = .ok u') :
    NurAusstattung u.db u'.db := by
  simp only [teilUmlagern, bind_eq_ok] at ok
  obtain ⟨next, positions, copies⟩ := ok
  refine NurAusstattung.trans (b := next.db) ?_ ?_
  · exact Transition.foldlM_keeps (P := fun v : Umlagerung => NurAusstattung u.db v.db)
      (fun v _ v' held ok => held.trans (positionUmlagern_nur ok)) ⟨rfl, rfl⟩ positions
  · refine Transition.foldlM_keeps (P := fun v : Umlagerung => NurAusstattung next.db v.db)
      (fun v kopie v' held ok => ?_) ⟨rfl, rfl⟩ copies
    rw [map_eq_ok] at ok
    obtain ⟨_, -, rfl⟩ := ok
    exact held.trans ⟨rfl, rfl⟩

end Umlagern

theorem zieleVon_ids (db : Bestand) (teile : List Teil) :
    (zieleVon db teile).map (·.1) = List.range' (db.einheiten.length + 1) teile.length :=
  List.map_fst_zip (by rw [List.length_range'])

theorem zieleVon_teile (db : Bestand) (teile : List Teil) : (zieleVon db teile).map (·.2) = teile :=
  List.map_snd_zip (by rw [List.length_range'])

theorem zieleVon_neu {id : Nat} :
    id ∈ (zieleVon db teile).map (·.1) ↔ db.einheiten.length < id ∧ id ≤ db.einheiten.length + teile.length := by
  rw [zieleVon_ids, List.mem_range'_1]
  omega

/-- The three stages of `einheit_aufteilen`. -/
theorem einheitAufteilen_ok {einheitId : Nat} (ok : einheitAufteilen s db lage einheitId teile = .ok db') :
    ∃ mutter neu db₂ u, (db.einheit? einheitId = some mutter ∧ mutter.lageId = lage.id) ∧
      neu.map (·.id) = List.range' (db.einheiten.length + 1) teile.length ∧ (∀ e ∈ neu, NeuerTeil lage mutter e) ∧
      personalVerteilen s { db with einheiten := db.einheiten ++ neu } lage mutter (zieleVon db teile) = .ok db₂ ∧
      (zieleVon db teile).foldlM (teilUmlagern s lage mutter.id) { db := db₂ } = .ok u ∧ db' = u.flush.db := by
  simp only [einheitAufteilen, bind_eq_ok, pure_eq_ok] at ok
  obtain ⟨mutter, hasMutter, _, -, _, -, db₁, angelegt, db₂, verteilt, u, umgelagert, rfl⟩ := ok
  obtain ⟨neu, rfl, ids, teile⟩ := teileAnlegen_ok angelegt
  exact ⟨mutter, neu, db₂, u, holeEinheit_ok hasMutter, ids, teile, verteilt, umgelagert, rfl⟩

theorem umlagern_nur {mutterId : Nat}
    {u : Umlagerung} (ok : ziele.foldlM (teilUmlagern s lage mutterId) { db } = .ok u) :
    NurAusstattung db u.flush.db :=
  NurAusstattung.trans (b := u.db) (Transition.foldlM_keeps (P := fun v : Umlagerung => NurAusstattung db v.db)
    (fun _ _ _ held ok => held.trans (teilUmlagern_nur ok)) ⟨rfl, rfl⟩ ok) ⟨rfl, rfl⟩

theorem ausstattungUmbuchen_nur {nachId zeileId : Nat}
    {menge : Wert} (ok : ausstattungUmbuchen s db lage vonId nachId zeileId menge = .ok db') : NurAusstattung db db' := by
  simp only [ausstattungUmbuchen, bind_eq_ok, pure_eq_ok] at ok
  obtain ⟨_, -, _, -, _, -, _, -, _, -, _, -, _, -, rfl⟩ := ok
  split <;> split <;> exact ⟨rfl, rfl⟩

section Teile

variable {db : Bestand} {neu : List LageEinheit} {teile : List Teil}

theorem neue_length {n : Nat} (ids : neu.map (·.id) = List.range' n teile.length) : neu.length = teile.length := by
  rw [← List.length_map (f := (·.id)), ids, List.length_range']

theorem teile_geformt (geformt : db.Geformt)
    (ids : neu.map (·.id) = List.range' (db.einheiten.length + 1) teile.length) :
    ({ db with einheiten := db.einheiten ++ neu } : Bestand).Geformt where
  einheiten := geformt.einheiten.append_all (by rw [ids, neue_length ids])
  personen := geformt.personen
  ohneOrg := geformt.ohneOrg
  zugehoerig := fun p member => by
    have bound := geformt.zugehoerig p member
    rw [List.length_append]
    omega

variable {e : LageEinheit}

theorem neue_id (ids : neu.map (·.id) = List.range' (db.einheiten.length + 1) teile.length)
    (member : e ∈ neu) : db.einheiten.length < e.id ∧ e.id ≤ db.einheiten.length + teile.length := by
  have listed : e.id ∈ neu.map (·.id) := List.mem_map_of_mem member
  rw [ids, List.mem_range'_1] at listed
  omega

theorem einheit?_append {id : Nat} (found : db.einheit? id = some e) (neu : List LageEinheit) :
    ({ db with einheiten := db.einheiten ++ neu } : Bestand).einheit? id = some e := by
  unfold Bestand.einheit? at found ⊢
  rw [List.find?_append, found, Option.some_or]

theorem neue_aktive (geformt : db.Geformt)
    (ids : neu.map (·.id) = List.range' (db.einheiten.length + 1) teile.length) (member : e ∈ neu) :
    db.aktive e = [] := by
  refine List.filter_eq_nil_iff.mpr fun p isPerson picked => ?_
  simp only [Bool.and_eq_true, beq_iff_eq] at picked
  have beyond := (neue_id ids member).1
  have bound := geformt.zugehoerig p isPerson
  omega

end Teile

end Einsatzcockpit.Pflege
