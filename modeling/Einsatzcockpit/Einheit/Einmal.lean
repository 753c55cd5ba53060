import Einsatzcockpit.Einheit.Aktion

namespace Einsatzcockpit.Einheit

open Transition Unique

variable {σ : Type*}

def Zu (anfrage : Anfrage) (row : EinheitAktion) : Prop :=
  ∃ now id antwort ergebnis, row = zeile now id anfrage antwort ergebnis

variable {anfrage : Anfrage} {row : EinheitAktion}

theorem Zu.wiedergabe (zu : Zu anfrage row) :
    wiedergabe row anfrage = (row.antwortJson.getD [], row.ergebnis.status) := by
  obtain ⟨now, id, antwort, ergebnis, rfl⟩ := zu
  have passt : aktionPasst (zeile now id anfrage antwort ergebnis) anfrage.ctx anfrage.dispatchId anfrage.aktion := by
    simp [aktionPasst, zeile]
  rw [Einheit.wiedergabe, if_pos passt]

theorem vorhandene_spec {rows : List EinheitAktion}
    (found : vorhandene rows anfrage = some row) : row ∈ rows ∧ row.clientUuid = anfrage.clientUuid := by
  have seen := List.find?_some found
  rw [Bool.and_eq_true, beq_iff_eq] at seen
  exact ⟨List.mem_of_find?_eq_some found, seen.2⟩

def Welt.gebucht (welt : Welt σ) : List Anfrage :=
  welt.buchungen.filterMap (·.anfrage)

def Welt.ausBuchungen (welt : Welt σ) (start : σ) : σ :=
  welt.buchungen.foldl (fun db buchung => buchung.wirkung db) start

structure Welt.Gueltig (start : σ) (welt : Welt σ) : Prop where
  sound : welt.aktionen.Sound (·.clientUuid)
  db : welt.db = welt.ausBuchungen start
  held : ∀ s row, (s, row) ∈ welt.aktionen.held →
    ∃ anfrage wirkung, welt.sitzungen s = .geschrieben anfrage wirkung ∧ Zu anfrage row
  belegt : ∀ anfrage ∈ welt.gebucht, ∃ row ∈ welt.aktionen.rows, Zu anfrage row
  einzeln : (welt.gebucht.map (·.clientUuid)).Nodup
  antworten : ∀ anfrage antwort, (anfrage, antwort) ∈ welt.antworten →
    ∃ row ∈ welt.aktionen.rows, row.clientUuid = anfrage.clientUuid ∧ antwort = wiedergabe row anfrage

theorem Welt.gebucht_buche (welt : Welt σ) (anfrage : Option Anfrage) (wirkung : σ → σ) :
    (welt.buche anfrage wirkung).gebucht = welt.gebucht ++ anfrage.toList := by
  unfold Welt.gebucht Welt.buche
  rw [List.filterMap_append]
  cases anfrage <;> rfl

theorem Welt.ausBuchungen_buche (welt : Welt σ) (anfrage : Option Anfrage) (wirkung : σ → σ) (start : σ) :
    (welt.buche anfrage wirkung).ausBuchungen start = wirkung (welt.ausBuchungen start) := by
  unfold Welt.ausBuchungen Welt.buche
  rw [List.foldl_append]
  rfl

namespace Welt.Gueltig

variable {start : σ} {welt : Welt σ}

variable {s : Nat}

section

variable (gueltig : welt.Gueltig start)
include gueltig

theorem setze (ohneZeile : ∀ row, (s, row) ∉ welt.aktionen.held)
    (sitzung : Sitzung σ) : (welt.setze s sitzung).Gueltig start := by
  refine ⟨gueltig.sound, gueltig.db, fun s' row member => ?_, gueltig.belegt, gueltig.einzeln, gueltig.antworten⟩
  have other : s' ≠ s := by
    rintro rfl
    exact ohneZeile row member
  obtain ⟨anfrage, wirkung, state, zu⟩ := gueltig.held s' row member
  exact ⟨anfrage, wirkung, (Function.update_of_ne other ..).trans state, zu⟩

theorem verbraucht (n : Nat) : { welt with naechsteId := n }.Gueltig start :=
  ⟨gueltig.sound, gueltig.db, gueltig.held, gueltig.belegt, gueltig.einzeln, gueltig.antworten⟩

theorem antworte {anfrage : Anfrage} {antwort : Antwort × Nat} {row : EinheitAktion}
    (member : row ∈ welt.aktionen.rows) (uuid : row.clientUuid = anfrage.clientUuid)
    (spec : antwort = wiedergabe row anfrage) : (welt.antworte anfrage antwort).Gueltig start := by
  refine ⟨gueltig.sound, gueltig.db, gueltig.held, gueltig.belegt, gueltig.einzeln, fun anfrage' antwort' given => ?_⟩
  rcases List.mem_append.mp given with old | new
  · exact gueltig.antworten anfrage' antwort' old
  · cases List.mem_singleton.mp new
    exact ⟨row, member, uuid, spec⟩

theorem umwelt (wirkung : σ → σ) : (welt.buche none wirkung).Gueltig start := by
  have same : (welt.buche none wirkung).gebucht = welt.gebucht := by
    rw [Welt.gebucht_buche, Option.toList_none, List.append_nil]
  refine ⟨gueltig.sound, ?_, gueltig.held, ?_, ?_, gueltig.antworten⟩
  · rw [Welt.ausBuchungen_buche, ← gueltig.db]
    rfl
  · rw [same]
    exact gueltig.belegt
  · rw [same]
    exact gueltig.einzeln

theorem ohneZeile
    (state : ∀ anfrage wirkung, welt.sitzungen s ≠ .geschrieben anfrage wirkung) (row : EinheitAktion) :
    (s, row) ∉ welt.aktionen.held := by
  intro member
  obtain ⟨anfrage, wirkung, written, -⟩ := gueltig.held s row member
  exact state anfrage wirkung written

theorem verwirf (s : Nat) (sitzung : Sitzung σ) :
    (verwirf s sitzung welt).Gueltig start := by
  have rolled : { welt with aktionen := welt.aktionen.rollback s }.Gueltig start :=
    ⟨gueltig.sound.rollback s, gueltig.db, fun s' row member => gueltig.held s' row (Table.held_rollback.subset member),
      gueltig.belegt, gueltig.einzeln, gueltig.antworten⟩
  exact rolled.setze (gueltig.sound.not_held ·) sitzung

theorem beginne (ohne : ∀ row, (s, row) ∉ welt.aktionen.held)
    (anfrage : Anfrage) : (beginne s anfrage welt).Gueltig start := by
  unfold Einheit.beginne
  split
  · exact gueltig
  · split
    · next row found =>
      obtain ⟨member, uuid⟩ := vorhandene_spec found
      exact gueltig.antworte member uuid rfl
    · exact gueltig.setze ohne _

theorem fuehreAus (ohne : ∀ row, (s, row) ∉ welt.aktionen.held)
    (anfrage : Anfrage) {ausfuehrung : Ausfuehrung σ} (sauber : ausfuehrung.selbst = []) :
    (fuehreAus s anfrage ausfuehrung welt).Gueltig start := by
  unfold Einheit.fuehreAus
  rw [sauber, List.foldl_nil]
  dsimp only
  split <;> exact gueltig.setze ohne _

theorem schreibe (ohne : ∀ row, (s, row) ∉ welt.aktionen.held) (now : Zeit)
    (anfrage : Anfrage) (antwort : Antwort) (ergebnis : Ergebnis) (wirkung : σ → σ) :
    (schreibe s now anfrage antwort ergebnis wirkung welt).Gueltig start := by
  unfold Einheit.schreibe
  dsimp only
  split
  · next aktionen written =>
    have sound := gueltig.sound.insert (Table.row?_eq_none ohne) (zeile now welt.naechsteId anfrage antwort ergebnis)
    rw [written] at sound
    have added := Table.inserted_spec written
    refine ⟨sound, gueltig.db, fun s' row member => ?_, ?_, gueltig.einzeln, ?_⟩
    · have inside : (s', row) ∈ aktionen.held := member
      rw [added.2] at inside
      rcases List.mem_append.mp inside with old | new
      · have other : s' ≠ s := by
          rintro rfl
          exact ohne row old
        obtain ⟨anfrage', wirkung', state, zu⟩ := gueltig.held s' row old
        exact ⟨anfrage', wirkung', (Function.update_of_ne other ..).trans state, zu⟩
      · cases List.mem_singleton.mp new
        exact ⟨anfrage, wirkung, Function.update_self .., now, _, antwort, ergebnis, rfl⟩
    · show ∀ anfrage ∈ welt.gebucht, ∃ row ∈ aktionen.rows, Zu anfrage row
      rw [added.1]
      exact gueltig.belegt
    · show ∀ anfrage antwort, (anfrage, antwort) ∈ welt.antworten → ∃ row ∈ aktionen.rows,
        row.clientUuid = anfrage.clientUuid ∧ antwort = wiedergabe row anfrage
      rw [added.1]
      exact gueltig.antworten
  · exact (gueltig.verbraucht (welt.naechsteId + 1)).setze ohne _
  · exact gueltig

theorem schliesseAb {anfrage : Anfrage} {wirkung : σ → σ}
    (state : welt.sitzungen s = .geschrieben anfrage wirkung) : (schliesseAb s anfrage wirkung welt).Gueltig start := by
  unfold Einheit.schliesseAb
  split
  · exact gueltig
  · next row written =>
    obtain ⟨anfrage', wirkung', state', zu⟩ := gueltig.held s row (Table.mem_of_row? written)
    rw [state] at state'
    cases state'
    have rows : (welt.aktionen.commit s).rows = welt.aktionen.rows ++ [row] := by
      rw [Table.commit, written]
      rfl
    have member : row ∈ (welt.aktionen.commit s).rows := by
      rw [rows]
      exact List.mem_append_right _ (List.mem_singleton_self _)
    have older : ∀ other ∈ welt.aktionen.rows, other ∈ (welt.aktionen.commit s).rows := by
      intro other old
      rw [rows]
      exact List.mem_append_left _ old
    have uuid : row.clientUuid = anfrage.clientUuid := by
      obtain ⟨now, id, antwort, ergebnis, rfl⟩ := zu
      rfl
    have fresh : ∀ other ∈ welt.aktionen.rows, other.clientUuid ≠ anfrage.clientUuid := by
      intro other old same
      have keys := gueltig.sound.keys
      rw [List.nodup_append] at keys
      refine keys.2.2 _ (List.mem_map_of_mem old) _ (List.mem_map_of_mem (Table.mem_of_row? written)) ?_
      exact same.trans uuid.symm
    have booked : ({ welt with aktionen := welt.aktionen.commit s }.buche (some anfrage) wirkung).Gueltig start := by
      have gebucht : ({ welt with aktionen := welt.aktionen.commit s }.buche (some anfrage) wirkung).gebucht =
          welt.gebucht ++ [anfrage] := Welt.gebucht_buche ..
      refine ⟨gueltig.sound.commit s, ?_, fun s' row' held => gueltig.held s' row' (Table.held_rollback.subset held),
        fun anfrage' isBooked => ?_, ?_, fun anfrage' antwort' given => ?_⟩
      · rw [Welt.ausBuchungen_buche]
        exact congrArg wirkung gueltig.db
      · rw [gebucht] at isBooked
        rcases List.mem_append.mp isBooked with old | new
        · obtain ⟨other, inside, zu'⟩ := gueltig.belegt anfrage' old
          exact ⟨other, older other inside, zu'⟩
        · rw [List.mem_singleton.mp new]
          exact ⟨row, member, zu⟩
      · rw [gebucht, List.map_append, List.map_singleton, List.nodup_append]
        refine ⟨gueltig.einzeln, List.nodup_singleton _, fun key known key' isNew => ?_⟩
        rw [List.mem_singleton.mp isNew]
        obtain ⟨anfrage', old, rfl⟩ := List.mem_map.mp known
        obtain ⟨other, inside, now, id, antwort, ergebnis, rfl⟩ := gueltig.belegt anfrage' old
        exact fresh _ inside
      · obtain ⟨other, inside, same, spec⟩ := gueltig.antworten anfrage' antwort' given
        exact ⟨other, older other inside, same, spec⟩
    exact (booked.antworte member uuid zu.wiedergabe.symm).setze (gueltig.sound.not_held ·) .frei

theorem wiederhole (ohne : ∀ row, (s, row) ∉ welt.aktionen.held)
    (anfrage : Anfrage) : (wiederhole s anfrage welt).Gueltig start := by
  unfold Einheit.wiederhole
  split
  · next row found =>
    obtain ⟨member, uuid⟩ := vorhandene_spec found
    exact (gueltig.antworte member uuid rfl).setze ohne _
  · exact gueltig.setze ohne _

theorem schreibeFremd (ohne : ∀ row, (s, row) ∉ welt.aktionen.held)
    (row : EinheitAktion) (wirkung : σ → σ) : (schreibeFremd s row wirkung welt).Gueltig start := by
  unfold Einheit.schreibeFremd
  split
  · next aktionen written =>
    have sound := gueltig.sound.insert (Table.row?_eq_none ohne) row
    rw [written] at sound
    obtain ⟨rows, held⟩ := Table.inserted_spec written
    have older : ∀ other ∈ welt.aktionen.rows, other ∈ (aktionen.commit s).rows := by
      intro other old
      rw [Table.commit, rows]
      exact List.mem_append_left _ old
    have committed : { welt with aktionen := aktionen.commit s }.Gueltig start := by
      refine ⟨sound.commit s, gueltig.db, fun s' row' member => ?_, fun anfrage isBooked => ?_, gueltig.einzeln,
        fun anfrage antwort given => ?_⟩
      · have inside := Table.held_rollback.subset member
        rw [held] at inside
        rcases List.mem_append.mp inside with old | new
        · exact gueltig.held s' row' old
        · cases List.mem_singleton.mp new
          exact absurd member (sound.not_held row)
      · obtain ⟨other, inside, zu⟩ := gueltig.belegt anfrage isBooked
        exact ⟨other, older other inside, zu⟩
      · obtain ⟨other, inside, same, spec⟩ := gueltig.antworten anfrage antwort given
        exact ⟨other, older other inside, same, spec⟩
    exact committed.umwelt wirkung
  · exact gueltig

end

end Welt.Gueltig

/-- A callback that leaves the commit to `fuehre_aktion_aus`. -/
def Schritt.sauber : Schritt σ → Bool
  | .fuehreAus _ ausfuehrung => ausfuehrung.selbst.isEmpty
  | _ => true

theorem step_gueltig {start : σ} {welt : Welt σ} (gueltig : welt.Gueltig start) (schritt : Schritt σ)
    (sauber : schritt.sauber = true) : (step welt schritt).Gueltig start := by
  cases schritt with
  | beginne s anfrage =>
    simp only [step]
    split
    · next state => exact gueltig.beginne (gueltig.ohneZeile (by simp [state])) anfrage
    · exact gueltig
  | fuehreAus s ausfuehrung =>
    simp only [step]
    split
    · next anfrage state =>
      exact gueltig.fuehreAus (gueltig.ohneZeile (by simp [state])) anfrage (List.isEmpty_iff.mp sauber)
    · exact gueltig
  | schreibe s now =>
    simp only [step]
    split
    · next anfrage antwort ergebnis wirkung state =>
      exact gueltig.schreibe (gueltig.ohneZeile (by simp [state])) now anfrage antwort ergebnis wirkung
    · exact gueltig
  | schliesseAb s =>
    simp only [step]
    split
    · next state => exact gueltig.schliesseAb state
    · exact gueltig
  | verletzt s =>
    simp only [step]
    split
    · exact gueltig.verwirf s _
    · exact gueltig.verwirf s _
    · exact gueltig
  | wiederhole s =>
    simp only [step]
    split
    · next anfrage state => exact gueltig.wiederhole (gueltig.ohneZeile (by simp [state])) anfrage
    · exact gueltig
  | abbruch s => exact gueltig.verwirf s .frei
  | fremd s row wirkung =>
    simp only [step]
    split
    · next state => exact gueltig.schreibeFremd (gueltig.ohneZeile (by simp [state])) row wirkung
    · exact gueltig
  | umwelt wirkung => exact gueltig.umwelt wirkung

/-- The caller the row was made for: the same device and access, unless it is a
simulation or a user. -/
structure Passend (row : EinheitAktion) (anfrage : Anfrage) : Prop where
  orgId : row.orgId = anfrage.ctx.orgId
  einheit : row.einheitId = anfrage.ctx.einheit
  dispatch : row.dispatchId = anfrage.dispatchId
  aktion : row.aktion = anfrage.aktion
  quelle : row.quelle = anfrage.ctx.quelle
  zugang : anfrage.ctx.simulation = true ∨ anfrage.ctx.quelle = .benutzer ∨
    row.deviceTokenId = anfrage.ctx.deviceToken ∧ row.zugangId = anfrage.ctx.zugang

def Anders (row : EinheitAktion) (anfrage : Anfrage) : Prop :=
  row.einheitId ≠ anfrage.ctx.einheit ∨ row.dispatchId ≠ anfrage.dispatchId ∨ row.aktion ≠ anfrage.aktion

theorem Passend.wiedergabe (passend : Passend row anfrage) :
    wiedergabe row anfrage = (row.antwortJson.getD [], row.ergebnis.status) := by
  have passt : aktionPasst row anfrage.ctx anfrage.dispatchId anfrage.aktion = true := by
    simp only [aktionPasst, passend.orgId, passend.einheit, passend.dispatch, passend.aktion, passend.quelle, ne_eq,
      not_true_eq_false, or_self, if_false]
    split
    · rfl
    · next own =>
      have zugang := passend.zugang
      rw [← or_assoc] at zugang
      obtain ⟨device, access⟩ := zugang.resolve_left own
      rw [device, access, beq_self_eq_true, beq_self_eq_true, Bool.and_self]
  rw [Einheit.wiedergabe, if_pos passt]

theorem Anders.wiedergabe (anders : Anders row anfrage) :
    wiedergabe row anfrage = vergeben := by
  have other : aktionPasst row anfrage.ctx anfrage.dispatchId anfrage.aktion = false := by
    refine if_pos (Or.inr ?_)
    rcases anders with einheit | dispatch | aktion
    · exact Or.inl einheit
    · exact Or.inr (Or.inl dispatch)
    · exact Or.inr (Or.inr (Or.inl aktion))
  rw [Einheit.wiedergabe, other]
  rfl

theorem Zu.nicht_anders (zu : Zu anfrage row) : ¬ Anders row anfrage := by
  obtain ⟨now, id, antwort, ergebnis, rfl⟩ := zu
  rintro (einheit | dispatch | aktion)
  · exact einheit rfl
  · exact dispatch rfl
  · exact aktion rfl

theorem vorhandene_of_mem {rows : List EinheitAktion} (nodup : (rows.map (·.clientUuid)).Nodup)
    (member : row ∈ rows) (uuid : row.clientUuid = anfrage.clientUuid)
    (sichtbar : anfrage.ctx.mandant.all (row.orgId == ·) = true) : vorhandene rows anfrage = some row := by
  obtain ⟨other, found⟩ : ∃ other, vorhandene rows anfrage = some other := by
    refine Option.isSome_iff_exists.mp (List.find?_isSome.mpr ⟨row, member, ?_⟩)
    rw [sichtbar, uuid, beq_self_eq_true, Bool.and_self]
  obtain ⟨inside, same⟩ := vorhandene_spec found
  rw [found, List.inj_on_of_nodup_map nodup inside member (same.trans uuid.symm)]

/-- What the transactions leave: at most one commit for an id of a request, its
answer for everyone who repeats it, and nothing for a request that is another. -/
structure Einmal (start : σ) (welt : Welt σ) : Prop where
  db : welt.db = welt.ausBuchungen start
  einzeln : (welt.gebucht.map (·.clientUuid)).Nodup
  gleich : ∀ anfrage antwort, (anfrage, antwort) ∈ welt.antworten →
    ∃ row ∈ welt.aktionen.rows, row.clientUuid = anfrage.clientUuid ∧
      (Passend row anfrage → antwort = (row.antwortJson.getD [], row.ergebnis.status))
  fremd : ∀ row ∈ welt.aktionen.rows, ∀ anfrage, row.clientUuid = anfrage.clientUuid → Anders row anfrage →
    anfrage ∉ welt.gebucht ∧ ∀ antwort, (anfrage, antwort) ∈ welt.antworten → antwort = vergeben
  sofort : ∀ row ∈ welt.aktionen.rows, ∀ s anfrage, welt.sitzungen s = .frei → istUuid anfrage.clientUuid = true →
    row.clientUuid = anfrage.clientUuid → anfrage.ctx.mandant.all (row.orgId == ·) = true →
      (Passend row anfrage →
        step welt (.beginne s anfrage) = welt.antworte anfrage (row.antwortJson.getD [], row.ergebnis.status)) ∧
      (Anders row anfrage → step welt (.beginne s anfrage) = welt.antworte anfrage vergeben)

theorem Welt.Gueltig.einmal {start : σ} {welt : Welt σ} (gueltig : welt.Gueltig start) : Einmal start welt := by
  have unique : ∀ {row other : EinheitAktion}, row ∈ welt.aktionen.rows → other ∈ welt.aktionen.rows →
      row.clientUuid = other.clientUuid → row = other :=
    fun member inside same => List.inj_on_of_nodup_map gueltig.sound.rows member inside same
  refine ⟨gueltig.db, gueltig.einzeln, fun anfrage antwort given => ?_, fun row member anfrage uuid anders => ⟨?_, ?_⟩,
    fun row member s anfrage frei valid uuid sichtbar => ?_⟩
  · obtain ⟨row, member, uuid, spec⟩ := gueltig.antworten anfrage antwort given
    exact ⟨row, member, uuid, fun passend => spec.trans passend.wiedergabe⟩
  · intro booked
    obtain ⟨other, inside, zu⟩ := gueltig.belegt anfrage booked
    have sameUuid : other.clientUuid = anfrage.clientUuid := by
      obtain ⟨now, id, antwort, ergebnis, rfl⟩ := zu
      rfl
    rw [unique member inside (uuid.trans sameUuid.symm)] at anders
    exact zu.nicht_anders anders
  · intro antwort given
    obtain ⟨other, inside, same, spec⟩ := gueltig.antworten anfrage antwort given
    rw [unique inside member (same.trans uuid.symm)] at spec
    exact spec.trans anders.wiedergabe
  · have found := vorhandene_of_mem gueltig.sound.rows member uuid sichtbar
    have answered : step welt (.beginne s anfrage) = welt.antworte anfrage (wiedergabe row anfrage) := by
      simp [step, frei, Einheit.beginne, valid, found]
    refine ⟨fun passend => ?_, fun anders => ?_⟩
    · rw [answered, passend.wiedergabe]
    · rw [answered, anders.wiedergabe]

theorem run_gueltig (start : σ) (schritte : List (Schritt σ)) (sauber : ∀ schritt ∈ schritte, schritt.sauber = true) :
    (run step { db := start } schritte).Gueltig start := by
  refine run_induction (Welt.Gueltig start)
    (fun _ schritt gueltig sauber => step_gueltig gueltig schritt sauber) ?_
    (Meets.of_forall (fun schritt member _ => sauber schritt member) _)
  exact ⟨Table.Sound.empty, rfl, fun _ _ none => absurd none List.not_mem_nil,
    fun _ none => absurd none List.not_mem_nil, List.nodup_nil, fun _ _ none => absurd none List.not_mem_nil⟩

theorem aktion_einmal (start : σ) (schritte : List (Schritt σ)) (sauber : ∀ schritt ∈ schritte, schritt.sauber = true) :
    Einmal start (run step { db := start } schritte) :=
  (run_gueltig start schritte sauber).einmal

def meldung (deviceToken : Nat) : Anfrage :=
  { ctx := { deviceToken := some deviceToken, einheit := 7, orgId := 1, quelle := .tablet, mandant := some 1 }
    clientUuid := "6f9619ff-8b86-d011-b42d-00c04fc964ff"
    aktion := "status"
    dispatchId := some 3 }

def wettlauf (zweites : Nat) : List (Schritt Nat) :=
  [.beginne 0 (meldung 5), .beginne 1 (meldung zweites),
    .fuehreAus 0 { wirkung := (· + 1), ausgang := .antwort [("ok", .skalar (.bool true))] },
    .fuehreAus 1 { wirkung := (· + 1), ausgang := .antwort [("ok", .skalar (.bool true))] },
    .schreibe 0 0, .schreibe 1 0, .schliesseAb 0, .schreibe 1 0, .wiederhole 1]

theorem aktion_einmal_wettlauf :
    (∀ schritt ∈ wettlauf 5, schritt.sauber = true) ∧ Einmal 0 (run step { db := 0 } (wettlauf 5)) ∧
      (run step { db := 0 } (wettlauf 5)).db = 1 := by
  have sauber : ∀ schritt ∈ wettlauf 5, schritt.sauber = true := by simp [wettlauf, Schritt.sauber]
  exact ⟨sauber, aktion_einmal 0 (wettlauf 5) sauber, by decide +kernel⟩

/-- The same unit, dispatch, action and source on another device is refused. -/
theorem anderes_geraet_vergeben :
    (meldung 6).ctx.orgId = (meldung 5).ctx.orgId ∧ (meldung 6).ctx.einheit = (meldung 5).ctx.einheit ∧
      (meldung 6).dispatchId = (meldung 5).dispatchId ∧ (meldung 6).aktion = (meldung 5).aktion ∧
      (meldung 6).ctx.quelle = (meldung 5).ctx.quelle ∧ (meldung 6).clientUuid = (meldung 5).clientUuid ∧
      (run step { db := 0 } (wettlauf 6)).antworten =
        [(meldung 5, [("ok", .skalar (.bool true)), ("aktion_id", .skalar (.zahl 1))], 200), (meldung 6, vergeben)] := by
  refine ⟨rfl, rfl, rfl, rfl, rfl, rfl, ?_⟩
  decide +kernel

end Einsatzcockpit.Einheit
