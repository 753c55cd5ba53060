import Einsatzcockpit.Pflege.Personal

namespace Einsatzcockpit.Pflege

open Raising

/-- `_ausstattung_menge` -/
def ausstattungMenge (wert : Wert) : Except String Int := do
  let menge ← zahl wert "Menge"
  require (menge ≤ 9999) "Menge darf höchstens 9999 sein"
  return menge

def quelle? (s : Sitzung) (db : Bestand) (lage : MajorIncident) (einheitId zeileId : Nat) :
    Option LageEinheitAusstattung :=
  db.ausstattung.find? fun z => z.id == zeileId && s.sieht z.orgId && z.lageId == lage.id && z.einheitId == einheitId

/-- The row of the target unit a transfer is added to: designations are equal
as the database compares them. -/
def ziel? (s : Sitzung) (db : Bestand) (lage : MajorIncident) (einheitId : Nat) (zeile : LageEinheitAusstattung) :
    Option LageEinheitAusstattung :=
  db.ausstattung.find? fun z =>
    s.sieht z.orgId && z.lageId == lage.id && z.einheitId == einheitId && z.kategorie == zeile.kategorie &&
      s.gleich z.bezeichnung zeile.bezeichnung && z.status == zeile.status

def zielZeile (db : Bestand) (lage : MajorIncident) (zielId : Nat) (menge : Int) (zeile : LageEinheitAusstattung) :
    LageEinheitAusstattung :=
  { zeile with id := db.zeilen + 1, orgId := some lage.orgId, lageId := lage.id, einheitId := zielId, menge }

/-- `_ausstattung_umbuchen` -/
def ausstattungUmbuchen (s : Sitzung) (db : Bestand) (lage : MajorIncident) (vonId nachId zeileId : Nat)
    (menge : Wert) : Except String Bestand := do
  let _ ← holeEinheit db lage vonId
  let _ ← holeEinheit db lage nachId
  require (vonId ≠ nachId) "Quelle und Ziel müssen verschieden sein"
  let menge ← ausstattungMenge menge
  require (0 < menge) "Menge muss größer als 0 sein"
  let zeile ← demand (quelle? s db lage vonId zeileId) "Ausstattung gehört nicht zur Einheit und Lage"
  require (menge ≤ zeile.menge) "Nicht genügend Ausstattung für Umbuchung"
  let erhoeht := match ziel? s db lage nachId zeile with
    | some ziel => db.setZeile ziel.id fun z => { z with menge := z.menge + menge }
    | none => db.addZeile (zielZeile db lage nachId menge zeile)
  return if zeile.menge = menge then { erhoeht with ausstattung := erhoeht.ausstattung.filter (·.id != zeile.id) }
    else erhoeht.setZeile zeile.id fun z => { z with menge := z.menge - menge }

structure Position where
  zeileId : Nat
  menge : Wert

/-- A part of a unit; `dispatchesKopieren` holds what `dispatch_to_site`
answers for each order that is copied. -/
structure Teil where
  label : Option String
  resourceType : Option String := none
  anzahl : Wert := .fehlt
  personIds : List Nat := []
  ausstattung : List Position := []
  dispatchesKopieren : List (Except String Unit) := []

/-- `_verband_pruefen` -/
def verbandPruefen (einheit : LageEinheit) : Except String Unit := do
  require (einheit.resourceType ≠ .verband) "Verbände können nicht aufgeteilt werden"
  require (einheit.verbandId = none) "Einheit ist Teil eines Verbands"

def teilEinheit (lage : MajorIncident) (mutter : LageEinheit) (id : Nat) (label : String)
    (resourceType : Gsl.ResourceType) : LageEinheit where
  id
  lageId := lage.id
  label
  resourceType
  sectorId := mutter.sectorId
  aufgeteiltVonId := some mutter.id
  personalModus := mutter.personalModus

def teileAnlegen (lage : MajorIncident) (mutter : LageEinheit) : List Teil → Bestand → Except String Bestand
  | [], db => .ok db
  | teil :: rest, db => do
    let label := strip (teil.label.getD "")
    require (label ≠ "" ∧ label.length ≤ 120) "Bezeichnung jedes Teils ist erforderlich"
    let resourceType ← demand (match teil.resourceType with
      | none => some mutter.resourceType
      | some typ => teilTyp typ) "Ungültiger Ressourcentyp für Teil"
    teileAnlegen lage mutter rest (db.addEinheit (teilEinheit lage mutter (db.einheiten.length + 1) label resourceType))

def mengenVerteilen (db : Bestand) (mutter : LageEinheit) (ziele : List (Nat × Teil)) : Except String Bestand := do
  let mengen ← ziele.mapM fun ziel => zahl ziel.2.anzahl "Anzahl"
  require (mengen.sum ≤ mutter.zahlen.gesamt) "Nicht genügend Personal für Aufteilung"
  let db := db.setEinheit mutter.id (·.mitGesamt (mutter.zahlen.gesamt - mengen.sum))
  return ((ziele.map (·.1)).zip mengen).foldl (fun db ziel => db.setEinheit ziel.1 (·.mitGesamt ziel.2)) db

def personenVerteilen (s : Sitzung) (db : Bestand) (lage : MajorIncident) (mutter : LageEinheit)
    (ziele : List (Nat × Teil)) : Except String Bestand := do
  let ids := ziele.flatMap fun ziel => ziel.2.personIds
  require ids.Nodup "Person darf nur einem Teil zugeordnet werden"
  let personen := (db.aktivePersonen s mutter).filter fun p => ids.contains p.id
  require (personen.length = ids.length) "Person gehört nicht zur Quelleinheit"
  let wege ← (ziele.flatMap fun ziel => ziel.2.personIds.map fun id => (ziel.1, id)).mapM fun weg =>
    (weg.1, ·) <$> demand (personen.find? fun p => p.id == weg.2) "Person gehört nicht zur Quelleinheit"
  let db ← verschiebeAlle s lage wege db
  return (mutter.id :: ziele.map (·.1)).foldl (neuBerechnen s) db

/-- A session that does not flush before a query: rows that were deleted stay
in the table, and are found, until the next flush. -/
structure Umlagerung where
  db : Bestand
  geloescht : List Nat := []

def Umlagerung.flush (u : Umlagerung) : Umlagerung where
  db := { u.db with ausstattung := u.db.ausstattung.filter fun z => !u.geloescht.contains z.id }

def positionUmlagern (s : Sitzung) (lage : MajorIncident) (mutterId zielId : Nat) (u : Umlagerung)
    (position : Position) : Except String Umlagerung := do
  let menge ← ausstattungMenge position.menge
  let quelle ← demand (quelle? s u.db lage mutterId position.zeileId) "Nicht genügend Ausstattung für Aufteilung"
  require (0 < menge ∧ menge ≤ quelle.menge) "Nicht genügend Ausstattung für Aufteilung"
  let db := u.db.addZeile (zielZeile u.db lage zielId menge quelle)
  return if menge = quelle.menge then { db, geloescht := quelle.id :: u.geloescht }
    else { u with db := db.setZeile quelle.id fun z => { z with menge := z.menge - menge } }

/-- A part takes its positions, then its orders are copied. Every copy
flushes. -/
def teilUmlagern (s : Sitzung) (lage : MajorIncident) (mutterId : Nat) (u : Umlagerung) (ziel : Nat × Teil) :
    Except String Umlagerung := do
  let u ← ziel.2.ausstattung.foldlM (positionUmlagern s lage mutterId ziel.1) u
  ziel.2.dispatchesKopieren.foldlM (fun (u : Umlagerung) kopie => (fun _ => u.flush) <$> kopie) u

def zieleVon (db : Bestand) (teile : List Teil) : List (Nat × Teil) :=
  (List.range' (db.einheiten.length + 1) teile.length).zip teile

def personalVerteilen (s : Sitzung) (db : Bestand) (lage : MajorIncident) (mutter : LageEinheit)
    (ziele : List (Nat × Teil)) : Except String Bestand :=
  match mutter.personalModus with
  | .summe => mengenVerteilen db mutter ziele
  | .liste => personenVerteilen s db lage mutter ziele

/-- `einheit_aufteilen` -/
def einheitAufteilen (s : Sitzung) (db : Bestand) (lage : MajorIncident) (einheitId : Nat) (teile : List Teil) :
    Except String Bestand := do
  let mutter ← holeEinheit db lage einheitId
  verbandPruefen mutter
  require (teile ≠ []) "Mindestens ein Teil ist erforderlich"
  let ziele := zieleVon db teile
  let db ← teileAnlegen lage mutter teile db
  let db ← personalVerteilen s db lage mutter ziele
  let u ← ziele.foldlM (teilUmlagern s lage mutter.id) { db }
  return u.flush.db

inductive Aktion where
  | addResource (lage : MajorIncident) (label : String) (resourceType : Gsl.ResourceType)
  | personalSetzen (lage : MajorIncident) (einheitId : Nat) (gesamt fuehrung agt sanitaeter : Wert)
      (bemerkung : Option String)
  | modusWechseln (lage : MajorIncident) (einheitId : Nat) (modus : String)
  | personHinzufuegen (lage : MajorIncident) (einheitId : Nat) (memberId : Option Nat) (name : Option String)
      (funktion : String) (qualifikationen : Option Qualifikationen) (herkunft : String) (bemerkung : Option String)
  | personEntfernen (lage : MajorIncident) (einheitId personId : Nat)
  | verstaerken (lage : MajorIncident) (einheitId : Nat) (anzahl : Wert) (personen : List PersonDaten)
  | abloesen (lage : MajorIncident) (einheitId personAltId : Nat) (memberId : Option Nat) (name funktion : Option String)
  | umbuchen (lage : MajorIncident) (vonId nachId : Nat) (anzahl : Wert) (personIds : List Nat)
  | verbandBilden (lage : MajorIncident) (label : String) (einheitIds : List Nat) (aktive : List (Nat × String))
  | verbandAufloesen (lage : MajorIncident) (verbandId : Nat)
  | ausstattungUmbuchen (lage : MajorIncident) (vonId nachId zeileId : Nat) (menge : Wert)
  | einheitAufteilen (lage : MajorIncident) (einheitId : Nat) (teile : List Teil)

def ausfuehren (s : Sitzung) (db : Bestand) : Aktion → Except String Bestand
  | .addResource lage label resourceType =>
    .ok (db.addEinheit { id := db.einheiten.length + 1, lageId := lage.id, label, resourceType })
  | .personalSetzen lage einheitId gesamt fuehrung agt sanitaeter bemerkung =>
    personalSetzen db lage einheitId gesamt fuehrung agt sanitaeter bemerkung
  | .modusWechseln lage einheitId modus => modusWechseln s db lage einheitId modus
  | .personHinzufuegen lage einheitId memberId name funktion qualifikationen herkunft bemerkung =>
    personHinzufuegen s db lage einheitId memberId name funktion qualifikationen herkunft bemerkung
  | .personEntfernen lage einheitId personId => personEntfernen s db lage einheitId personId
  | .verstaerken lage einheitId anzahl personen => verstaerken s db lage einheitId anzahl personen
  | .abloesen lage einheitId personAltId memberId name funktion =>
    abloesen s db lage einheitId personAltId memberId name funktion
  | .umbuchen lage vonId nachId anzahl personIds => umbuchen s db lage vonId nachId anzahl personIds
  | .verbandBilden lage label einheitIds aktive => verbandBilden db lage label einheitIds aktive
  | .verbandAufloesen lage verbandId => verbandAufloesen db lage verbandId
  | .ausstattungUmbuchen lage vonId nachId zeileId menge => ausstattungUmbuchen s db lage vonId nachId zeileId menge
  | .einheitAufteilen lage einheitId teile => einheitAufteilen s db lage einheitId teile

def step (db : Bestand) (anfrage : Sitzung × Aktion) : Bestand :=
  match ausfuehren anfrage.1 db anfrage.2 with
  | .ok db => db
  | .error _ => db

end Einsatzcockpit.Pflege

namespace Einsatzcockpit.Pflege

open Raising Relational

/-- What the tables always keep: the ids the tables have given out, and the
tenant that is missing on every person. -/
structure Bestand.Geformt (db : Bestand) : Prop where
  einheiten : Numbered (·.id) db.einheiten
  personen : Numbered (·.id) db.personen
  ohneOrg : ∀ p ∈ db.personen, p.orgId = none
  zugehoerig : ∀ p ∈ db.personen, p.einheitId ≤ db.einheiten.length

variable {db db' : Bestand} {id einheitId : Nat} {e : LageEinheit} {lage : MajorIncident} {s : Sitzung}
  {p : LageEinheitPerson}

theorem einheit?_spec (found : db.einheit? id = some e) :
    e ∈ db.einheiten ∧ e.id = id :=
  ⟨List.mem_of_find?_eq_some found, by simpa using List.find?_some found⟩

theorem einheit?_setEinheit_other {i other : Nat} {f : LageEinheit → LageEinheit} (keeps : ∀ e, (f e).id = e.id)
    (ne : other ≠ i) (found : db.einheit? other = some e) :
    (db.setEinheit i f).einheit? other = some e := by
  have same := find?_update_key (fun e : LageEinheit => e.id) i other f db.einheiten fun e hit => (keeps e).trans hit
  rw [if_neg ne] at same
  exact same.trans found

theorem einheit_bekannt (geformt : db.Geformt) (found : db.einheit? id = some e) :
    id ≤ db.einheiten.length := by
  obtain ⟨member, rfl⟩ := einheit?_spec found
  exact geformt.einheiten.le member

theorem numbered_setEinheit (numbered : Numbered (·.id) db.einheiten) {i : Nat}
    {f : LageEinheit → LageEinheit} (keeps : ∀ e, (f e).id = e.id) : Numbered (·.id) (db.setEinheit i f).einheiten :=
  numbered.of_map (map_update keeps _)

theorem holeEinheit_ok
    (ok : holeEinheit db lage id = .ok e) : db.einheit? id = some e ∧ e.lageId = lage.id := by
  simp only [holeEinheit, bind_eq_ok, demand_eq_ok, require_eq_ok, pure_eq_ok] at ok
  obtain ⟨_, found, _, ofLage, rfl⟩ := ok
  exact ⟨found, ofLage⟩

structure NeueZeile (db : Bestand) (lage : MajorIncident) (einheitId : Nat) (p : LageEinheitPerson) : Prop where
  id : p.id = db.personen.length + 1
  orgId : p.orgId = none
  lageId : p.lageId = lage.id
  einheitId : p.einheitId = einheitId
  bisAt : p.bisAt = none

theorem personAnlegen_ok {daten : NeuePerson}
    (ok : personAnlegen s db lage einheitId daten = .ok db') :
    ∃ p, NeueZeile db lage einheitId p ∧ db' = { db with personen := db.personen ++ [p] } := by
  simp only [personAnlegen, bind_eq_ok, pure_eq_ok] at ok
  obtain ⟨_, -, _, -, _, -, _, -, _, -, rfl⟩ := ok
  exact ⟨_, ⟨rfl, rfl, rfl, rfl, rfl⟩, rfl⟩

theorem holePerson_ok {personId : Nat} (ok : holePerson s db lage einheitId personId = .ok p) :
    p ∈ db.personen ∧ s.sieht p.orgId = true ∧ p.lageId = lage.id ∧ p.einheitId = einheitId ∧ p.bisAt = none := by
  simp only [holePerson, bind_eq_ok, demand_eq_ok, require_eq_ok, pure_eq_ok] at ok
  obtain ⟨_, found, _, ⟨ofLage, ofEinheit, active⟩, rfl⟩ := ok
  have picked := List.find?_some found
  simp only [Bool.and_eq_true] at picked
  exact ⟨List.mem_of_find?_eq_some found, picked.2, ofLage, ofEinheit, active⟩

/-- The rows of `db'` differ from those of `db` in the persons of the units
`ids` alone. -/
structure NurPersonen (ids : List Nat) (db db' : Bestand) : Prop where
  einheiten : db'.einheiten = db.einheiten
  ausstattung : db'.ausstattung = db.ausstattung
  zeilen : db'.zeilen = db.zeilen
  aktive : ∀ e : LageEinheit, e.id ∉ ids → db'.aktive e = db.aktive e
  geformt : db'.Geformt

namespace NurPersonen

variable {ids : List Nat} {db db' db'' : Bestand}

theorem refl (ids : List Nat) (geformt : db.Geformt) : NurPersonen ids db db := ⟨rfl, rfl, rfl, fun _ _ => rfl, geformt⟩

theorem trans (first : NurPersonen ids db db') (second : NurPersonen ids db' db'') : NurPersonen ids db db'' where
  einheiten := second.einheiten.trans first.einheiten
  ausstattung := second.ausstattung.trans first.ausstattung
  zeilen := second.zeilen.trans first.zeilen
  aktive := fun e outside => (second.aktive e outside).trans (first.aktive e outside)
  geformt := second.geformt

theorem mono {ids' : List Nat} (nur : NurPersonen ids db db') (sub : ids ⊆ ids') : NurPersonen ids' db db' :=
  { nur with aktive := fun e outside => nur.aktive e fun inside => outside (sub inside) }

end NurPersonen

theorem personAnlegen_nur {daten : NeuePerson}
    (geformt : db.Geformt) (bekannt : einheitId ≤ db.einheiten.length)
    (ok : personAnlegen s db lage einheitId daten = .ok db') : NurPersonen [einheitId] db db' := by
  obtain ⟨p, neu, rfl⟩ := personAnlegen_ok ok
  refine ⟨rfl, rfl, rfl, fun e outside => ?_, ⟨geformt.einheiten, geformt.personen.append neu.id, ?_, ?_⟩⟩
  · have other : (p.einheitId == e.id) = false := by
      rw [neu.einheitId, beq_eq_false_iff_ne]
      exact fun same => outside (List.mem_singleton.mpr same.symm)
    simp only [Bestand.aktive, List.filter_append, List.filter_singleton, other, Bool.and_false, Bool.false_and,
      cond_false, List.append_nil]
  · intro q member
    rcases List.mem_append.mp member with old | new
    · exact geformt.ohneOrg q old
    · exact List.mem_singleton.mp new ▸ neu.orgId
  · intro q member
    rcases List.mem_append.mp member with old | new
    · exact geformt.zugehoerig q old
    · rw [List.mem_singleton.mp new, neu.einheitId]
      exact bekannt

theorem beenden_nur (s : Sitzung) (geformt : db.Geformt)
    (member : p ∈ db.personen) : NurPersonen [p.einheitId] db (db.setPerson p.id (·.beendet s)) := by
  refine ⟨rfl, rfl, rfl, fun e outside => ?_, ⟨geformt.einheiten, ?_, ?_, ?_⟩⟩
  · refine filter_update_gone _ _ _ _ (fun q _ => ?_) |>.trans (List.filter_congr fun q inside => ?_)
    · simp only [LageEinheitPerson.beendet, Option.isNone_some, Bool.and_false]
    · by_cases same : q.id = p.id
      · have other : (q.einheitId == e.id) = false := by
          rw [geformt.personen.inj inside member same, beq_eq_false_iff_ne]
          exact fun same => outside (List.mem_singleton.mpr same.symm)
        simp only [other, Bool.and_false, Bool.false_and]
      · rw [beq_eq_false_iff_ne.mpr same, Bool.not_false, Bool.and_true]
  · exact geformt.personen.of_map
      (@map_update LageEinheitPerson Nat (·.id) (fun q => q.id == p.id) (·.beendet s) (fun _ => rfl) _)
  · intro q' inside
    obtain ⟨q, old, rfl⟩ := mem_update.mp inside
    split
    · exact geformt.ohneOrg q old
    · exact geformt.ohneOrg q old
  · intro q' inside
    obtain ⟨q, old, rfl⟩ := mem_update.mp inside
    split
    · exact geformt.zugehoerig q old
    · exact geformt.zugehoerig q old

theorem verschiebePerson_nur {zielId : Nat} (geformt : db.Geformt) (member : p ∈ db.personen) (bekannt : zielId ≤ db.einheiten.length)
    (ok : verschiebePerson s db lage zielId p = .ok db') : NurPersonen [p.einheitId, zielId] db db' := by
  have ended := beenden_nur s geformt member
  have opened := personAnlegen_nur ended.geformt bekannt ok
  exact (ended.mono (by simp)).trans (opened.mono (by simp))

theorem verschiebePerson_bleibt {zielId : Nat} (ok : verschiebePerson s db lage zielId p = .ok db') :
    ∃ neu, NeueZeile db lage zielId neu ∧
      db' = { db with personen := update (fun q => q.id == p.id) (·.beendet s) db.personen ++ [neu] } := by
  obtain ⟨neu, zeile, rfl⟩ := personAnlegen_ok ok
  refine ⟨neu, ⟨zeile.id.trans ?_, zeile.orgId, zeile.lageId, zeile.einheitId, zeile.bisAt⟩, rfl⟩
  exact congrArg (· + 1) (length_update ..)

section NeuBerechnen

variable (s : Sitzung)

@[simp] theorem setze_id (staerke : Staerke) (e : LageEinheit) : (e.setze staerke).id = e.id := rfl

@[simp] theorem setze_lageId (staerke : Staerke) (e : LageEinheit) : (e.setze staerke).lageId = e.lageId := rfl

@[simp] theorem setze_personalModus (staerke : Staerke) (e : LageEinheit) :
    (e.setze staerke).personalModus = e.personalModus := rfl

@[simp] theorem setze_setze (first second : Staerke) (e : LageEinheit) :
    (e.setze first).setze second = e.setze second := rfl

theorem neuBerechnen_foldl (db : Bestand) (ids : List Nat) :
    ids.foldl (neuBerechnen s) db =
      { db with
        einheiten := update (fun e => ids.contains e.id) (fun e => e.setze (zaehlen (db.aktivePersonen s e)))
          db.einheiten } := by
  induction ids generalizing db with
  | nil =>
    have same : update (fun e : LageEinheit => ([] : List Nat).contains e.id)
        (fun e => e.setze (zaehlen (db.aktivePersonen s e))) db.einheiten = db.einheiten :=
      update_eq_self fun _ _ => rfl
    rw [List.foldl_nil, same]
  | cons id rest ih =>
    have personen (e : LageEinheit) : (neuBerechnen s db id).aktivePersonen s e = db.aktivePersonen s e := rfl
    rw [List.foldl_cons, ih]
    simp only [personen]
    simp only [neuBerechnen, Bestand.setEinheit, update, List.map_map, Bestand.mk.injEq, and_true]
    refine List.map_congr_left fun e _ => ?_
    have counted (staerke : Staerke) : db.aktivePersonen s (e.setze staerke) = db.aktivePersonen s e := rfl
    simp only [Function.comp_apply, List.contains_cons]
    by_cases first : e.id = id
    · simp only [first, beq_self_eq_true, if_true, setze_id, Bool.true_or, counted, setze_setze, ite_self]
    · simp only [beq_eq_false_iff_ne.mpr first, Bool.false_eq_true, if_false, Bool.false_or]

end NeuBerechnen

end Einsatzcockpit.Pflege
