import Einsatzcockpit.Fuehrung.Kette

namespace Einsatzcockpit.Fuehrung

open Raising Relational Transition

section Kette

variable {db : Bestand} {l neu : LageEinheitLeader} {front : List LageEinheitLeader} {einheitId : Nat} {rolle : Rolle}

theorem inhaber_offen (rows : zeilen db einheitId rolle = front ++ [l]) (kette : Kette (front ++ [l])) (open_ : l.endAt = none) :
    inhaber db einheitId rolle = some l := by
  rw [inhaber_last rows kette.any, open_]
  rfl

theorem kette_neu (kette : Kette (zeilen db einheitId rolle)) (vacant : inhaber db einheitId rolle = none)
    (first : neu.predecessorId = none) (open_ : neu.endAt = none) : Kette (zeilen db einheitId rolle ++ [neu]) := by
  refine kette.append (fun x isLast => ?_) (fun _ => first) fun ended => ?_
  · have ended : x.endAt.isSome = true := by
      have closed := List.find?_eq_none.mp vacant x (List.mem_of_getLast? isLast)
      cases endAt : x.endAt with
      | none => exact absurd (by rw [endAt]; rfl) closed
      | some _ => rfl
    exact ⟨ended, .inr ⟨kette.latest x isLast ended, first⟩⟩
  · rw [open_] at ended
    cases ended

section

variable (kette : Kette (front ++ [l]))
include kette

theorem kette_wechsel {now : Zeit} (starts : neu.startAt = now)
    (names : neu.predecessorId = some l.id) (open_ : neu.endAt = none) (userId : Option Nat) :
    Kette (front ++ [l.beendet now "wechsel" userId] ++ [neu]) := by
  have ended : Succession Folgt (·.predecessorId = none) (fun _ => True) (front ++ [l.beendet now "wechsel" userId]) :=
    kette.any.replace (fun _ folgt => ⟨folgt.ended, folgt.link⟩) (fun first => first) trivial
  refine ended.append (fun x isLast => ?_) (fun empty => ?_) fun closed => ?_
  · rw [List.getLast?_concat] at isLast
    cases isLast
    exact ⟨rfl, .inl ⟨rfl, by rw [starts]; rfl, names⟩⟩
  · exact absurd empty (by simp)
  · rw [open_] at closed
    cases closed

theorem kette_entfernt (now : Zeit) (userId : Option Nat) :
    Kette (front ++ [l.beendet now "entfernt" userId]) :=
  kette.replace (fun _ folgt => ⟨folgt.ended, folgt.link⟩) (fun first => first) fun _ => rfl

theorem kette_korrigiert (open_ : l.endAt = none) (eingabe : Eingabe) (note : Option String) :
    Kette (front ++ [l.korrigiert eingabe note]) := by
  refine kette.replace (fun _ folgt => ⟨folgt.ended, folgt.link⟩) (fun first => first) fun ended => ?_
  rw [show (l.korrigiert eingabe note).endAt = none from open_] at ended
  cases ended

end

end Kette

/-- What an assignment leaves behind, `old` having held the role before. -/
structure Zugewiesen (db : Bestand) (einheitId : Nat) (rolle : Rolle) (old : Option LageEinheitLeader)
    (aenderung : Aenderung) (leaderId : Nat) (db' : Bestand) : Prop where
  kette : ∃ rows, Ersetzt db db' einheitId rolle rows ∧ Kette rows
  inhaber : (inhaber db' einheitId rolle).map (·.id) = some leaderId
  derselbe : aenderung ≠ .wechsel → aenderung ≠ .neu → old.map (·.id) = some leaderId

section Zugewiesen

variable {db : Bestand} {old neu : LageEinheitLeader} {front : List LageEinheitLeader} {now : Zeit} {einheitId : Nat}
  {rolle : Rolle}

theorem zugewiesen_neu (gueltig : db.Gueltig) (vacant : inhaber db einheitId rolle = none) (unit : neu.einheitId = einheitId)
    (role : neu.rolle = rolle) (next : neu.id = db.naechsteId) (first : neu.predecessorId = none) (open_ : neu.endAt = none) :
    Zugewiesen db einheitId rolle none .neu db.naechsteId (db.addLeader neu) := by
  subst unit role
  have kette := kette_neu (gueltig.kette _ _) vacant first open_
  have ersetzt := (Ersetzt.refl gueltig.leaders).addLeader next
  refine ⟨⟨_, ersetzt, kette⟩, ?_, fun _ other => absurd rfl other⟩
  rw [inhaber_offen ersetzt.rows kette open_, ← next]
  rfl

section

variable (gueltig : db.Gueltig) (found : inhaber db old.einheitId old.rolle = some old)
include gueltig found

theorem zugewiesen_korrigiert (aenderung : Aenderung)
    (eingabe : Eingabe) (note : Option String) :
    Zugewiesen db old.einheitId old.rolle (some old) aenderung old.id (db.setLeader old.id (·.korrigiert eingabe note)) := by
  obtain ⟨front, rows⟩ := zeilen_inhaber (gueltig.kette _ _) found
  have open_ := (inhaber_spec found).2.2.2
  have kette := kette_korrigiert (rows ▸ gueltig.kette _ _) open_ eingabe note
  have ersetzt := Ersetzt.setLast gueltig.leaders (f := (·.korrigiert eingabe note)) (fun _ => rfl) (fun _ => rfl) (fun _ => rfl) rows
  refine ⟨⟨_, ersetzt, kette⟩, ?_, fun _ _ => rfl⟩
  rw [inhaber_offen ersetzt.rows kette open_]
  rfl

theorem zugewiesen_wechsel
    (unit : neu.einheitId = old.einheitId) (role : neu.rolle = old.rolle) (next : neu.id = db.naechsteId) (starts : neu.startAt = now)
    (names : neu.predecessorId = some old.id) (open_ : neu.endAt = none) (userId : Option Nat) :
    Zugewiesen db old.einheitId old.rolle (some old) .wechsel db.naechsteId
      ((db.setLeader old.id (·.beendet now "wechsel" userId)).addLeader neu) := by
  obtain ⟨front, rows⟩ := zeilen_inhaber (gueltig.kette _ _) found
  have kette := kette_wechsel (rows ▸ gueltig.kette _ _) starts names open_ userId
  have closed := Ersetzt.setLast gueltig.leaders (f := (·.beendet now "wechsel" userId)) (fun _ => rfl) (fun _ => rfl) (fun _ => rfl) rows
  have later : neu.id = (db.setLeader old.id (·.beendet now "wechsel" userId)).naechsteId := by
    rw [next, Bestand.naechsteId, Bestand.naechsteId, Bestand.setLeader, length_update]
  rw [← unit, ← role] at closed ⊢
  have ersetzt := closed.addLeader later
  refine ⟨⟨_, ersetzt, kette⟩, ?_, fun other => absurd rfl other⟩
  rw [inhaber_offen ersetzt.rows kette open_, ← next]
  rfl

end

end Zugewiesen

section Operationen

variable {casefold : String → String} {db : Bestand} {now : Zeit} {einheitId : Nat} {rolle : Rolle} {eingabe : Eingabe}
  {modus : Modus} {angaben : Angaben}

theorem weiseZu_spec (gueltig : db.Gueltig) {aenderung : Aenderung} {leaderId : Nat} {db' : Bestand}
    (ergebnis : weiseZu casefold db now einheitId rolle (inhaber db einheitId rolle) eingabe modus angaben =
      (aenderung, leaderId, db')) :
    Zugewiesen db einheitId rolle (inhaber db einheitId rolle) aenderung leaderId db' := by
  cases found : inhaber db einheitId rolle with
  | none =>
    rw [found] at ergebnis
    cases ergebnis
    exact zugewiesen_neu gueltig found rfl rfl rfl rfl rfl
  | some old =>
    obtain ⟨-, ofUnit, ofRole, -⟩ := inhaber_spec found
    subst ofUnit ofRole
    rw [found, weiseZu] at ergebnis
    simp only at ergebnis
    split at ergebnis
    · cases ergebnis
      exact ⟨⟨_, .refl gueltig.leaders, gueltig.kette _ _⟩, by rw [found]; rfl, fun _ _ => rfl⟩
    · split at ergebnis
      · cases ergebnis
        exact zugewiesen_korrigiert gueltig found _ eingabe angaben.note
      · cases ergebnis
        refine zugewiesen_wechsel gueltig found ?_ ?_ ?_ ?_ ?_ ?_ angaben.userId <;> rfl

theorem weiseZu_wieder {l : LageEinheitLeader} (gleich : gleichePerson casefold l eingabe = true) :
    (weiseZu casefold db now einheitId rolle (some l) eingabe modus angaben).2.2.leaders.map (·.id) = db.leaders.map (·.id) := by
  rw [weiseZu]
  simp only [gleich, true_and, true_or, if_true]
  split
  · rfl
  · exact @map_update _ _ (·.id) _ (·.korrigiert eingabe angaben.note) (fun _ => rfl) db.leaders

variable {lage : MajorIncident} {person : Person}

theorem holeEinheit_spec {einheit : LageEinheit} (ok : holeEinheit db lage einheitId = .ok einheit) :
    einheit ∈ db.einheiten ∧ einheit.id = einheitId := by
  unfold holeEinheit at ok
  obtain ⟨found, asked, ok⟩ := bind_eq_ok.mp ok
  obtain ⟨-, -, ok⟩ := bind_eq_ok.mp ok
  cases pure_eq_ok.mp ok
  have found := demand_eq_ok.mp asked
  exact ⟨List.mem_of_find?_eq_some found, by simpa using List.find?_some found⟩

section

variable (gueltig : db.Gueltig)
include gueltig

theorem setzeGruppenkommandant_spec {ergebnis : GkErgebnis} {db' : Bestand}
    (ok : setzeGruppenkommandant casefold db now lage einheitId person angaben = .ok (ergebnis, db')) :
    db'.Gueltig ∧ ∃ eingabe modus, fuehrungseingabe db lage person = .ok eingabe ∧
      db'.leaders = (weiseZu casefold db now einheitId .fuehrer (inhaber db einheitId .fuehrer) eingabe modus angaben).2.2.leaders := by
  unfold setzeGruppenkommandant at ok
  obtain ⟨einheit, held, ok⟩ := bind_eq_ok.mp ok
  obtain ⟨modus, -, ok⟩ := bind_eq_ok.mp ok
  obtain ⟨eingabe, entered, ok⟩ := bind_eq_ok.mp ok
  obtain ⟨member, rfl⟩ := holeEinheit_spec held
  have known := gueltig.einheiten.le member
  rw [gruppenkommandant_eq gueltig member] at ok
  have spec := @weiseZu_spec casefold db now einheit.id .fuehrer eingabe modus angaben gueltig
  generalize result : weiseZu casefold db now einheit.id .fuehrer (inhaber db einheit.id .fuehrer) eingabe modus angaben = zuweisung
    at ok spec
  obtain ⟨aenderung, leaderId, db''⟩ := zuweisung
  obtain ⟨⟨rows, ersetzt, kette⟩, holder, same⟩ := spec rfl
  suffices db'.Gueltig ∧ db'.leaders = db''.leaders from ⟨this.1, eingabe, modus, entered, by rw [result]; exact this.2⟩
  -- unless the leader is another one, the pointer of the unit is right as it is
  have stays : aenderung ≠ .wechsel → aenderung ≠ .neu → ∀ e ∈ db.einheiten, e.id = einheit.id →
      e.leaderAssignmentId = (inhaber db'' einheit.id .fuehrer).map (·.id) := by
    intro notChanged notNew e inside sameId
    rw [gueltig.zeiger e inside, sameId, holder, same notChanged notNew]
  have ok := pure_eq_ok.mp ok
  cases aenderung with
  | keine =>
    cases ok
    refine ⟨?_, rfl⟩
    have unchanged := ersetzt.gueltig gueltig kette known (fun _ => rfl) (stays (by decide) (by decide))
    rwa [Bestand.setEinheit, update_id] at unchanged
  | korrektur =>
    cases ok
    exact ⟨ersetzt.gueltig gueltig kette known (fun _ => rfl) (stays (by decide) (by decide)), rfl⟩
  | telefon =>
    cases ok
    exact ⟨ersetzt.gueltig gueltig kette known (fun _ => rfl) (stays (by decide) (by decide)), rfl⟩
  | wechsel =>
    cases ok
    exact ⟨ersetzt.gueltig gueltig kette known (fun _ => rfl) fun _ _ _ => holder.symm, rfl⟩
  | neu =>
    cases ok
    exact ⟨ersetzt.gueltig gueltig kette known (fun _ => rfl) fun _ _ _ => holder.symm, rfl⟩

theorem setzeStellvertreter_spec {ergebnis : GkErgebnis} {db' : Bestand}
    (ok : setzeStellvertreter casefold db now lage einheitId person angaben = .ok (ergebnis, db')) :
    db'.Gueltig ∧ ∃ eingabe modus, fuehrungseingabe db lage person = .ok eingabe ∧
      db' = (weiseZu casefold db now einheitId .stellvertreter (inhaber db einheitId .stellvertreter) eingabe modus angaben).2.2 := by
  unfold setzeStellvertreter at ok
  obtain ⟨einheit, held, ok⟩ := bind_eq_ok.mp ok
  obtain ⟨modus, -, ok⟩ := bind_eq_ok.mp ok
  obtain ⟨eingabe, entered, ok⟩ := bind_eq_ok.mp ok
  obtain ⟨member, rfl⟩ := holeEinheit_spec held
  rw [stellvertreter_eq] at ok
  have spec := @weiseZu_spec casefold db now einheit.id .stellvertreter eingabe modus angaben gueltig _ _ _ rfl
  cases pure_eq_ok.mp ok
  refine ⟨?_, eingabe, modus, entered, rfl⟩
  obtain ⟨rows, ersetzt, kette⟩ := spec.kette
  exact ersetzt.gueltig_stellvertreter gueltig kette (gueltig.einheiten.le member)

theorem ersetzt_entfernt {old : LageEinheitLeader} (found : inhaber db einheitId rolle = some old)
    (now : Zeit) (userId : Option Nat) : ∃ rows, Ersetzt db (db.setLeader old.id (·.beendet now "entfernt" userId)) einheitId rolle rows ∧
      Kette rows ∧ inhaber (db.setLeader old.id (·.beendet now "entfernt" userId)) einheitId rolle = none := by
  obtain ⟨-, ofUnit, ofRole, -⟩ := inhaber_spec found
  subst ofUnit ofRole
  obtain ⟨front, rows⟩ := zeilen_inhaber (gueltig.kette _ _) found
  have kette := kette_entfernt (rows ▸ gueltig.kette _ _) now userId
  have ersetzt := Ersetzt.setLast gueltig.leaders (f := (·.beendet now "entfernt" userId)) (fun _ => rfl) (fun _ => rfl) (fun _ => rfl) rows
  refine ⟨_, ersetzt, kette, ?_⟩
  rw [inhaber_last ersetzt.rows kette.any]
  rfl

theorem entferneGruppenkommandant_gueltig {userId ergebnis : Option Nat} {db' : Bestand}
    (ok : entferneGruppenkommandant db now lage einheitId userId = .ok (ergebnis, db')) : db'.Gueltig := by
  unfold entferneGruppenkommandant at ok
  obtain ⟨einheit, held, ok⟩ := bind_eq_ok.mp ok
  obtain ⟨member, rfl⟩ := holeEinheit_spec held
  have holder : (zeigtAuf db einheit).filter (·.endAt.isNone) = inhaber db einheit.id .fuehrer := by
    rw [zeigtAuf_eq gueltig member]
    cases found : inhaber db einheit.id .fuehrer with
    | none => rfl
    | some l => rw [Option.filter_some, (inhaber_spec found).2.2.2]; rfl
  rw [holder] at ok
  have ok := pure_eq_ok.mp ok
  cases found : inhaber db einheit.id .fuehrer with
  | none =>
    rw [found] at ok
    cases ok
    exact gueltig
  | some old =>
    rw [found] at ok
    cases ok
    obtain ⟨rows, ersetzt, kette, vacant⟩ := ersetzt_entfernt gueltig found now userId
    exact ersetzt.gueltig gueltig kette (gueltig.einheiten.le member) (fun _ => rfl) fun _ _ _ => by rw [vacant]; rfl

theorem entferneStellvertreter_gueltig {userId ergebnis : Option Nat} {db' : Bestand}
    (ok : entferneStellvertreter db now lage einheitId userId = .ok (ergebnis, db')) : db'.Gueltig := by
  unfold entferneStellvertreter at ok
  obtain ⟨einheit, held, ok⟩ := bind_eq_ok.mp ok
  obtain ⟨member, rfl⟩ := holeEinheit_spec held
  rw [stellvertreter_eq] at ok
  have ok := pure_eq_ok.mp ok
  cases found : inhaber db einheit.id .stellvertreter with
  | none =>
    rw [found] at ok
    cases ok
    exact gueltig
  | some old =>
    rw [found] at ok
    cases ok
    obtain ⟨rows, ersetzt, kette, -⟩ := ersetzt_entfernt gueltig found now userId
    exact ersetzt.gueltig_stellvertreter gueltig kette (gueltig.einheiten.le member)

theorem einheit_gueltig (lageId : Nat) :
    ({ db with einheiten := db.einheiten ++ [{ id := db.einheiten.length + 1, lageId }] } : Bestand).Gueltig where
  leaders := gueltig.leaders
  einheiten := gueltig.einheiten.append rfl
  bekannt := by
    intro l inside
    have known := gueltig.bekannt l inside
    rw [List.length_append]
    omega
  kette := gueltig.kette
  zeiger := by
    intro e member
    rcases List.mem_append.mp member with old | new
    · exact gueltig.zeiger e old
    · cases List.mem_singleton.mp new
      have vacant : inhaber db (db.einheiten.length + 1) .fuehrer = none := by
        cases found : inhaber db (db.einheiten.length + 1) .fuehrer with
        | none => rfl
        | some l =>
          obtain ⟨inside, ofUnit, -⟩ := inhaber_spec found
          have known := gueltig.bekannt l inside
          omega
      exact congrArg (Option.map (·.id)) vacant.symm

theorem transaktion_gueltig {α : Type} {outcome : Except String (α × Bestand)}
    (kept : ∀ a db', outcome = .ok (a, db') → db'.Gueltig) : (transaktion db outcome).Gueltig := by
  cases outcome with
  | error _ => exact gueltig
  | ok result => exact kept result.1 result.2 rfl

theorem step_gueltig (vorgang : Vorgang) : (step casefold db vorgang).Gueltig := by
  cases vorgang with
  | einheit lageId => exact einheit_gueltig gueltig lageId
  | mitglied member => exact ⟨gueltig.leaders, gueltig.einheiten, gueltig.bekannt, gueltig.kette, gueltig.zeiger⟩
  | setzeGruppenkommandant now lage einheitId person angaben =>
    exact transaktion_gueltig gueltig fun _ _ ok => (setzeGruppenkommandant_spec gueltig ok).1
  | setzeStellvertreter now lage einheitId person angaben =>
    exact transaktion_gueltig gueltig fun _ _ ok => (setzeStellvertreter_spec gueltig ok).1
  | entferneGruppenkommandant now lage einheitId userId =>
    exact transaktion_gueltig gueltig fun _ _ ok => entferneGruppenkommandant_gueltig gueltig ok
  | entferneStellvertreter now lage einheitId userId =>
    exact transaktion_gueltig gueltig fun _ _ ok => entferneStellvertreter_gueltig gueltig ok

end

theorem leer_gueltig : ({} : Bestand).Gueltig where
  leaders := .nil
  einheiten := .nil
  bekannt _ member := absurd member List.not_mem_nil
  kette _ _ := .nil
  zeiger _ member := absurd member List.not_mem_nil

theorem run_gueltig (casefold : String → String) (vorgaenge : List Vorgang) : (run (step casefold) {} vorgaenge).Gueltig :=
  run_invariant Bestand.Gueltig (fun _ vorgang gueltig => step_gueltig gueltig vorgang) leer_gueltig vorgaenge

end Operationen

def Vorgang.setze : Rolle → Zeit → MajorIncident → Nat → Person → Angaben → Vorgang
  | .fuehrer => .setzeGruppenkommandant
  | .stellvertreter => .setzeStellvertreter

def offene (db : Bestand) (einheitId : Nat) (rolle : Rolle) : List LageEinheitLeader :=
  (zeilen db einheitId rolle).filter (·.endAt.isNone)

theorem offene_eq {db : Bestand} (gueltig : db.Gueltig) (einheitId : Nat) (rolle : Rolle) :
    offene db einheitId rolle = (inhaber db einheitId rolle).toList := by
  cases found : inhaber db einheitId rolle with
  | none =>
    exact List.filter_eq_nil_iff.mpr (List.find?_eq_none.mp found)
  | some l =>
    have kette := gueltig.kette einheitId rolle
    obtain ⟨front, rows⟩ := zeilen_inhaber kette found
    rw [rows] at kette
    have ended : front.filter (·.endAt.isNone) = [] := by
      refine List.filter_eq_nil_iff.mpr fun x member isOpen => ?_
      obtain ⟨y, folgt⟩ := kette.followed member
      exact not_folgt (Option.isNone_iff_eq_none.mp isOpen) y folgt
    rw [offene, rows, List.filter_append, ended, List.filter_singleton, (inhaber_spec found).2.2.2]
    rfl

/-- What the records of the leaders and deputies say at any time: the pointer of
a unit leads to its only open leader, there is at most one deputy, every record
names the one it has replaced, and none is made for who holds the role. -/
structure Verlauf (casefold : String → String) (db : Bestand) : Prop where
  fuehrer : ∀ e ∈ db.einheiten, (offene db e.id .fuehrer).map (·.id) = e.leaderAssignmentId.toList
  stellvertreter : ∀ einheitId, (offene db einheitId .stellvertreter).length ≤ 1
  kette : ∀ einheitId rolle, (zeilen db einheitId rolle).IsChain Folgt
  beginn : ∀ einheitId rolle, ∀ l ∈ (zeilen db einheitId rolle).head?, l.predecessorId = none
  wieder : ∀ rolle now lage einheitId person angaben eingabe, ∀ l ∈ offene db einheitId rolle,
    fuehrungseingabe db lage person = .ok eingabe → gleichePerson casefold l eingabe = true →
      (step casefold db (.setze rolle now lage einheitId person angaben)).leaders.map (·.id) = db.leaders.map (·.id)

theorem setze_wieder {casefold : String → String} {db : Bestand} (gueltig : db.Gueltig) {rolle : Rolle} {now : Zeit}
    {lage : MajorIncident} {einheitId : Nat} {person : Person} {angaben : Angaben} {eingabe : Eingabe} {l : LageEinheitLeader}
    (found : inhaber db einheitId rolle = some l) (entered : fuehrungseingabe db lage person = .ok eingabe)
    (gleich : gleichePerson casefold l eingabe = true) :
    (step casefold db (.setze rolle now lage einheitId person angaben)).leaders.map (·.id) = db.leaders.map (·.id) := by
  cases rolle with
  | fuehrer =>
    rw [Vorgang.setze, step]
    cases outcome : setzeGruppenkommandant casefold db now lage einheitId person angaben with
    | error _ => rfl
    | ok result =>
      obtain ⟨-, eingabe', modus, entered', leaders⟩ := setzeGruppenkommandant_spec gueltig outcome
      cases entered.symm.trans entered'
      rw [transaktion, leaders, found, weiseZu_wieder gleich]
  | stellvertreter =>
    rw [Vorgang.setze, step]
    cases outcome : setzeStellvertreter casefold db now lage einheitId person angaben with
    | error _ => rfl
    | ok result =>
      obtain ⟨-, eingabe', modus, entered', same⟩ := setzeStellvertreter_spec gueltig outcome
      cases entered.symm.trans entered'
      rw [transaktion, same, found, weiseZu_wieder gleich]

/-- The records of the leaders and deputies, after any operations. -/
theorem fuehrung_verlauf (casefold : String → String) (vorgaenge : List Vorgang) :
    Verlauf casefold (run (step casefold) {} vorgaenge) := by
  have gueltig := run_gueltig casefold vorgaenge
  refine ⟨fun e member => ?_, fun einheitId => ?_, fun einheitId rolle => (gueltig.kette einheitId rolle).links,
    fun einheitId rolle => (gueltig.kette einheitId rolle).start, ?_⟩
  · rw [offene_eq gueltig, gueltig.zeiger e member, ← Option.toList_map]
  · rw [offene_eq gueltig]
    exact Option.length_toList_le
  · intro rolle now lage einheitId person angaben eingabe l isOpen entered gleich
    rw [offene_eq gueltig, Option.mem_toList] at isOpen
    exact setze_wieder gueltig isOpen entered gleich

/-- The leader who follows a removal names nobody. -/
theorem fuehrung_luecke : ¬ ∀ vorgaenge einheitId rolle,
    (zeilen (run (step fun name => name) {} vorgaenge) einheitId rolle).IsChain fun a b => b.predecessorId = some a.id := by
  intro always
  have linked := always [.einheit 1,
    .setzeGruppenkommandant 10 { id := 1, orgId := 1 } 1 { personName := some "Anna" } {},
    .entferneGruppenkommandant 20 { id := 1, orgId := 1 } 1 none,
    .setzeGruppenkommandant 30 { id := 1, orgId := 1 } 1 { personName := some "Berta" } {}] 1 .fuehrer
  revert linked
  decide

end Einsatzcockpit.Fuehrung
